import InjectionCheck.Validation.Wiring

/-!
# Findings

A finding is what is wrong with a configuration, with everything that is known of
it. A problem is how a finding is put into words. Two configurations that extend the
same one have the same problems with it, though their findings differ, so problems
and not findings are compared when repetitions are left out.
-/

set_option autoImplicit false

namespace InjectionCheck

/-- What is wrong with a configuration. -/
inductive Finding where
  /-- A class that a builder registers depends on a token that the builder does not
  provide. -/
  | missingDependency (builder : Configuration) (dependent : DependentClass)
      (dependency : Dependency) (registration : Registration)
  /-- What is provided for a token does not fit what a class expects. The types are
  written out. -/
  | typeMismatch (dependent : DependentClass) (dependency : Dependency)
      (provider : Registration) (actual expected : String)
  /-- A token is registered again. -/
  | duplicateToken (again first : Registration)
  /-- A listener is bound to an event again. -/
  | duplicateListener (again first : ListenerBinding)
  /-- A reference closes a cycle: the last configuration of the cycle extends the
  first one by it. -/
  | extendsCycle (first : Configuration) (others : List Configuration) (last : Configuration)
      (reference : ParentReference)
deriving DecidableEq, Repr

/-- The kinds of problems. -/
inductive ProblemKind where
  | missingDependency
  | typeMismatch
  | duplicateToken
  | duplicateListener
  | extendsCycle
deriving DecidableEq, Repr

namespace ProblemKind

/-- The name of a kind. -/
def text : ProblemKind → String
  | .missingDependency => "missing dependency"
  | .typeMismatch => "type mismatch"
  | .duplicateToken => "duplicate token"
  | .duplicateListener => "duplicate listener"
  | .extendsCycle => "extends cycle"

/-- What is said at the place of a problem. -/
def label : ProblemKind → String
  | .missingDependency => "registered here with an unsatisfied dependency"
  | .typeMismatch => "provider registered here"
  | .duplicateToken => "token registered again here"
  | .duplicateListener => "listener registered again here"
  | .extendsCycle => "this reference closes the cycle"

end ProblemKind

/-- A place that has to do with a problem, and what is said of it. -/
structure RelatedPlace where
  location : Location
  message : String
deriving DecidableEq, Repr

/-- A finding in words. -/
structure Problem where
  kind : ProblemKind
  message : String
  location : Location
  related : List RelatedPlace
  /-- How to mend it. -/
  hint : Option String
deriving DecidableEq, Repr

/-- A problem with its kind. -/
def Problem.text (problem : Problem) : String := s!"{problem.kind.text}: {problem.message}"

namespace Finding

/-- The kind of a finding. -/
def kind : Finding → ProblemKind
  | .missingDependency .. => .missingDependency
  | .typeMismatch .. => .typeMismatch
  | .duplicateToken .. => .duplicateToken
  | .duplicateListener .. => .duplicateListener
  | .extendsCycle .. => .extendsCycle

/-- The wording of a finding. -/
def message : Finding → String
  | .missingDependency builder dependent dependency _ =>
    s!"'{dependent.name}' requires token '{dependency.token.display}' " ++
      s!"(parameter #{dependency.index} '{dependency.parameter}'), " ++
      s!"but {builder.describe} does not provide it"
  | .typeMismatch dependent dependency provider actual expected =>
    s!"provider for token '{provider.token.display}' produces '{actual}', " ++
      s!"which is not assignable to '{expected}' expected by '{dependent.name}' " ++
      s!"(parameter #{dependency.index} '{dependency.parameter}')"
  | .duplicateToken again _ => s!"token '{again.token.display}' is already registered"
  | .duplicateListener again _ =>
    s!"listener '{again.listener.display}' is already registered for event " ++
      s!"'{again.event.display}'"
  | .extendsCycle first others _ _ =>
    s!"{first.describe} extends itself: " ++
      " -> ".intercalate ((first :: others ++ [first]).map Configuration.name)

/-- The place of a finding. -/
def location : Finding → Location
  | .missingDependency _ _ _ registration => registration.location
  | .typeMismatch _ _ provider _ _ => provider.location
  | .duplicateToken again _ => again.location
  | .duplicateListener again _ => again.location
  | .extendsCycle _ _ last reference => ⟨last.location.file, reference.span⟩

/-- The places that have to do with a finding. -/
def related : Finding → List RelatedPlace
  | .missingDependency _ _ dependency _ =>
    [⟨dependency.location, s!"'{dependency.token.display}' is required here"⟩]
  | .typeMismatch _ dependency _ _ expected => [⟨dependency.location, s!"expects '{expected}'"⟩]
  | .duplicateToken _ first => [⟨first.location, "first registered here"⟩]
  | .duplicateListener _ first => [⟨first.location, "first registered here"⟩]
  | .extendsCycle .. => []

/-- How to mend a finding. -/
def hint : Finding → String
  | .missingDependency builder _ dependency _ =>
    if dependency.token.kind = .type then
      s!"'{dependency.token.display}' is a type and cannot be registered; " ++
        s!"add `@inject(TOKEN)` to '{dependency.parameter}' with a symbol token " ++
        s!"registered in {builder.describe}"
    else
      s!"register '{dependency.token.display}' in {builder.describe} or in a configuration " ++
        "it extends"
  | .typeMismatch _ _ provider _ expected =>
    s!"bind '{provider.token.display}' to a class whose instances are assignable to '{expected}'"
  | .duplicateToken .. => "remove one of the registrations"
  | .duplicateListener .. => "remove one of the listener entries"
  | .extendsCycle .. => "remove one of the `extends` references in the cycle"

/-- A finding in words. -/
def problem (finding : Finding) : Problem :=
  ⟨finding.kind, finding.message, finding.location, finding.related, some finding.hint⟩

end Finding

/-- The diagnostic of a problem in a program. -/
def Problem.diagnostic (problem : Problem) (program : Program) : Diagnostic :=
  .error .invalidConfiguration problem.text
    (⟨problem.location.span, problem.kind.label, true, program.source? problem.location.file⟩ ::
      problem.related.map fun place =>
        ⟨place.location.span, place.message, false, program.source? place.location.file⟩)
    [] problem.hint.toList

end InjectionCheck
