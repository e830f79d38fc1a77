import InjectionCheck.Validation.Finding

/-!
# Checking configurations

First the cycles of `extends` are found, then each configuration is checked by
itself: in its ancestry a token is registered at most once, and a listener is bound
to an event at most once. For a builder, every class that is registered gets what it
depends on, and from providers whose types fit.

Where the ancestry of a builder is incomplete, nothing is said to be missing.
-/

set_option autoImplicit false

namespace InjectionCheck

/-- The elements of a list whose keys occur before them, each with the first element
with its key. -/
@[inline] def repeats {α κ : Type} [DecidableEq κ] (key : α → κ) (items : List α) : List (α × α) :=
  go [] items
where
  /-- Compares with the first elements of the keys that have been seen. -/
  @[specialize] go (firsts : List α) : List α → List (α × α)
    | [] => []
    | item :: others =>
      match firsts.find? fun first => key first = key item with
      | some first => (item, first) :: go firsts others
      | none => go (item :: firsts) others

namespace Wiring

variable (wiring : Wiring)

/-! ## Cycles -/

/-- The cycles that some references close, and which configurations were entered. -/
structure CycleSearch where
  /-- The declarations that hold the configurations that were entered. -/
  entered : NumberSet
  findings : List Finding

/-- The cycle that a reference from the innermost configuration of a path back to one
of the path closes. -/
def closedCycle (inner : Configuration) (outer : List Configuration) (parent : Configuration)
    (reference : ParentReference) : Finding :=
  let after := (inner :: outer).takeWhile fun configuration =>
    configuration.declaration ≠ parent.declaration
  .extendsCycle parent after.reverse inner reference

/-- Follows the references of the innermost configuration of a path. A reference back
to a configuration of the path closes a cycle. -/
def follow (visited : NumberSet) (inner : Configuration) (outer : List Configuration)
    (references : List ParentReference) : CycleSearch :=
  match references with
  | [] => ⟨∅, []⟩
  | reference :: others =>
    match found : wiring.configuration? reference.target with
    | none => follow visited inner outer others
    | some parent =>
      if fresh : reference.target ∉ visited then
        have := unvisited_insert_lt (mem_nodes found) fresh
        let above := follow (visited.insert reference.target) parent (inner :: outer)
          parent.parents
        have := unvisited_union_insert_lt (mem_nodes found) fresh above.entered
        let further := follow (visited.insert reference.target ∪ above.entered) inner outer others
        ⟨above.entered.insert reference.target ∪ further.entered,
          above.findings ++ further.findings⟩
      else
        let further := follow visited inner outer others
        if (inner :: outer).any (·.declaration = reference.target) then
          ⟨further.entered, closedCycle inner outer parent reference :: further.findings⟩
        else further
termination_by (unvisited wiring.nodes visited, references.length)
decreasing_by
  · exact .right _ (Nat.lt_succ_self _)
  · exact .left _ _ ‹_›
  · exact .left _ _ ‹_›
  · exact .right _ (Nat.lt_succ_self _)

/-- The cycles that are closed from some configurations on, each of which is followed
unless it was entered before. -/
def cyclesFrom (visited : NumberSet) : (configurations : List Configuration) → List Finding
  | [] => []
  | configuration :: others =>
    if configuration.declaration ∈ visited then cyclesFrom visited others
    else
      let search := wiring.follow (visited.insert configuration.declaration) configuration []
        configuration.parents
      search.findings ++
        cyclesFrom (visited.insert configuration.declaration ∪ search.entered) others

/-- The references that close cycles. -/
def cycles : List Finding := wiring.cyclesFrom ∅ wiring.configurations

/-! ## Single configurations -/

/-- The tokens that are registered again in an ancestry. -/
def duplicateTokens (ancestry : Ancestry) : List Finding :=
  (repeats (·.token.declaration) ancestry.registrations).map fun (again, first) =>
    .duplicateToken again first

/-- The listeners that are bound again to the same event in an ancestry. -/
def duplicateListeners (ancestry : Ancestry) : List Finding :=
  (repeats (fun binding => (binding.event.declaration, binding.listener.declaration))
    ancestry.listeners).map fun (again, first) => .duplicateListener again first

/-- What is wrong with a provider of what a class depends on. What a factory or a value
gives is known at run time only. -/
def providerFinding? (dependent : DependentClass) (dependency : Dependency)
    (provider : Registration) : Option Finding :=
  match provider.provision with
  | .instanceOf declaration =>
    let output := wiring.program.declarationType declaration
    if wiring.program.isAssignable output dependency.expected then none
    else some (.typeMismatch dependent dependency provider (wiring.program.format output)
      (wiring.program.format dependency.expected))
  | .factory | .value => none

/-- What is wrong with one of the things that a registered class depends on. -/
def dependencyFinding? (builder : Configuration) (complete : Bool) (bindings : List Registration)
    (dependent : DependentClass) (registration : Registration) (dependency : Dependency) :
    Option Finding :=
  match provider? bindings dependency.token.declaration with
  | some provider => wiring.providerFinding? dependent dependency provider
  | none =>
    if complete then some (.missingDependency builder dependent dependency registration) else none

/-- What is wrong with what the registered classes of a builder depend on, if it is known
whether the ancestry is complete. -/
def dependentFindings (builder : Configuration) (ancestry : Ancestry) (complete : Bool) :
    List Finding :=
  let bindings := wiring.provided builder
  ancestry.classesToValidate.flatMap fun (declaration, registration) =>
    match wiring.class? declaration with
    | none => []
    | some dependent =>
      dependent.dependencies.filterMap
        (wiring.dependencyFinding? builder complete bindings dependent registration)

/-- What is wrong with what the registered classes of a builder depend on. -/
def builderFindings (builder : Configuration) (ancestry : Ancestry) : List Finding :=
  wiring.dependentFindings builder ancestry (!wiring.isIncomplete ancestry)

/-- What is wrong with a configuration by itself. -/
def configurationFindings (configuration : Configuration) : List Finding :=
  let ancestry := wiring.ancestry configuration
  duplicateTokens ancestry ++ duplicateListeners ancestry ++
    if configuration.isBuilder then wiring.builderFindings configuration ancestry else []

/-! ## The whole wiring -/

/-- Everything that is wrong: cycles first, then configuration by configuration. -/
def findings : List Finding :=
  wiring.cycles ++ wiring.configurations.flatMap wiring.configurationFindings

/-- Everything that is wrong in words, each problem once. -/
def problems : List Problem := distinctBy id (wiring.findings.map Finding.problem)

/-- The diagnostics of everything that is wrong. -/
def diagnostics : List Diagnostic :=
  wiring.problems.map (·.diagnostic wiring.program)

end Wiring

end InjectionCheck
