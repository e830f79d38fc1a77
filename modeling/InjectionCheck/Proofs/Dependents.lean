import InjectionCheck.Proofs.Provision
import InjectionCheck.Validation.Check
import Mathlib.Data.List.Basic

/-!
# What registered classes lack

A builder is checked class by class and parameter by parameter. Each parameter of a
registered class gives at most one finding, whatever configurations reach the
registrations of the class and by how many ways (`filter_dependentFindings`). Which
finding it is depends on the registration that counts for the token that is asked for:
there is none, or it provides instances of a class that do not fit.
-/

set_option autoImplicit false

namespace InjectionCheck

/-- The class and the place of the parameter that a finding is about. -/
def Finding.parameter? : Finding → Option (Nat × Nat)
  | .missingDependency _ dependent dependency _ | .typeMismatch dependent dependency _ _ _ =>
    some (dependent.declaration, dependency.index)
  | .duplicateToken _ _ | .duplicateListener _ _ | .extendsCycle _ _ _ _ => none

/-- Whether a finding of some kind is about a parameter of a class. -/
def Finding.isAbout (kind : ProblemKind) (number index : Nat) (finding : Finding) : Bool :=
  finding.kind = kind && finding.parameter? = some (number, index)

theorem Finding.isAbout_iff {kind : ProblemKind} {number index : Nat} {finding : Finding} :
    finding.isAbout kind number index = true ↔
      finding.kind = kind ∧ finding.parameter? = some (number, index) := by
  simp only [isAbout, Bool.and_eq_true, decide_eq_true_eq]

namespace Wiring

variable {wiring : Wiring}

/-! ## Registered classes -/

theorem declaration_of_class? {number : Nat} {dependent : DependentClass}
    (declared : wiring.class? number = some dependent) : dependent.declaration = number := by
  rw [class?_eq_find?] at declared
  simpa using List.find?_some declared

/-- A class is validated at the nearest registration that provides its instances. -/
theorem mem_classesToValidate {ancestry : Ancestry} {number : Nat} {registration : Registration} :
    (number, registration) ∈ ancestry.classesToValidate ↔
      (ancestry.nearestFirst.flatMap Configuration.registrations).find?
        (fun other => decide (other.provision = .instanceOf number)) = some registration := by
  have accepts : ∀ other : Registration,
      (other.provision.class?.map (·, other)).any
          (fun found : Nat × Registration => decide (found.1 = number)) =
        decide (other.provision = .instanceOf number) := by
    intro other
    cases other.provision <;> simp [Provision.class?]
  rw [Ancestry.classesToValidate, mem_distinctBy, Ancestry.registeredClasses,
    List.find?_filterMap]
  simp only [accepts]
  constructor
  · intro found
    obtain ⟨other, isFirst, isPair⟩ := Option.bind_eq_some_iff.1 found
    obtain ⟨class_, _, same⟩ := Option.map_eq_some_iff.1 isPair
    rw [← (Prod.mk.inj same).2]
    exact isFirst
  · intro isFirst
    have provides := List.find?_some isFirst
    rw [decide_eq_true_eq] at provides
    rw [isFirst, Option.bind_some, provides]
    rfl

/-- A class is validated for a configuration if and only if a configuration that is
reached provides its instances. -/
theorem exists_mem_classesToValidate {configuration : Configuration}
    (inside : configuration ∈ wiring.configurations) (number : Nat) :
    (∃ registration,
        (number, registration) ∈ (wiring.ancestry configuration).classesToValidate) ↔
      ∃ reached, wiring.Reaches configuration reached ∧
        ∃ registration ∈ reached.registrations, registration.provision = .instanceOf number := by
  simp only [mem_classesToValidate, ← Option.isSome_iff_exists, isSome_find?_ancestry inside,
    decide_eq_true_eq]

/-! ## One finding for each parameter -/

section Parameter

variable {builder : Configuration} {complete : Bool} {bindings : List Registration}
  {dependent : DependentClass} {registration : Registration} {dependency : Dependency}

/-- What is found for a parameter is about the parameter. -/
theorem parameter?_of_dependencyFinding? {finding : Finding}
    (found : wiring.dependencyFinding? builder complete bindings dependent registration
      dependency = some finding) :
    finding.parameter? = some (dependent.declaration, dependency.index) := by
  unfold dependencyFinding? at found
  split at found
  · unfold providerFinding? at found
    split at found
    · dsimp only at found
      split at found
      · cases found
      · cases found
        rfl
    · cases found
    · cases found
  · split at found
    · cases found
      rfl
    · cases found

/-- Where the finding about a parameter comes from. -/
theorem exists_of_mem_dependentFindings {ancestry : Ancestry} {finding : Finding}
    (pushed : finding ∈ wiring.dependentFindings builder ancestry complete) :
    ∃ number registration dependent dependency,
      (number, registration) ∈ ancestry.classesToValidate ∧
      wiring.class? number = some dependent ∧ dependency ∈ dependent.dependencies ∧
      wiring.dependencyFinding? builder complete (wiring.provided builder) dependent
        registration dependency = some finding := by
  obtain ⟨⟨number, registration⟩, validated, given⟩ := List.mem_flatMap.1 pushed
  cases declared : wiring.class? number with
  | none => simp [declared] at given
  | some dependent =>
      simp only [declared] at given
      obtain ⟨dependency, asks, found⟩ := List.mem_filterMap.1 given
      exact ⟨number, registration, dependent, dependency, validated, declared, asks, found⟩

/-- **What is pushed about a parameter of a class is what is found for it once.** -/
theorem filter_dependentFindings {ancestry : Ancestry} {number : Nat}
    (validated : (number, registration) ∈ ancestry.classesToValidate)
    (declared : wiring.class? number = some dependent)
    (asks : dependency ∈ dependent.dependencies) (kind : ProblemKind) :
    (wiring.dependentFindings builder ancestry complete).filter
        (Finding.isAbout kind number dependency.index) =
      (wiring.dependencyFinding? builder complete (wiring.provided builder) dependent
        registration dependency).toList.filter
          (Finding.isAbout kind number dependency.index) := by
  have distinct : (ancestry.classesToValidate.map Prod.fst).Nodup := nodup_map_distinctBy _ _
  simp only [dependentFindings]
  rw [filter_flatMap_of_distinct Prod.fst _ _ distinct validated]
  · simp only [declared]
    rw [List.filterMap_eq_flatMap_toList,
      filter_flatMap_of_distinct Dependency.index _ _ dependent.distinct asks]
    intro other differs finding found
    have about := parameter?_of_dependencyFinding? (Option.mem_toList.1 found)
    rw [Bool.eq_false_iff, ne_eq, Finding.isAbout_iff, about]
    rintro ⟨_, same⟩
    exact differs (Prod.mk.inj (Option.some.inj same)).2
  · rintro ⟨otherNumber, otherRegistration⟩ differs finding given
    cases otherDeclared : wiring.class? otherNumber with
    | none => simp [otherDeclared] at given
    | some other =>
        simp only [otherDeclared] at given
        obtain ⟨asked, _, found⟩ := List.mem_filterMap.1 given
        rw [Bool.eq_false_iff, ne_eq, Finding.isAbout_iff, parameter?_of_dependencyFinding? found]
        rintro ⟨_, same⟩
        have declares := declaration_of_class? otherDeclared
        exact differs (declares ▸ (Prod.mk.inj (Option.some.inj same)).1)

end Parameter

/-- A class that a builder brings in asks for something at one of its parameters. -/
structure Asks (wiring : Wiring) (builder : Configuration) (number index : Nat)
    (dependent : DependentClass) (dependency : Dependency) : Prop where
  /-- Some configuration that the builder reaches provides instances of the class. -/
  registered : ∃ reached, wiring.Reaches builder reached ∧
    ∃ registration ∈ reached.registrations, registration.provision = .instanceOf number
  declared : wiring.class? number = some dependent
  asked : dependency ∈ dependent.dependencies
  place : dependency.index = index

/-- What is pushed about a parameter is what is found for it at the nearest registration
of the class. -/
theorem Asks.filter_dependentFindings {builder : Configuration} {number index : Nat}
    {dependent : DependentClass} {dependency : Dependency}
    (asks : wiring.Asks builder number index dependent dependency)
    (inside : builder ∈ wiring.configurations) (complete : Bool) (kind : ProblemKind) :
    ∃ registration,
      ((wiring.ancestry builder).nearestFirst.flatMap Configuration.registrations).find?
        (fun other => decide (other.provision = .instanceOf number)) = some registration ∧
      (wiring.dependentFindings builder (wiring.ancestry builder) complete).filter
          (Finding.isAbout kind number index) =
        (wiring.dependencyFinding? builder complete (wiring.provided builder) dependent
          registration dependency).toList.filter (Finding.isAbout kind number index) := by
  obtain ⟨registration, validated⟩ :=
    (exists_mem_classesToValidate inside number).2 asks.registered
  obtain ⟨_, declared, asked, rfl⟩ := asks
  exact ⟨registration, mem_classesToValidate.1 validated,
    Wiring.filter_dependentFindings validated declared asked kind⟩

/-- If something is found for a parameter, then it is pushed exactly once, and for the
nearest registration of the class. -/
theorem Asks.filter_eq_singleton {builder : Configuration} {number index : Nat}
    {dependent : DependentClass} {dependency : Dependency} {complete : Bool} {kind : ProblemKind}
    {finding : Registration → Finding}
    (asks : wiring.Asks builder number index dependent dependency)
    (inside : builder ∈ wiring.configurations)
    (found : ∀ registration,
      wiring.dependencyFinding? builder complete (wiring.provided builder) dependent registration
          dependency = some (finding registration) ∧
        (finding registration).kind = kind) :
    ∃ registration,
      ((wiring.ancestry builder).nearestFirst.flatMap Configuration.registrations).find?
        (fun other => decide (other.provision = .instanceOf number)) = some registration ∧
      (wiring.dependentFindings builder (wiring.ancestry builder) complete).filter
          (Finding.isAbout kind number index) = [finding registration] := by
  obtain ⟨registration, nearest, pushed⟩ := asks.filter_dependentFindings inside complete kind
  obtain ⟨isFinding, isKind⟩ := found registration
  have about : (finding registration).isAbout kind number index = true := by
    rw [Finding.isAbout_iff, parameter?_of_dependencyFinding? isFinding,
      declaration_of_class? asks.declared, asks.place]
    exact ⟨isKind, rfl⟩
  refine ⟨registration, nearest, ?_⟩
  rw [pushed, isFinding, Option.toList_some, List.filter_cons_of_pos about, List.filter_nil]

/-- A finding about a parameter is found for what the class asks for there. -/
theorem exists_asks {builder : Configuration} (inside : builder ∈ wiring.configurations)
    {complete : Bool} {kind : ProblemKind} {number index : Nat} {finding : Finding}
    (pushed : finding ∈ wiring.dependentFindings builder (wiring.ancestry builder) complete)
    (about : finding.isAbout kind number index = true) :
    ∃ dependent dependency registration,
      wiring.Asks builder number index dependent dependency ∧
      wiring.dependencyFinding? builder complete (wiring.provided builder) dependent
        registration dependency = some finding := by
  obtain ⟨found, registration, dependent, dependency, validated, declared, asked, isFinding⟩ :=
    exists_of_mem_dependentFindings pushed
  have same := (Finding.isAbout_iff.1 about).2
  rw [parameter?_of_dependencyFinding? isFinding, declaration_of_class? declared] at same
  obtain ⟨rfl, place⟩ := Prod.mk.inj (Option.some.inj same)
  have registered := (exists_mem_classesToValidate inside found).1 ⟨registration, validated⟩
  exact ⟨dependent, dependency, registration, ⟨registered, declared, asked, place⟩, isFinding⟩

end Wiring

end InjectionCheck
