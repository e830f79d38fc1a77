import InjectionCheck.Proofs.DepthFirst
import InjectionCheck.Proofs.Distinct
import Mathlib.Tactic.Tauto

/-!
# What a configuration provides

`resolve` puts together what configurations provide from the inside out: what the
parents provide, an earlier one before a later one, under what the configuration
registers itself. `walk` lists the same configurations from the outside in. Both follow
the depth-first visit, so the registration that `resolve` keeps for a token is the first
one in the registrations of the ancestry, nearest first (`provided_eq_effective`).
-/

set_option autoImplicit false

namespace InjectionCheck

namespace Wiring

variable {wiring : Wiring}

/-! ## Putting registrations together -/

/-- The registrations that count among two lists are those of the first one with those of
the second one under them. -/
theorem effective_append (first second : List Registration) :
    effective (first ++ second) = overlaid (effective first) (effective second) :=
  distinctBy_append _ first second

theorem provider?_effective (registrations : List Registration) (token : Nat) :
    provider? (effective registrations) token =
      registrations.find? fun registration =>
        decide (registration.token.declaration = token) :=
  find?_distinctBy _ registrations token

/-! ## The resolution follows the visit -/

theorem resolve_nil (visited : NumberSet) : wiring.resolve visited [] = ⟨∅, []⟩ := by
  rw [resolve]

theorem resolve_missing {target : Nat} (absent : wiring.configuration? target = none)
    (visited : NumberSet) (others : List Nat) :
    wiring.resolve visited (target :: others) = wiring.resolve visited others := by
  rw [resolve]
  split
  · rfl
  · next found => simp [absent] at found

theorem resolve_again {visited : NumberSet} {target : Nat} (inside : target ∈ visited)
    (others : List Nat) :
    wiring.resolve visited (target :: others) = wiring.resolve visited others := by
  rw [resolve]
  split
  · rfl
  · rw [dif_neg (not_not_intro inside)]

theorem resolve_enter {visited : NumberSet} {target : Nat} {configuration : Configuration}
    (found : wiring.configuration? target = some configuration) (fresh : target ∉ visited)
    (others : List Nat) :
    wiring.resolve visited (target :: others) =
      let inner := wiring.resolve (visited.insert target)
        (configuration.parents.map ParentReference.target)
      let outer := wiring.resolve (visited.insert target ∪ inner.entered) others
      ⟨inner.entered.insert target ∪ outer.entered,
        overlaid (overlaid (effective configuration.registrations) inner.bindings)
          outer.bindings⟩ := by
  rw [resolve]
  split
  · next absent => simp [found] at absent
  · next other same =>
      obtain rfl := Option.some.inj (found.symm.trans same)
      rw [dif_pos fresh]

/-- **The resolution provides what counts among the registrations that the visit meets,
and enters the configurations that the visit meets.** -/
theorem resolve_of_depthFirst {visited after : NumberSet} {pending : List Nat} {met : Ancestry}
    (visit : wiring.DepthFirst visited pending met after) :
    (wiring.resolve visited pending).bindings =
        effective (met.nearestFirst.flatMap Configuration.registrations) ∧
      visited ∪ (wiring.resolve visited pending).entered = after := by
  induction visit with
  | done visited =>
      rw [resolve_nil]
      refine ⟨rfl, ?_⟩
      ext number
      simp
  | missing absent _ ih =>
      rw [resolve_missing absent]
      exact ih
  | again inside _ ih =>
      rw [resolve_again inside]
      exact ih
  | @enter visited _ _ target _ _ _ _ found fresh _ _ above further =>
      obtain ⟨aboveBindings, aboveEntered⟩ := above
      obtain ⟨furtherBindings, furtherEntered⟩ := further
      rw [resolve_enter found fresh]
      refine ⟨?_, ?_⟩
      · simp only [aboveEntered, aboveBindings, furtherBindings]
        rw [List.cons_append, List.flatMap_cons, List.flatMap_append, ← List.append_assoc,
          effective_append, effective_append]
      · simp only [aboveEntered]
        rw [← furtherEntered, ← aboveEntered]
        ext number
        simp only [NumberSet.mem_union, NumberSet.mem_insert]
        tauto

/-- **What a configuration provides is what counts among the registrations of its
ancestry, nearest first.** -/
theorem provided_eq_effective (configuration : Configuration) :
    wiring.provided configuration =
      effective ((wiring.ancestry configuration).nearestFirst.flatMap
        Configuration.registrations) := by
  obtain ⟨after, visit⟩ := wiring.depthFirst_ancestry configuration
  exact (resolve_of_depthFirst visit).1

/-- The provider for a token is the first registration of the token, nearest first. -/
theorem provider?_provided (configuration : Configuration) (token : Nat) :
    provider? (wiring.provided configuration) token =
      ((wiring.ancestry configuration).nearestFirst.flatMap Configuration.registrations).find?
        fun registration => decide (registration.token.declaration = token) := by
  rw [provided_eq_effective, provider?_effective]

/-- The declarations that have been entered hold what the configuration reaches. -/
theorem mem_entered_resolve {configuration : Configuration}
    (inside : configuration ∈ wiring.configurations) (number : Nat) :
    number ∈ (wiring.resolve ∅ [configuration.declaration]).entered ↔
      ∃ reached, wiring.Reaches configuration reached ∧ reached.declaration = number := by
  obtain ⟨after, visit⟩ := wiring.depthFirst_ancestry configuration
  have entered : number ∈ (wiring.resolve ∅ [configuration.declaration]).entered ↔
      number ∈ after := by
    rw [← (resolve_of_depthFirst visit).2, NumberSet.mem_union]
    simp
  rw [entered, visit.mem_after]
  simp only [NumberSet.not_mem_empty, false_or, mem_nearestFirst_ancestry inside]

/-- A search through the registrations of an ancestry finds something if and only if a
configuration that is reached registers it. -/
theorem isSome_find?_ancestry {configuration : Configuration}
    (inside : configuration ∈ wiring.configurations) (accepts : Registration → Bool) :
    (((wiring.ancestry configuration).nearestFirst.flatMap
        Configuration.registrations).find? accepts).isSome ↔
      ∃ reached, wiring.Reaches configuration reached ∧
        ∃ registration ∈ reached.registrations, accepts registration := by
  simp only [List.find?_isSome, List.mem_flatMap, mem_nearestFirst_ancestry inside]
  constructor
  · rintro ⟨registration, ⟨reached, reaches, registers⟩, accepted⟩
    exact ⟨reached, reaches, registration, registers, accepted⟩
  · rintro ⟨reached, reaches, registration, registers, accepted⟩
    exact ⟨registration, ⟨reached, reaches, registers⟩, accepted⟩

/-- **The resolution agrees with the ancestry.** A configuration provides a token if and
only if it reaches a configuration that registers the token. It provides each token once,
by the first registration in its ancestry, nearest first. The declarations that have been
entered are those of the configurations that it reaches. -/
theorem resolution_agrees_with_ancestry {configuration : Configuration}
    (inside : configuration ∈ wiring.configurations) :
    (∀ token, (provider? (wiring.provided configuration) token).isSome ↔
        ∃ reached, wiring.Reaches configuration reached ∧
          ∃ registration ∈ reached.registrations, registration.token.declaration = token) ∧
      (∀ token, provider? (wiring.provided configuration) token =
        ((wiring.ancestry configuration).nearestFirst.flatMap
          Configuration.registrations).find?
            fun registration => decide (registration.token.declaration = token)) ∧
      ((wiring.provided configuration).map (·.token.declaration)).Nodup ∧
      (∀ number, number ∈ (wiring.resolve ∅ [configuration.declaration]).entered ↔
        ∃ reached, wiring.Reaches configuration reached ∧ reached.declaration = number) := by
  refine ⟨?_, ?_, ?_, ?_⟩
  · intro token
    rw [provider?_provided, isSome_find?_ancestry inside]
    simp only [decide_eq_true_eq]
  · exact provider?_provided configuration
  · rw [provided_eq_effective]
    exact nodup_map_distinctBy _ _
  · exact mem_entered_resolve inside

/-! ## A diamond that closes a circle -/

namespace Diamond

/-- A program without files, whose first declaration has the type of numbers. -/
def program : Program where
  files := #[]
  linkage := ⟨#[], #[]⟩
  diagnostics := []
  declarationTypes := #[.ofPrimitive .number]
  table := .empty ⟨#[], #[]⟩ (.empty ⟨#[], #[]⟩)

/-- The token of a class. -/
def token (declaration : Nat) : InjectionToken := ⟨declaration, .class_, "Logger"⟩

/-- The configurations register the token of the first parameter. -/
def registered : Dependency := ⟨token 1, .ofPrimitive .string, "logger", 0, ⟨0, ⟨1, 2⟩⟩⟩

/-- No configuration registers the token of the second parameter. -/
def unregistered : Dependency := ⟨token 2, .any, "other", 1, ⟨0, ⟨3, 4⟩⟩⟩

/-- A class whose constructor asks for both. -/
def service : DependentClass where
  declaration := 0
  name := "Service"
  file := 0
  dependencies := [registered, unregistered]
  distinct := by decide

/-- A configuration that extends others. -/
def configuration (declaration : Nat) (kind : ConfigurationKind)
    (registrations : List Registration) (parents : List Nat) : Configuration where
  declaration := declaration
  kind := kind
  name := "config"
  location := ⟨0, ⟨declaration, declaration + 1⟩⟩
  registrations := registrations
  listeners := []
  parents := parents.map fun parent => ⟨parent, ⟨parent, parent + 1⟩⟩
  hasUnresolvedParent := false

/-- The builder extends the left configuration twice, and the right one in between. -/
def builder : Configuration :=
  configuration 10 (.builder none) [⟨token 0, .instanceOf 0, ⟨0, ⟨10, 11⟩⟩⟩] [11, 12, 11]

/-- The left side registers the token with a value. -/
def left : Configuration :=
  configuration 11 .fragment [⟨token 1, .value, ⟨0, ⟨11, 12⟩⟩⟩] [13]

/-- The right side registers the same token with a class. -/
def right : Configuration :=
  configuration 12 .fragment [⟨token 1, .instanceOf 0, ⟨0, ⟨12, 13⟩⟩⟩] [13]

/-- The base, which both sides extend, extends the builder. -/
def base : Configuration :=
  configuration 13 .fragment [⟨token 1, .factory, ⟨0, ⟨13, 14⟩⟩⟩] [10]

/-- All four configurations. -/
def wired : Wiring where
  program := program
  configurations := [builder, left, right, base]
  skipped := []
  classes := [service]
  configurations_distinct := by decide
  classes_distinct := by decide

theorem builder_mem : builder ∈ wired.configurations := List.mem_cons_self

end Diamond

/-- The builder of the diamond, which reaches itself by way of the base. -/
theorem resolution_agrees_with_ancestry_diamond :
    Diamond.builder ∈ Diamond.wired.configurations ∧
      ∀ token, (provider? (Diamond.wired.provided Diamond.builder) token).isSome ↔
        ∃ reached, Diamond.wired.Reaches Diamond.builder reached ∧
          ∃ registration ∈ reached.registrations, registration.token.declaration = token :=
  ⟨Diamond.builder_mem, (resolution_agrees_with_ancestry Diamond.builder_mem).1⟩

end Wiring

end InjectionCheck
