import InjectionCheck.Proofs.ExtendsCycles

/-!
# The two orders of an ancestry

An ancestry lists the configurations that a configuration reaches in two orders, each one
once: with the configuration itself first, and with it last. Where none of them extends
itself, the second order has everything after what it extends (`ancestry_orders`). This is
the order in which the search for cycles leaves configurations, and it finds no cycle there.
-/

set_option autoImplicit false

namespace InjectionCheck

namespace Wiring

variable {wiring : Wiring}

/-- An ancestry is incomplete if and only if a configuration that is reached refers to
something that is no configuration. -/
theorem isIncomplete_ancestry_iff {configuration : Configuration}
    (inside : configuration ∈ wiring.configurations) :
    wiring.isIncomplete (wiring.ancestry configuration) = true ↔
      ∃ reached, wiring.Reaches configuration reached ∧
        (reached.hasUnresolvedParent = true ∨
          ∃ reference ∈ reached.parents, wiring.configuration? reference.target = none) := by
  simp only [isIncomplete, List.any_eq_true, mem_nearestFirst_ancestry inside,
    Bool.or_eq_true, Option.isNone_iff_eq_none]

/-- Everything in an ancestry is settled by what comes before it, but for references that
close cycles. -/
theorem settled_ancestorsFirst {configuration : Configuration}
    (inside : configuration ∈ wiring.configurations) :
    InOrder (wiring.Settled (wiring.cyclesFrom ∅ [configuration])) []
        (wiring.ancestry configuration).ancestorsFirst ∧
      ∀ finding ∈ wiring.cyclesFrom ∅ [configuration], wiring.IsCycle finding := by
  obtain ⟨met, after, visit, settled, cycles⟩ := wiring.exists_visit_cyclesFrom .start
    fun other isOther => List.mem_singleton.1 isOther ▸ configuration?_declaration inside
  rw [ancestry_eq_of_depthFirst visit]
  exact ⟨settled, cycles⟩

/-- **Where nothing extends itself, everything comes after what it extends.** -/
theorem sublist_ancestorsFirst {configuration child parent : Configuration}
    (inside : configuration ∈ wiring.configurations)
    (acyclic : ∀ reached, wiring.Reaches configuration reached →
      ¬Relation.TransGen wiring.Extends reached reached)
    (reaches : wiring.Reaches configuration child) (extended : wiring.Extends child parent) :
    [parent, child].Sublist (wiring.ancestry configuration).ancestorsFirst := by
  obtain ⟨settled, cycles⟩ := settled_ancestorsFirst inside
  obtain ⟨after, visit⟩ := wiring.depthFirst_ancestry configuration
  have isMet := visit.perm.mem_iff.1 ((mem_nearestFirst_ancestry inside).2 reaches)
  obtain ⟨before, rest, split, _, holds⟩ := settled.exists_before isMet
  obtain ⟨reference, isReference, found⟩ := extended
  have earlier : parent ∈ before := by
    refine (holds reference isReference parent found).resolve_right ?_
    rintro ⟨first, others, reported⟩
    obtain ⟨_, _, _, _, same, closes⟩ := cycles _ reported
    cases same
    have back : wiring.Extends child first := ⟨reference, isReference, closes.target⟩
    exact acyclic child reaches (.head' back closes.reaches)
  rw [split]
  exact (List.singleton_sublist.2 earlier).append (.cons_cons child (List.nil_sublist rest))

/-- **The orders of an ancestry.** Both have the configurations that are reached, each one
once, and the configuration itself is the first of the one and the last of the other. An
ancestry is incomplete exactly where a reference leads to no configuration. Where nothing
that is reached extends itself, the second order has every configuration after all that it
extends. -/
theorem ancestry_orders {configuration : Configuration}
    (inside : configuration ∈ wiring.configurations) :
    (wiring.ancestry configuration).nearestFirst.Perm
        (wiring.ancestry configuration).ancestorsFirst ∧
      ((wiring.ancestry configuration).nearestFirst.map Configuration.declaration).Nodup ∧
      (∀ reached, reached ∈ (wiring.ancestry configuration).nearestFirst ↔
        wiring.Reaches configuration reached) ∧
      (wiring.ancestry configuration).nearestFirst.head? = some configuration ∧
      (wiring.ancestry configuration).ancestorsFirst.getLast? = some configuration ∧
      (wiring.isIncomplete (wiring.ancestry configuration) = true ↔
        ∃ reached, wiring.Reaches configuration reached ∧
          (reached.hasUnresolvedParent = true ∨
            ∃ reference ∈ reached.parents, wiring.configuration? reference.target = none)) ∧
      ((∀ reached, wiring.Reaches configuration reached →
          ¬Relation.TransGen wiring.Extends reached reached) →
        ∀ child parent, wiring.Reaches configuration child → wiring.Extends child parent →
          [parent, child].Sublist (wiring.ancestry configuration).ancestorsFirst) := by
  obtain ⟨after, visit⟩ := wiring.depthFirst_ancestry configuration
  obtain ⟨above, _, _, order⟩ := exists_ancestry_eq inside
  refine ⟨visit.perm, visit.nodup, fun _ => mem_nearestFirst_ancestry inside, ?_, ?_,
    isIncomplete_ancestry_iff inside, ?_⟩
  · rw [order]
    rfl
  · rw [order]
    exact List.getLast?_concat
  · intro acyclic child parent reaches extended
    exact sublist_ancestorsFirst inside acyclic reaches extended

namespace Diamond

/-- A base that extends nothing. -/
def ground : Configuration := configuration 13 .fragment [] []

theorem nodup_service : ([service].map DependentClass.declaration).Nodup :=
  wired.classes_distinct

/-- The diamond on this base, in which nothing extends itself. -/
def standing : Wiring where
  program := program
  configurations := [builder, left, right, ground]
  skipped := []
  classes := [service]
  configurations_distinct := by decide
  classes_distinct := nodup_service

/-- In this diamond the declarations of what is extended have larger numbers. -/
theorem declaration_lt {child parent : Configuration}
    (extended : Relation.TransGen standing.Extends child parent)
    (inside : child ∈ standing.configurations) : child.declaration < parent.declaration := by
  have larger : ∀ configuration ∈ standing.configurations,
      ∀ reference ∈ configuration.parents, configuration.declaration < reference.target := by
    decide
  have step : ∀ {child parent : Configuration}, child ∈ standing.configurations →
      standing.Extends child parent → child.declaration < parent.declaration := by
    rintro child parent inside ⟨reference, isReference, found⟩
    rw [declaration_of_configuration? found]
    exact larger child inside reference isReference
  induction extended with
  | single extended => exact step inside extended
  | tail reaches extended ih =>
      exact ih.trans (step (mem_configurations_of_transGen reaches) extended)

end Diamond

/-- The base of the diamond comes before both sides, though it is reached by two ways. -/
theorem ancestry_orders_diamond :
    Diamond.builder ∈ Diamond.standing.configurations ∧
      [Diamond.ground, Diamond.right].Sublist
        (Diamond.standing.ancestry Diamond.builder).ancestorsFirst := by
  have inside : Diamond.builder ∈ Diamond.standing.configurations := List.mem_cons_self
  have toRight : Diamond.standing.Extends Diamond.builder Diamond.right :=
    extends_of_mem (by decide) (by decide)
  have toGround : Diamond.standing.Extends Diamond.right Diamond.ground :=
    extends_of_mem (by decide) (by decide)
  have acyclic : ∀ reached, Diamond.standing.Reaches Diamond.builder reached →
      ¬Relation.TransGen Diamond.standing.Extends reached reached := by
    intro reached reaches cycle
    exact Nat.lt_irrefl _
      (Diamond.declaration_lt cycle (mem_configurations_of_reaches inside reaches))
  obtain ⟨_, _, _, _, _, _, ordered⟩ := ancestry_orders inside
  exact ⟨inside, ordered acyclic _ _ (.single toRight) toGround⟩

end Wiring

end InjectionCheck
