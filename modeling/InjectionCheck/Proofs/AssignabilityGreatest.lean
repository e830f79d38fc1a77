import Mathlib.Order.FixedPoints
import InjectionCheck.Proofs.AssignabilityRules

/-!
# Assignability is the greatest relation that obeys its rules

The rules of assignability may lead from two types back to the same two types, so they do
not define a relation by recursion. They define one nevertheless: the greatest relation of
which every pair obeys one unfolding of the rules. The comparison computes this relation
(`isAssignable_iff`).

While it compares the members of two types it assumes that the two types fit. The relation
for some assumed pairs is the greatest one whose pairs obey the rules, where assumed pairs
have the members they should have. Whatever the assumption of two types yields is yielded
without it, once their members have been compared (`discharge`).
-/

set_option autoImplicit false

namespace InjectionCheck

namespace ShapeTable

variable (table : ShapeTable)

/-! ## Relations that obey the rules -/

/-- Whether two types obey one unfolding of the rules, where the types that the rules ask
about are looked up in a relation. -/
def Unfolds (related : TypeIndex → TypeIndex → Prop) (source target : TypeIndex) : Prop :=
  (table.rule source target).Holds fun
    | .types part part' => related part part'
    | .members part part' =>
      (table.membersRule part part').Holds fun pair => related pair.1 pair.2

/-- One unfolding of the rules, where the members of assumed pairs are not asked about. -/
def unfolding (assumed : List (TypeIndex × TypeIndex)) :
    (TypeIndex → TypeIndex → Prop) →o (TypeIndex → TypeIndex → Prop) where
  toFun related source target := (table.rule source target).Holds fun
    | .types part part' => related part part'
    | .members part part' => (part, part') ∈ assumed ∨
      (table.membersRule part part').Holds fun pair => related pair.1 pair.2
  monotone' := by
    intro related related' less source target holds
    refine Formula.Holds.mono holds fun question _ yes => ?_
    cases question with
    | types part part' => exact less part part' yes
    | members part part' =>
        exact yes.imp_right fun fit => fit.mono fun pair _ => less pair.1 pair.2

/-- The greatest relation that obeys the rules, but for the members of assumed pairs. -/
def greatest (assumed : List (TypeIndex × TypeIndex)) : TypeIndex → TypeIndex → Prop :=
  (table.unfolding assumed).gfp

theorem unfolding_greatest (assumed : List (TypeIndex × TypeIndex)) :
    table.unfolding assumed (table.greatest assumed) = table.greatest assumed :=
  (table.unfolding assumed).map_gfp

theorem greatest_nil_le_unfolds : table.greatest [] ≤ table.Unfolds (table.greatest []) := by
  intro source target related
  rw [← unfolding_greatest] at related
  refine Formula.Holds.mono related fun question _ yes => ?_
  cases question with
  | types part part' => exact yes
  | members part part' => exact yes.resolve_left List.not_mem_nil

/-- **Two types whose members fit need not be assumed to fit.** -/
theorem discharge {assumed : List (TypeIndex × TypeIndex)} {source target : TypeIndex}
    (fit : (table.membersRule source target).Holds fun pair =>
      table.greatest ((source, target) :: assumed) pair.1 pair.2) :
    table.greatest ((source, target) :: assumed) ≤ table.greatest assumed := by
  refine (table.unfolding assumed).le_gfp fun part part' related => ?_
  rw [← unfolding_greatest] at related
  refine Formula.Holds.mono related fun question _ yes => ?_
  cases question with
  | types part part' => exact yes
  | members part part' =>
      rcases yes with known | compared
      · rcases List.mem_cons.1 known with same | known
        · obtain ⟨rfl, rfl⟩ := Prod.mk.inj same
          exact .inr fit
        · exact .inl known
      · exact .inr compared

/-! ## The comparison and the greatest relation -/

/-- **What the comparison accepts is in the greatest relation.** -/
theorem greatest_of_fits {assumed : List (TypeIndex × TypeIndex)} {source target : TypeIndex}
    (fit : table.fits assumed source target = true) : table.greatest assumed source target := by
  induction assumed, source, target using table.induction_on_rules with
  | step assumed source target parts members =>
      rw [fits_eq_eval, Formula.eval_iff] at fit
      rw [← unfolding_greatest]
      refine fit.mono fun question asked yes => ?_
      cases question with
      | types part part' => exact parts part part' asked yes
      | members part part' =>
          obtain ⟨rfl, rfl, inUse⟩ := table.isBelow_of_mem_rule asked
          by_cases known : (part, part') ∈ assumed
          · exact .inl known
          · rw [answer, fitsByMembers_eq_eval _ _ _ inUse, decide_eq_false known, Bool.false_or,
              Bool.and_eq_true, Formula.eval_iff] at yes
            have compared := yes.2.mono fun pair asked => members inUse known pair asked
            exact .inr (compared.mono fun pair _ => table.discharge compared pair.1 pair.2)

/-- **What is in a relation that obeys the rules is accepted,** whatever is assumed. -/
theorem fits_of_le_unfolds {related : TypeIndex → TypeIndex → Prop}
    (obeys : related ≤ table.Unfolds related) {assumed : List (TypeIndex × TypeIndex)}
    {source target : TypeIndex} (inside : related source target) :
    table.fits assumed source target = true := by
  induction assumed, source, target using table.induction_on_rules with
  | step assumed source target parts members =>
      rw [fits_eq_eval, Formula.eval_iff]
      refine (obeys source target inside).mono fun question asked yes => ?_
      cases question with
      | types part part' => exact parts part part' asked yes
      | members part part' =>
          obtain ⟨rfl, rfl, inUse⟩ := table.isBelow_of_mem_rule asked
          rw [answer, fitsByMembers_eq_eval _ _ _ inUse, table.isSome_of_holds_membersRule yes,
            Bool.true_and]
          by_cases known : (part, part') ∈ assumed
          · rw [decide_eq_true known, Bool.true_or]
          · rw [decide_eq_false known, Bool.false_or, Formula.eval_iff]
            exact yes.mono fun pair asked => members inUse known pair asked

theorem isAssignable_iff {source target : TypeIndex} :
    table.isAssignable source target = true ↔ table.greatest [] source target := by
  constructor
  · intro fit
    exact table.greatest_of_fits fit
  · intro inside
    exact table.fits_of_le_unfolds table.greatest_nil_le_unfolds inside

/-- What fits, fits under all assumptions. -/
theorem fits_of_isAssignable {source target : TypeIndex}
    (fit : table.isAssignable source target = true) (assumed : List (TypeIndex × TypeIndex)) :
    table.fits assumed source target = true :=
  table.fits_of_le_unfolds table.greatest_nil_le_unfolds (table.isAssignable_iff.1 fit)

/-- Assignability is the greatest relation that obeys its rules. -/
theorem isGreatest_isAssignable :
    IsGreatest {related : TypeIndex → TypeIndex → Prop | related ≤ table.Unfolds related}
      fun source target => table.isAssignable source target = true := by
  have same : (fun source target => table.isAssignable source target = true) =
      table.greatest [] := by
    funext source target
    exact propext table.isAssignable_iff
  constructor
  · rw [same]
    exact table.greatest_nil_le_unfolds
  · intro related obeys source target inside
    exact table.fits_of_le_unfolds obeys inside

end ShapeTable

end InjectionCheck
