import Mathlib.Data.Finset.Basic
import InjectionCheck.Proofs.AssignabilityGreatest

/-!
# One set of assumed pairs for a whole comparison

The comparison can be run with one set of assumed pairs that all its parts share: a pair
enters the set when its members are compared, and leaves the set when that is done. The set
is never copied, and no answer is kept in it.

Such a run has the same answer as the comparison that hands its assumptions down, and it
leaves the set as it was (`exists_depth_compare`). Run from the empty set it therefore
decides the greatest relation that obeys the rules, and ends with the empty set.
-/

set_option autoImplicit false

namespace InjectionCheck

/-- What settles at some depth for each of some questions settles for all of them at once. -/
theorem exists_depth {γ : Type} {settled : γ → Nat → Prop} {questions : List γ}
    (each : ∀ question ∈ questions, ∃ depth, ∀ deeper ≥ depth, settled question deeper) :
    ∃ depth, ∀ deeper ≥ depth, ∀ question ∈ questions, settled question deeper := by
  induction questions with
  | nil => exact ⟨0, fun _ _ question inside => absurd inside List.not_mem_nil⟩
  | cons question others ih =>
      obtain ⟨first, atFirst⟩ := each question List.mem_cons_self
      obtain ⟨rest, atRest⟩ := ih fun other inside => each other (List.mem_cons_of_mem _ inside)
      refine ⟨max first rest, fun deeper deep other inside => ?_⟩
      rcases List.mem_cons.1 inside with rfl | later
      · exact atFirst deeper (le_trans (le_max_left _ _) deep)
      · exact atRest deeper (le_trans (le_max_right _ _) deep) other later

/-- A computation that shares a set of assumed pairs, and may have no result. -/
abbrev Sharing (α : Type) : Type := StateT (Finset (TypeIndex × TypeIndex)) Option α

namespace ShapeTable

variable (table : ShapeTable)

/-! ## The run -/

/-- Compares the members of two types, which are assumed to fit in the meantime. -/
def compareMembers (compare : TypeIndex → TypeIndex → Sharing Bool) (source target : TypeIndex) :
    Sharing Bool := do
  if (table.members? target).isNone then return false
  else if (source, target) ∈ (← get) then return true
  else
    modify (insert (source, target))
    let fit ← (table.membersRule source target).run fun pair => compare pair.1 pair.2
    modify (·.erase (source, target))
    return fit

/-- Puts a question to a comparison. -/
def pose (compare : TypeIndex → TypeIndex → Sharing Bool) : Comparison → Sharing Bool
  | .types source target => compare source target
  | .members source target => table.compareMembers compare source target

/-- Compares two types, in calls that are nested no deeper than some depth. -/
def compare (depth : Nat) (source target : TypeIndex) : Sharing Bool :=
  match depth with
  | 0 => fun _ => none
  | depth + 1 => (table.rule source target).run (table.pose (compare depth))

/-! ## Comparing members -/

section Members

variable {compare : TypeIndex → TypeIndex → Sharing Bool} {source target : TypeIndex}
  {wanted : List Member} {state : Finset (TypeIndex × TypeIndex)}

theorem compareMembers_missing (absent : table.members? target = none) :
    table.compareMembers compare source target state = some (false, state) := by
  rw [compareMembers, absent]
  rfl

theorem compareMembers_again (found : table.members? target = some wanted)
    (inside : (source, target) ∈ state) :
    table.compareMembers compare source target state = some (true, state) := by
  rw [compareMembers, found]
  change (if (source, target) ∈ state then pure true else _ : Sharing Bool) state = _
  rw [if_pos inside]
  rfl

theorem compareMembers_enter (found : table.members? target = some wanted)
    (fresh : (source, target) ∉ state) :
    table.compareMembers compare source target state =
      ((table.membersRule source target).run (fun pair => compare pair.1 pair.2)
        (insert (source, target) state)).map (Prod.map id (·.erase (source, target))) := by
  rw [compareMembers, found, Option.map_eq_bind]
  change (if (source, target) ∈ state then pure true else _ : Sharing Bool) state = _
  rw [if_neg fresh]
  rfl

end Members

/-- Where the comparisons of the members leave the assumed pairs as they were, the
comparison by members does too. -/
theorem compareMembers_eq_some {compare : TypeIndex → TypeIndex → Sharing Bool}
    {assumed : List (TypeIndex × TypeIndex)} {source target : TypeIndex}
    (inUse : table.pool.entry source ≠ .reserved)
    (answers : (source, target) ∉ assumed → ∀ pair ∈ (table.membersRule source target).questions,
      compare pair.1 pair.2 ((source, target) :: assumed).toFinset =
        some (table.fits ((source, target) :: assumed) pair.1 pair.2,
          ((source, target) :: assumed).toFinset)) :
    table.compareMembers compare source target assumed.toFinset =
      some (table.fitsByMembers assumed source target, assumed.toFinset) := by
  rw [fitsByMembers_eq_eval _ _ _ inUse]
  cases found : table.members? target with
  | none => exact table.compareMembers_missing found
  | some wanted =>
      rw [Option.isSome_some, Bool.true_and]
      by_cases known : (source, target) ∈ assumed
      · rw [table.compareMembers_again found (List.mem_toFinset.2 known), decide_eq_true known,
          Bool.true_or]
      · have fresh : (source, target) ∉ assumed.toFinset := by
          rwa [List.mem_toFinset]
        have body := Formula.run_eq_some (answers known)
        rw [List.toFinset_cons] at body
        rw [table.compareMembers_enter found fresh, body, Option.map_some, Prod.map_apply,
          Finset.erase_insert fresh, decide_eq_false known, Bool.false_or, id_eq]

/-! ## What a run leaves behind -/

/-- **A run has the answer of the comparison, and leaves the assumed pairs as they were.** -/
theorem exists_depth_compare (assumed : List (TypeIndex × TypeIndex))
    (source target : TypeIndex) :
    ∃ depth, ∀ deeper ≥ depth, table.compare deeper source target assumed.toFinset =
      some (table.fits assumed source target, assumed.toFinset) := by
  induction assumed, source, target using table.induction_on_rules with
  | step assumed source target parts members =>
      have settled : ∃ depth, ∀ deeper ≥ depth,
          ∀ question ∈ (table.rule source target).questions,
            table.pose (table.compare deeper) question assumed.toFinset =
              some (table.answer assumed question, assumed.toFinset) := by
        refine exists_depth fun question asked => ?_
        cases question with
        | types part part' => exact parts part part' asked
        | members part part' =>
            obtain ⟨rfl, rfl, inUse⟩ := table.isBelow_of_mem_rule asked
            by_cases known : (part, part') ∈ assumed
            · refine ⟨0, fun deeper _ => table.compareMembers_eq_some inUse ?_⟩
              intro fresh
              exact absurd known fresh
            · obtain ⟨depth, answers⟩ := exists_depth (members inUse known)
              refine ⟨depth, fun deeper deep => table.compareMembers_eq_some inUse ?_⟩
              intro _
              exact answers deeper deep
      obtain ⟨depth, answers⟩ := settled
      refine ⟨depth + 1, fun deeper deep => ?_⟩
      cases deeper with
      | zero => exact absurd deep (Nat.not_succ_le_zero depth)
      | succ less =>
          rw [fits_eq_eval, compare]
          exact Formula.run_eq_some (answers less (Nat.le_of_succ_le_succ deep))

/-- **Assignability is the greatest relation of which every pair obeys one unfolding of the
rules,** and a run that shares one set of assumed pairs decides it: at any depth that is deep
enough, the run from the empty set has the answer and ends with the empty set. -/
theorem assignability_is_greatest (table : ShapeTable) :
    IsGreatest {related : TypeIndex → TypeIndex → Prop |
        ∀ source target, related source target → table.Unfolds related source target}
      (fun source target => table.isAssignable source target = true) ∧
    ∀ source target, ∃ depth, ∀ deeper ≥ depth,
      (table.compare deeper source target).run ∅ = some (table.isAssignable source target, ∅) := by
  refine ⟨table.isGreatest_isAssignable, fun source target => ?_⟩
  obtain ⟨depth, answers⟩ := table.exists_depth_compare [] source target
  exact ⟨depth, fun deeper deep => answers deeper deep⟩

end ShapeTable

end InjectionCheck
