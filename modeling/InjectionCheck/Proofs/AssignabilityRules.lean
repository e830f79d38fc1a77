import InjectionCheck.Proofs.Formula
import InjectionCheck.Types.Assignability

/-!
# The rules of assignability

Whether one type fits another comes down to questions about other types: the rule for
two types is a formula of such questions, and so is the rule for their members. The
comparison answers these formulas (`fits_eq_eval`, `fitsByMembers_eq_eval`).
-/

set_option autoImplicit false

namespace InjectionCheck

/-- A question that the comparison of two types comes down to. -/
inductive Comparison where
  /-- Does the first type fit the second one? -/
  | types (source target : TypeIndex)
  /-- Does the first type have the members of the second one, with types that fit? -/
  | members (source target : TypeIndex)

namespace ShapeTable

variable (table : ShapeTable)

/-- The rule for two function types. Parameters are compared both ways. -/
def signatureRule (source target : Signature) : Formula Comparison :=
  .both (.answer (source.requiredCount ≤ target.parameters.length))
    (.both
      (.all (source.parameters.zip target.parameters) fun (given, wanted) =>
        .either (.ask (.types wanted.type given.type)) (.ask (.types given.type wanted.type)))
      (.either (.answer (target.result = .ofPrimitive .void))
        (.ask (.types source.result target.result))))

/-- The rule for two types. -/
def rule (source target : TypeIndex) : Formula Comparison :=
  if table.fitsAnyway source target then .answer true
  else
    match table.pool.entry source, table.pool.entry target with
    | .union members, _ => .all members fun member => .ask (.types member target)
    | _, .union members => .any members fun member => .ask (.types source member)
    | _, .intersection members => .all members fun member => .ask (.types source member)
    | .intersection members, _ =>
      .either (.any members fun member => .ask (.types member target))
        (.ask (.members source target))
    | _, .reserved => .answer (table.fitsPrimitive source target)
    | .reserved, _ => .answer (!isNothing source && table.hasNoRequiredMember target)
    | .array sourceElement, .array targetElement => .ask (.types sourceElement targetElement)
    | .tuple elements, .array targetElement =>
      .all elements fun element => .ask (.types element targetElement)
    | .tuple sourceElements, .tuple targetElements =>
      .both (.answer (sourceElements.length = targetElements.length))
        (.all (sourceElements.zip targetElements) fun (sourceElement, targetElement) =>
          .ask (.types sourceElement targetElement))
    | .function sourceSignature, .function targetSignature =>
      signatureRule sourceSignature targetSignature
    | .named number _, .named base _ =>
      .either (.answer (table.derivesFrom number base))
        (.both (.answer (!table.isNominal base)) (.ask (.members source target)))
    | _, .named base _ => .both (.answer (!table.isNominal base)) (.ask (.members source target))
    | _, .object _ => .ask (.members source target)
    | _, _ => .answer false

/-- The rule for a member that is wanted, where some members are offered. -/
def memberRule (offered : List Member) (wanted : Member) : Formula (TypeIndex × TypeIndex) :=
  if wanted.access ≠ .public_ then .answer true
  else
    match offered.find? (·.name = wanted.name) with
    | some found =>
      .both (.answer ((wanted.optional || !found.optional) && found.access = .public_))
        (.ask (found.type, wanted.type))
    | none => .answer wanted.optional

/-- The rule for the members of two types. -/
def membersRule (source target : TypeIndex) : Formula (TypeIndex × TypeIndex) :=
  match table.members? target with
  | none => .answer false
  | some wanted => .all wanted (memberRule ((table.members? source).getD []))

/-- The answer to a question if some pairs are assumed. -/
def answer (assumed : List (TypeIndex × TypeIndex)) : Comparison → Bool
  | .types source target => table.fits assumed source target
  | .members source target => table.fitsByMembers assumed source target

/-! ## The comparison answers the rules -/

theorem lt_size_of_members? {type : TypeIndex} {members : List Member}
    (found : table.members? type = some members) : type.number < table.pool.size := by
  refine Pool.lt_size fun reserved => ?_
  rw [members?] at found
  split at found
  all_goals simp_all

theorem all_attach {α : Type} (elements : List α) (test : α → Bool) :
    (elements.attach.all fun element => test element.1) = elements.all test := by
  rw [List.all_subtype fun _ _ => rfl, List.unattach_attach]

theorem any_attach {α : Type} (elements : List α) (test : α → Bool) :
    (elements.attach.any fun element => test element.1) = elements.any test := by
  rw [List.any_subtype fun _ _ => rfl, List.unattach_attach]

theorem eval_signatureRule (yes : Comparison → Bool) (source target : Signature) :
    (signatureRule source target).eval yes =
      (source.requiredCount ≤ target.parameters.length &&
        ((source.parameters.zip target.parameters).all fun pair =>
          yes (.types pair.2.type pair.1.type) || yes (.types pair.1.type pair.2.type)) &&
        (target.result = .ofPrimitive .void || yes (.types source.result target.result))) := by
  simp only [signatureRule, Formula.eval, Formula.eval_all, Bool.and_assoc]

theorem fits_eq_eval (assumed : List (TypeIndex × TypeIndex)) (source target : TypeIndex) :
    table.fits assumed source target = (table.rule source target).eval (table.answer assumed) := by
  rw [fits, rule]
  by_cases anyway : table.fitsAnyway source target = true
  · rw [if_pos anyway, if_pos anyway]
    rfl
  · rw [if_neg anyway, if_neg anyway]
    split <;> simp only [*, Formula.eval, Formula.eval_all, Formula.eval_any, answer,
      eval_signatureRule]
    case h_1 members _ => exact all_attach members fun member => table.fits assumed member target
    case h_2 members _ _ => exact any_attach members (table.fits assumed source)
    case h_3 members _ _ => exact all_attach members (table.fits assumed source)
    case h_4 members _ _ _ =>
      rw [any_attach members fun member => table.fits assumed member target]
    case h_8 elements element _ _ =>
      exact all_attach elements fun part => table.fits assumed part element
    case h_9 sourceElements targetElements _ _ =>
      rw [all_attach (sourceElements.zip targetElements) fun pair =>
        table.fits assumed pair.1 pair.2]
    case h_10 given wanted _ _ =>
      rw [all_attach (given.parameters.zip wanted.parameters) fun pair =>
        table.fits assumed pair.2.type pair.1.type || table.fits assumed pair.1.type pair.2.type]

theorem eval_memberRule (yes : TypeIndex × TypeIndex → Bool) (offered : List Member)
    (wanted : Member) :
    (memberRule offered wanted).eval yes =
      (wanted.access ≠ .public_ ||
        match offered.find? (·.name = wanted.name) with
        | some found =>
          (wanted.optional || !found.optional) && found.access = .public_ &&
            yes (found.type, wanted.type)
        | none => wanted.optional) := by
  rw [memberRule]
  by_cases hidden : wanted.access ≠ .public_
  · rw [if_pos hidden, decide_eq_true hidden, Bool.true_or]
    rfl
  · rw [if_neg hidden, decide_eq_false hidden, Bool.false_or]
    cases offered.find? (·.name = wanted.name) <;> rfl

theorem fitsByMembers_eq_eval (assumed : List (TypeIndex × TypeIndex)) {source : TypeIndex}
    (target : TypeIndex) (inUse : table.pool.entry source ≠ .reserved) :
    table.fitsByMembers assumed source target =
      ((table.members? target).isSome && ((source, target) ∈ assumed ||
        (table.membersRule source target).eval fun pair =>
          table.fits ((source, target) :: assumed) pair.1 pair.2)) := by
  rw [fitsByMembers, membersRule]
  cases found : table.members? target with
  | none => rfl
  | some wanted =>
      by_cases known : (source, target) ∈ assumed
      · simp only [known, not_true, dite_false, Option.isSome_some, decide_true, Bool.true_or,
          Bool.and_true]
      · have inside := And.intro (Pool.lt_size inUse) (table.lt_size_of_members? found)
        simp only [dif_pos known, dif_pos inside, Option.isSome_some, decide_eq_false known,
          Bool.false_or, Bool.true_and, Formula.eval_all]
        have each := eval_memberRule
          (fun pair => table.fits ((source, target) :: assumed) pair.1 pair.2)
          ((table.members? source).getD [])
        exact congrArg wanted.all (funext fun member => (each member).symm)

/-! ## Types that fit anyway -/

theorem isAssignable_eq_eval (source target : TypeIndex) :
    table.isAssignable source target = (table.rule source target).eval (table.answer []) :=
  table.fits_eq_eval [] source target

theorem fits_of_fitsAnyway {source target : TypeIndex}
    (anyway : table.fitsAnyway source target = true) (assumed : List (TypeIndex × TypeIndex)) :
    table.fits assumed source target = true := by
  rw [fits, if_pos anyway]

/-- Every type fits itself, whatever is assumed. -/
theorem fits_refl (assumed : List (TypeIndex × TypeIndex)) (type : TypeIndex) :
    table.fits assumed type type = true :=
  table.fits_of_fitsAnyway (by simp [fitsAnyway]) assumed

/-! ## What a rule asks -/

/-- What a rule asks about two types: smaller types, or the members of the types, of which
the first one is in use. -/
def IsBelow (source target : TypeIndex) : Comparison → Prop
  | .types part part' => part.number + part'.number < source.number + target.number
  | .members part part' => part = source ∧ part' = target ∧ table.pool.entry source ≠ .reserved

theorem isBelow_of_mem_rule {source target : TypeIndex} {question : Comparison}
    (asked : question ∈ (table.rule source target).questions) :
    table.IsBelow source target question := by
  rw [rule] at asked
  split at asked
  · cases asked
  · split at asked <;> simp only [signatureRule, Formula.questions, Formula.mem_questions_all,
      Formula.mem_questions_any, List.mem_append, List.mem_singleton, List.not_mem_nil,
      false_or] at asked
    case h_1 members isUnion =>
      obtain ⟨member, inside, rfl⟩ := asked
      exact Nat.add_lt_add_right (Pool.part_lt isUnion inside) _
    case h_2 members isUnion _ =>
      obtain ⟨member, inside, rfl⟩ := asked
      exact Nat.add_lt_add_left (Pool.part_lt isUnion inside) _
    case h_3 members isIntersection _ =>
      obtain ⟨member, inside, rfl⟩ := asked
      exact Nat.add_lt_add_left (Pool.part_lt isIntersection inside) _
    case h_4 members isIntersection _ _ =>
      rcases asked with ⟨member, inside, rfl⟩ | rfl
      · exact Nat.add_lt_add_right (Pool.part_lt isIntersection inside) _
      · exact ⟨rfl, rfl, by rw [isIntersection]; exact PoolEntry.noConfusion⟩
    case h_7 element element' isArray isArray' =>
      obtain rfl := asked
      exact Nat.add_lt_add (Pool.part_lt isArray List.mem_cons_self)
        (Pool.part_lt isArray' List.mem_cons_self)
    case h_8 elements element isTuple isArray =>
      obtain ⟨part, inside, rfl⟩ := asked
      exact Nat.add_lt_add (Pool.part_lt isTuple inside) (Pool.part_lt isArray List.mem_cons_self)
    case h_9 elements elements' isTuple isTuple' =>
      obtain ⟨pair, inside, rfl⟩ := asked
      obtain ⟨inside, inside'⟩ := List.of_mem_zip inside
      exact Nat.add_lt_add (Pool.part_lt isTuple inside) (Pool.part_lt isTuple' inside')
    case h_10 given wanted isFunction isFunction' =>
      rcases asked with ⟨pair, inside, swapped⟩ | rfl
      · obtain ⟨inside, inside'⟩ := List.of_mem_zip inside
        have less := Pool.part_lt isFunction (PoolEntry.parameter_mem_parts inside)
        have less' := Pool.part_lt isFunction' (PoolEntry.parameter_mem_parts inside')
        rcases swapped with rfl | rfl
        · exact Nat.lt_of_lt_of_eq (Nat.add_lt_add less' less) (Nat.add_comm _ _)
        · exact Nat.add_lt_add less less'
      · exact Nat.add_lt_add (Pool.part_lt isFunction (PoolEntry.result_mem_parts given))
          (Pool.part_lt isFunction' (PoolEntry.result_mem_parts wanted))
    case h_11 isNamed _ =>
      exact asked ▸ ⟨rfl, rfl, by rw [isNamed]; exact PoolEntry.noConfusion⟩
    case h_12 inUse _ => exact asked ▸ ⟨rfl, rfl, inUse⟩
    case h_13 inUse => exact asked ▸ ⟨rfl, rfl, inUse⟩

theorem isSome_of_holds_membersRule {source target : TypeIndex}
    {yes : TypeIndex × TypeIndex → Prop} (holds : (table.membersRule source target).Holds yes) :
    (table.members? target).isSome = true := by
  rw [membersRule] at holds
  cases found : table.members? target with
  | none =>
      rw [found] at holds
      exact absurd holds Bool.false_ne_true
  | some wanted => rfl

theorem lt_size_of_mem_membersRule {source target : TypeIndex} {pair : TypeIndex × TypeIndex}
    (asked : pair ∈ (table.membersRule source target).questions) :
    target.number < table.pool.size := by
  rw [membersRule] at asked
  cases found : table.members? target with
  | none =>
      rw [found] at asked
      cases asked
  | some wanted => exact table.lt_size_of_members? found

/-- Induction along the rules. What the rules ask about two types may be taken to be settled
under the same assumptions; what they ask about their members may be taken to be settled
under the assumption that the two types fit, if that was not assumed before. -/
theorem induction_on_rules {motive : List (TypeIndex × TypeIndex) → TypeIndex → TypeIndex → Prop}
    (step : ∀ assumed source target,
      (∀ part part', .types part part' ∈ (table.rule source target).questions →
        motive assumed part part') →
      (table.pool.entry source ≠ .reserved → (source, target) ∉ assumed →
        ∀ pair ∈ (table.membersRule source target).questions,
          motive ((source, target) :: assumed) pair.1 pair.2) →
      motive assumed source target)
    (assumed : List (TypeIndex × TypeIndex)) (source target : TypeIndex) :
    motive assumed source target := by
  refine step assumed source target (fun part part' asked => ?_) fun inUse fresh pair asked => ?_
  · have smaller : part.number + part'.number < source.number + target.number :=
      table.isBelow_of_mem_rule asked
    exact induction_on_rules step assumed part part'
  · have less := unvisited_cons_lt
      (Pool.mem_pairs (Pool.lt_size inUse) (table.lt_size_of_mem_membersRule asked)) fresh
    exact induction_on_rules step ((source, target) :: assumed) pair.1 pair.2
termination_by (unvisited table.pool.pairs assumed, source.number + target.number)
decreasing_by
  · exact .right _ smaller
  · exact .left _ _ less

end ShapeTable

end InjectionCheck
