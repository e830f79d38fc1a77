import InjectionCheck.Proofs.InheritedMembers
import InjectionCheck.Proofs.NominalClasses
import InjectionCheck.Proofs.SettledTypes

/-!
# Comparisons in tables that gain types

Which type fits which is asked of a table of shapes whose pool grows. Whatever is added to the pool,
the answers for the types that were there remain (`ShapeTable.Widens.fits_eq`). A comparison looks
at the two types, at their parts and at the types of their members. All of these are in use already,
if the types of all members of shapes are (`ShapeTable.Closed`). So the rule for two types asks for
the same as before, and the answers agree along the rules.
-/

set_option autoImplicit false

namespace InjectionCheck

/-- The answer to a formula depends on the answers to its questions only. -/
theorem Formula.eval_congr {γ : Type} {yes yes' : γ → Bool} {formula : Formula γ}
    (same : ∀ question ∈ formula.questions, yes question = yes' question) :
    formula.eval yes = formula.eval yes' := by
  rw [Bool.eq_iff_iff, eval_iff, eval_iff]
  constructor
  · intro holds
    apply holds.mono
    intro question asked isYes
    exact (same question asked).symm.trans isYes
  · intro holds
    apply holds.mono
    intro question asked isYes
    exact (same question asked).trans isYes

/-- The types in a question are in use. -/
def Comparison.InUse (pool : Pool) : Comparison → Prop
  | .types source target => source.number < pool.size ∧ target.number < pool.size
  | .members source target => source.number < pool.size ∧ target.number < pool.size

namespace ShapeTable

variable {table later : ShapeTable} {source target type : TypeIndex}

/-! ## Members -/

/-- **The members of a type:** those of a shape, those of an object, and those of the parts of an
intersection. -/
theorem members?_eq (table : ShapeTable) (type : TypeIndex) :
    table.members? type =
      match table.pool.entry type with
      | .named number _ => some (((table.shape? number).map Shape.members).getD [])
      | .object members => some members
      | .intersection parts =>
        some ((parts.flatMap fun part => (table.members? part).getD []).foldl addMember [])
      | _ => none := by
  rw [members?]
  split
  · next isEntry => rw [isEntry]
  · next isEntry => rw [isEntry]
  · next parts isEntry =>
    rw [isEntry]
    dsimp only
    rw [List.flatMap_subtype (g := fun part => (table.members? part).getD []) fun _ _ => rfl,
      List.unattach_attach]
  · next noName noObject noIntersection =>
    cases isEntry : table.pool.entry type with
    | named number name => exact absurd isEntry (noName number name)
    | object members => exact absurd isEntry (noObject members)
    | intersection parts => exact absurd isEntry (noIntersection parts)
    | _ => rfl

/-- The types of all members of shapes are in use. -/
def Closed (table : ShapeTable) : Prop :=
  ∀ number shape, table.shape? number = some shape →
    ∀ member ∈ shape.members, member.type.number < table.pool.size

/-- The types of the members of a type are in use. -/
theorem Closed.members_inUse (closed : table.Closed) {members : List Member}
    (found : table.members? type = some members) :
    ∀ member ∈ members, member.type.number < table.pool.size := by
  induction number : type.number using Nat.strongRecOn generalizing type members with
  | _ number ih =>
    subst number
    rw [members?_eq] at found
    cases isEntry : table.pool.entry type with
    | named declaration name =>
      rw [isEntry] at found
      cases found
      cases isShape : table.shape? declaration with
      | none => exact List.forall_mem_nil _
      | some shape => exact closed declaration shape isShape
    | object own =>
      rw [isEntry] at found
      cases found
      intro member inside
      exact Pool.lt_size_of_mem_parts isEntry (PoolEntry.member_mem_parts inside)
    | intersection parts =>
      rw [isEntry] at found
      cases found
      intro member inside
      rcases mem_of_mem_foldl_addMember inside with nothing | given
      · cases nothing
      · obtain ⟨part, isPart, given⟩ := List.mem_flatMap.1 given
        cases isFound : table.members? part with
        | none =>
          rw [isFound] at given
          cases given
        | some own =>
          rw [isFound] at given
          exact ih part.number (Pool.part_lt isEntry isPart) isFound rfl member given
    | _ =>
      rw [isEntry] at found
      cases found

/-! ## Tables that gain types -/

/-- A later table has the same shapes and bases, knows the same of declarations, and has at least as
many types. -/
structure Widens (table later : ShapeTable) : Prop where
  shapes : later.shapes = table.shapes
  bases : later.bases = table.bases
  types : table.types.Widens later.types

theorem Widens.refl (table : ShapeTable) : table.Widens table := ⟨rfl, rfl, .refl _⟩

theorem Widens.trans {latest : ShapeTable} (first : table.Widens later)
    (second : later.Widens latest) : table.Widens latest :=
  ⟨second.shapes.trans first.shapes, second.bases.trans first.bases, first.types.trans second.types⟩

section Widens

variable (widens : table.Widens later)
include widens

theorem Widens.entry_eq (inUse : type.number < table.pool.size) :
    later.pool.entry type = table.pool.entry type :=
  widens.types.pool.entry_eq_of_lt inUse

theorem Widens.shape?_eq (number : Nat) : later.shape? number = table.shape? number := by
  rw [shape?, shape?, widens.shapes]

theorem Widens.isNominal_eq (number : Nat) : later.isNominal number = table.isNominal number := by
  rw [isNominal, isNominal, widens.shape?_eq]

/-- What a class derives from can be told from the bases alone. -/
theorem Widens.derivesFrom_eq (number base : Nat) :
    later.derivesFrom number base = table.derivesFrom number base := by
  have same : later.HasBase = table.HasBase := by
    funext number base
    rw [HasBase, HasBase, widens.bases]
  rw [Bool.eq_iff_iff, derivesFrom_iff, derivesFrom_iff, same]

/-- Types in use keep their members. -/
theorem Widens.members?_eq (inUse : type.number < table.pool.size) :
    later.members? type = table.members? type := by
  induction number : type.number using Nat.strongRecOn generalizing type with
  | _ number ih =>
    subst number
    rw [ShapeTable.members?_eq, ShapeTable.members?_eq table, widens.entry_eq inUse]
    cases isEntry : table.pool.entry type with
    | named declaration name =>
      dsimp only
      rw [widens.shape?_eq]
    | intersection parts =>
      dsimp only
      congr 2
      apply List.flatMap_congr
      intro part isPart
      have less := Pool.part_lt isEntry isPart
      rw [ih part.number less (Nat.lt_trans less inUse) rfl]
    | _ => rfl

variable (sourceInUse : source.number < table.pool.size)
  (targetInUse : target.number < table.pool.size)
include sourceInUse targetInUse

theorem Widens.fitsAnyway_eq : later.fitsAnyway source target = table.fitsAnyway source target := by
  simp only [fitsAnyway, Pool.isIndeterminate, widens.entry_eq sourceInUse,
    widens.entry_eq targetInUse]

/-- **The rule for two types in use stays the same.** -/
theorem Widens.rule_eq : later.rule source target = table.rule source target := by
  simp only [rule, widens.fitsAnyway_eq sourceInUse targetInUse, widens.entry_eq sourceInUse,
    widens.entry_eq targetInUse, fitsPrimitive, hasNoRequiredMember, widens.members?_eq targetInUse,
    widens.derivesFrom_eq, widens.isNominal_eq]

theorem Widens.membersRule_eq :
    later.membersRule source target = table.membersRule source target := by
  rw [membersRule, membersRule, widens.members?_eq targetInUse, widens.members?_eq sourceInUse]

end Widens

/-! ## Comparisons -/

/-- What the rule for two types in use asks is about types in use. -/
theorem inUse_of_mem_rule (sourceInUse : source.number < table.pool.size)
    (targetInUse : target.number < table.pool.size) {question : Comparison}
    (asked : question ∈ (table.rule source target).questions) : question.InUse table.pool := by
  have ofSource {entry : PoolEntry} {part : TypeIndex} (isEntry : table.pool.entry source = entry)
      (isPart : part ∈ entry.parts) : part.number < table.pool.size :=
    Nat.lt_trans (Pool.part_lt isEntry isPart) sourceInUse
  have ofTarget {entry : PoolEntry} {part : TypeIndex} (isEntry : table.pool.entry target = entry)
      (isPart : part ∈ entry.parts) : part.number < table.pool.size :=
    Nat.lt_trans (Pool.part_lt isEntry isPart) targetInUse
  rw [rule] at asked
  split at asked
  · cases asked
  · split at asked <;> simp only [signatureRule, Formula.questions, Formula.mem_questions_all,
      Formula.mem_questions_any, List.mem_append, List.mem_singleton, List.not_mem_nil,
      false_or] at asked
    case h_1 members isUnion =>
      obtain ⟨member, inside, rfl⟩ := asked
      exact ⟨ofSource isUnion inside, targetInUse⟩
    case h_2 members isUnion _ =>
      obtain ⟨member, inside, rfl⟩ := asked
      exact ⟨sourceInUse, ofTarget isUnion inside⟩
    case h_3 members isIntersection _ =>
      obtain ⟨member, inside, rfl⟩ := asked
      exact ⟨sourceInUse, ofTarget isIntersection inside⟩
    case h_4 members isIntersection _ _ =>
      rcases asked with ⟨member, inside, rfl⟩ | rfl
      · exact ⟨ofSource isIntersection inside, targetInUse⟩
      · exact ⟨sourceInUse, targetInUse⟩
    case h_7 element element' isArray isArray' =>
      obtain rfl := asked
      exact ⟨ofSource isArray List.mem_cons_self, ofTarget isArray' List.mem_cons_self⟩
    case h_8 elements element isTuple isArray =>
      obtain ⟨part, inside, rfl⟩ := asked
      exact ⟨ofSource isTuple inside, ofTarget isArray List.mem_cons_self⟩
    case h_9 elements elements' isTuple isTuple' =>
      obtain ⟨pair, inside, rfl⟩ := asked
      obtain ⟨inside, inside'⟩ := List.of_mem_zip inside
      exact ⟨ofSource isTuple inside, ofTarget isTuple' inside'⟩
    case h_10 given wanted isFunction isFunction' =>
      rcases asked with ⟨pair, inside, swapped⟩ | rfl
      · obtain ⟨inside, inside'⟩ := List.of_mem_zip inside
        have offered := ofSource isFunction (PoolEntry.parameter_mem_parts inside)
        have accepted := ofTarget isFunction' (PoolEntry.parameter_mem_parts inside')
        rcases swapped with rfl | rfl
        · exact ⟨accepted, offered⟩
        · exact ⟨offered, accepted⟩
      · exact ⟨ofSource isFunction (PoolEntry.result_mem_parts given),
          ofTarget isFunction' (PoolEntry.result_mem_parts wanted)⟩
    case h_11 => exact asked ▸ ⟨sourceInUse, targetInUse⟩
    case h_12 => exact asked ▸ ⟨sourceInUse, targetInUse⟩
    case h_13 => exact asked ▸ ⟨sourceInUse, targetInUse⟩

/-- What the rule for the members of two types asks is about types in use. -/
theorem Closed.inUse_of_mem_membersRule (closed : table.Closed)
    {pair : TypeIndex × TypeIndex} (asked : pair ∈ (table.membersRule source target).questions) :
    pair.1.number < table.pool.size ∧ pair.2.number < table.pool.size := by
  rw [membersRule] at asked
  cases found : table.members? target with
  | none =>
    rw [found] at asked
    cases asked
  | some wanted =>
    rw [found] at asked
    obtain ⟨member, isWanted, asked⟩ := Formula.mem_questions_all.1 asked
    have offered : ∀ member ∈ (table.members? source).getD [],
        member.type.number < table.pool.size := by
      cases isOffered : table.members? source with
      | none => exact List.forall_mem_nil _
      | some members => exact closed.members_inUse isOffered
    rw [memberRule] at asked
    split at asked
    · cases asked
    · cases isFound : ((table.members? source).getD []).find? (·.name = member.name) with
      | none =>
        rw [isFound] at asked
        cases asked
      | some given =>
        rw [isFound] at asked
        cases List.mem_singleton.1 asked
        exact ⟨offered given (List.mem_of_find?_eq_some isFound),
          closed.members_inUse found member isWanted⟩

/-- **Types in use are compared as before,** whatever types were added. -/
theorem Widens.fits_eq (widens : table.Widens later) (closed : table.Closed)
    (assumed : List (TypeIndex × TypeIndex)) (sourceInUse : source.number < table.pool.size)
    (targetInUse : target.number < table.pool.size) :
    later.fits assumed source target = table.fits assumed source target := by
  induction assumed, source, target using table.induction_on_rules with
  | step assumed source target ihTypes ihMembers =>
    rw [fits_eq_eval, fits_eq_eval, widens.rule_eq sourceInUse targetInUse]
    apply Formula.eval_congr
    intro question asked
    have inUse := inUse_of_mem_rule sourceInUse targetInUse asked
    cases question with
    | types part part' => exact ihTypes part part' asked inUse.1 inUse.2
    | members part part' =>
      obtain ⟨rfl, rfl, notReserved⟩ := table.isBelow_of_mem_rule asked
      have notReserved' : later.pool.entry part ≠ .reserved := by
        rw [widens.entry_eq sourceInUse]
        exact notReserved
      rw [answer, answer, fitsByMembers_eq_eval _ _ _ notReserved,
        fitsByMembers_eq_eval _ _ _ notReserved', widens.members?_eq targetInUse,
        widens.membersRule_eq sourceInUse targetInUse]
      by_cases known : (part, part') ∈ assumed
      · rw [decide_eq_true known, Bool.true_or, Bool.true_or]
      · congr 2
        apply Formula.eval_congr
        intro pair asked
        obtain ⟨first, second⟩ := closed.inUse_of_mem_membersRule asked
        exact ihMembers notReserved known pair asked first second

end ShapeTable

end InjectionCheck
