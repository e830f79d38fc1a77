import InjectionCheck.Proofs.UnionBounds
import InjectionCheck.Proofs.UnseenBases

/-!
# Parameters that a call leaves open

Where a function is used as another one, calls pass as many arguments as the other one has
parameters. A required parameter further on is left open. Of the parameters of a function only
those are counted as required that stand in front of the first optional one. So a function fits
only if each parameter that is left open stands behind an optional one
(`open_parameters_follow_optional`); but then it may well be left open
(`required_parameter_left_open`). Methods are compared as functions are.
-/

set_option autoImplicit false

namespace InjectionCheck

/-! ## Required parameters -/

namespace Signature

variable {given wanted : Signature} {position count : Nat}

/-- The parameter at a position has to be passed. -/
def Requires (given : Signature) (position : Nat) : Prop :=
  ∃ parameter, given.parameters[position]? = some parameter ∧ parameter.optional = false

/-- The parameter at a position may be left out. -/
def MayOmit (given : Signature) (position : Nat) : Prop :=
  ∃ parameter, given.parameters[position]? = some parameter ∧ parameter.optional = true

/-- Calls of the first function pass nothing for a parameter that the second one requires. -/
def LeavesOpen (wanted given : Signature) (position : Nat) : Prop :=
  given.Requires position ∧ wanted.parameters.length ≤ position

/-- The parameters that count as required are those with required parameters only in front of
them. -/
theorem lt_requiredCount_iff :
    position < given.requiredCount ↔ ∀ earlier ≤ position, given.Requires earlier := by
  obtain ⟨parameters, result⟩ := given
  simp only [requiredCount, Requires]
  induction parameters generalizing position with
  | nil =>
      refine iff_of_false (Nat.not_lt_zero position) fun required => ?_
      obtain ⟨parameter, isFirst, _⟩ := required 0 (Nat.zero_le position)
      cases isFirst
  | cons first others ih =>
      by_cases optional : first.optional = true
      · rw [List.takeWhile_cons_of_neg (by simp [optional])]
        refine iff_of_false (Nat.not_lt_zero position) fun required => ?_
        obtain ⟨parameter, isFirst, requires⟩ := required 0 (Nat.zero_le position)
        obtain rfl : first = parameter := Option.some.inj isFirst
        exact Bool.false_ne_true (requires.symm.trans optional)
      · have requires : first.optional = false := Bool.eq_false_of_not_eq_true optional
        rw [List.takeWhile_cons_of_pos (by simp [requires]), List.length_cons]
        cases position with
        | zero =>
            refine iff_of_true (Nat.succ_pos _) fun earlier before => ⟨first, ?_, requires⟩
            rw [Nat.le_zero.1 before]
            rfl
        | succ position =>
            rw [Nat.succ_lt_succ_iff, ih]
            constructor
            · intro required earlier before
              cases earlier with
              | zero => exact ⟨first, rfl, requires⟩
              | succ earlier => exact required earlier (Nat.le_of_succ_le_succ before)
            · exact fun required earlier before => required (earlier + 1) (Nat.succ_le_succ before)

/-- A position with a parameter that has to be passed and one with none such in front of it. -/
theorem exists_mayOmit (requires : given.Requires position) {earlier : Nat}
    (before : earlier ≤ position) (notRequired : ¬given.Requires earlier) :
    earlier < position ∧ given.MayOmit earlier := by
  have different : earlier ≠ position := fun same => notRequired (same ▸ requires)
  obtain ⟨parameter, found, _⟩ := requires
  obtain ⟨inside, _⟩ := List.getElem?_eq_some_iff.1 found
  have isSome := List.getElem?_eq_getElem (Nat.lt_of_le_of_lt before inside)
  refine ⟨Nat.lt_of_le_of_ne before different, _, isSome, ?_⟩
  exact Bool.of_not_eq_false fun required => notRequired ⟨_, isSome, required⟩

/-- No more than some number of parameters count as required if and only if the required ones
from there on stand behind optional ones. -/
theorem requiredCount_le_iff : given.requiredCount ≤ wanted.parameters.length ↔
    ∀ position, wanted.LeavesOpen given position →
      ∃ earlier < position, given.MayOmit earlier := by
  constructor
  · rintro atMost position ⟨requires, isOpen⟩
    have uncounted : ¬position < given.requiredCount :=
      Nat.not_lt.2 (Nat.le_trans atMost isOpen)
    rw [lt_requiredCount_iff] at uncounted
    push Not at uncounted
    obtain ⟨earlier, before, notRequired⟩ := uncounted
    exact ⟨earlier, exists_mayOmit requires before notRequired⟩
  · intro follows
    by_contra more
    have counted := lt_requiredCount_iff.1 (Nat.not_le.1 more)
    obtain ⟨earlier, before, parameter, found, optional⟩ :=
      follows _ ⟨counted _ (Nat.le_refl _), Nat.le_refl _⟩
    obtain ⟨parameter', found', required⟩ := counted earlier (Nat.le_of_lt before)
    obtain rfl : parameter = parameter' := Option.some.inj (found.symm.trans found')
    exact Bool.false_ne_true (required.symm.trans optional)

/-- Calls of a function leave none of its own parameters open. -/
theorem not_leavesOpen_self (given : Signature) (position : Nat) :
    ¬given.LeavesOpen given position := by
  rintro ⟨⟨parameter, found, _⟩, isOpen⟩
  obtain ⟨inside, _⟩ := List.getElem?_eq_some_iff.1 found
  exact Nat.not_le.2 inside isOpen

end Signature

/-! ## Functions that fit -/

namespace ShapeTable

variable {table : ShapeTable} {source target : TypeIndex} {given wanted : Signature}

theorem IsProper.of_function (isFunction : table.pool.entry source = .function given) :
    table.IsProper source := by
  simp [IsProper, isFunction]

/-- How two functions are compared: each parameter that is left open stands behind an optional
one, the other parameters fit one way or the other, and so do the results unless none is wanted. -/
theorem fits_function_iff (isFunction : table.pool.entry source = .function given)
    (isFunction' : table.pool.entry target = .function wanted)
    (assumed : List (TypeIndex × TypeIndex)) :
    table.fits assumed source target = true ↔ source = target ∨
      (∀ position, wanted.LeavesOpen given position →
        ∃ earlier < position, given.MayOmit earlier) ∧
      (∀ pair ∈ given.parameters.zip wanted.parameters,
        table.fits assumed pair.2.type pair.1.type = true ∨
          table.fits assumed pair.1.type pair.2.type = true) ∧
      (wanted.result = .ofPrimitive .void ∨
        table.fits assumed given.result wanted.result = true) := by
  rw [fits_eq_eval, rule,
    (IsProper.of_function isFunction).fitsAnyway_eq (IsProper.of_function isFunction')]
  by_cases same : source = target
  · simp [same, Formula.eval]
  · simp only [same, decide_false, Bool.false_eq_true, if_false, isFunction, isFunction',
      eval_signatureRule, answer, Bool.and_eq_true, Bool.or_eq_true, decide_eq_true_eq,
      List.all_eq_true, false_or, Signature.requiredCount_le_iff, and_assoc]

/-- If a function fits another one, a parameter that is left open stands behind an optional one. -/
theorem follows_of_fits (isFunction : table.pool.entry source = .function given)
    (isFunction' : table.pool.entry target = .function wanted)
    {assumed : List (TypeIndex × TypeIndex)} (fit : table.fits assumed source target = true)
    {position : Nat} (isOpen : wanted.LeavesOpen given position) :
    ∃ earlier < position, given.MayOmit earlier := by
  obtain rfl | ⟨follows, _⟩ := (fits_function_iff isFunction isFunction' assumed).1 fit
  · obtain rfl : given = wanted := PoolEntry.function.inj (isFunction.symm.trans isFunction')
    exact absurd isOpen (given.not_leavesOpen_self position)
  · exact follows position isOpen

/-- So it is for the methods of types that are compared by members. -/
theorem follows_of_fitsByMembers {offered asked : List Member}
    (isOffered : table.members? source = some offered)
    (isAsked : table.members? target = some asked)
    (fit : table.fitsByMembers [] source target = true) {member found : Member}
    (isMember : member ∈ asked) (isPublic : member.access = .public_)
    (isFound : offered.find? (·.name = member.name) = some found)
    (isMethod : table.pool.entry found.type = .function given)
    (isMethod' : table.pool.entry member.type = .function wanted) {position : Nat}
    (isOpen : wanted.LeavesOpen given position) :
    ∃ earlier < position, given.MayOmit earlier := by
  have inUse : table.pool.entry source ≠ .reserved := by
    intro reserved
    rw [members?] at isOffered
    split at isOffered <;> simp_all
  have fits := (fitsByMembers_nil_iff inUse isAsked isOffered).1 fit member isMember
  obtain ⟨found', isFound', -, -, methodFits⟩ | ⟨missing, -⟩ := eval_memberRule_iff.1 fits isPublic
  · obtain rfl : found = found' := Option.some.inj (isFound.symm.trans isFound')
    exact follows_of_fits isMethod isMethod' methodFits isOpen
  · cases isFound.symm.trans missing

end ShapeTable

namespace Program

/-- **A function that fits leaves open only parameters behind optional ones.** This and the
comparison of parameters and results is all that is asked of two different functions. Of a method
that fits the method of another type it is asked in the same way. -/
theorem open_parameters_follow_optional (program : Program) :
    (∀ {source target : TypeIndex} {given wanted : Signature},
      program.table.pool.entry source = .function given →
      program.table.pool.entry target = .function wanted →
        (program.isAssignable source target = true → ∀ position,
          wanted.LeavesOpen given position → ∃ earlier < position, given.MayOmit earlier) ∧
        (program.isAssignable source target = true ↔ source = target ∨
          (∀ position, wanted.LeavesOpen given position →
            ∃ earlier < position, given.MayOmit earlier) ∧
          (∀ pair ∈ given.parameters.zip wanted.parameters,
            program.isAssignable pair.2.type pair.1.type = true ∨
              program.isAssignable pair.1.type pair.2.type = true) ∧
          (wanted.result = .ofPrimitive .void ∨
            program.isAssignable given.result wanted.result = true))) ∧
    (∀ {source target : TypeIndex} {offered asked : List Member},
      program.table.members? source = some offered → program.table.members? target = some asked →
      program.table.fitsByMembers [] source target = true →
      ∀ member ∈ asked, member.access = .public_ →
      ∀ found, offered.find? (·.name = member.name) = some found →
      ∀ given wanted, program.table.pool.entry found.type = .function given →
        program.table.pool.entry member.type = .function wanted →
        ∀ position, wanted.LeavesOpen given position →
          ∃ earlier < position, given.MayOmit earlier) := by
  refine ⟨fun isFunction isFunction' => ⟨fun fit position isOpen => ?_, ?_⟩, ?_⟩
  · exact ShapeTable.follows_of_fits isFunction isFunction' fit isOpen
  · exact ShapeTable.fits_function_iff isFunction isFunction' []
  · intro source target offered asked isOffered isAsked fit member isMember isPublic found isFound
      given wanted isMethod isMethod' position isOpen
    exact ShapeTable.follows_of_fitsByMembers isOffered isAsked fit isMember isPublic isFound
      isMethod isMethod' isOpen

/-! ## A required parameter behind an optional one -/

/-- A written type that is the name of a type. -/
def namedType (name : String) : TypeExpression := ⟨.named name [], .origin⟩

/-- A parameter of a type. -/
def parameter (name type : String) (optional : Bool) : Parameter :=
  ⟨[], none, false, name, optional, some (namedType type), false, .origin⟩

/-- An object with a method `notify` without a result. -/
def notifier (parameters : List Parameter) : TypeExpression :=
  ⟨.object [⟨"notify", false, false, .method parameters (some (namedType "void")), .origin⟩],
    .origin⟩

/-- A program with the methods `notify(text?: string, count: number)` and `notify(text: string)` as
types, and with the objects that have one of them. -/
def notifiers : Program :=
  ((ofFiles []).lowerType 0
    ⟨.tuple [notifier [parameter "text" "string" true, parameter "count" "number" false],
      notifier [parameter "text" "string" false]], .origin⟩).2

/-- The method with two parameters, of which the second one is required. -/
def optionalFirst : Signature :=
  ⟨[⟨"text", .ofPrimitive .string, true⟩, ⟨"count", .ofPrimitive .number, false⟩],
    .ofPrimitive .void⟩

/-- The method with one parameter. -/
def textOnly : Signature := ⟨[⟨"text", .ofPrimitive .string, false⟩], .ofPrimitive .void⟩

/-- The member `notify` with a function type. -/
def notify (type : TypeIndex) : Member := ⟨"notify", false, .public_, type, true⟩

theorem fromFiles_notifiers : notifiers.FromFiles := .lowerType _ _ (.ofFiles [])

theorem entries_notifiers : notifiers.table.pool.entries =
    #[.function optionalFirst, .object [notify ⟨64⟩], .function textOnly,
      .object [notify ⟨66⟩], .tuple [⟨65⟩, ⟨67⟩]] := by
  simp only [notifiers, lowerType, ShapeTable.pool, notifier, parameter, namedType, Linkage.lower,
    Linkage.lowerAll, Linkage.lowerMembers, Linkage.lowerMethod, Linkage.lowerParameters,
    Linkage.lowerIfAny]
  decide +kernel

/-- What the methods and the objects with them stand for. -/
theorem entry_notifiers :
    notifiers.table.pool.entry ⟨64⟩ = .function optionalFirst ∧
      notifiers.table.pool.entry ⟨65⟩ = .object [notify ⟨64⟩] ∧
      notifiers.table.pool.entry ⟨66⟩ = .function textOnly ∧
      notifiers.table.pool.entry ⟨67⟩ = .object [notify ⟨66⟩] := by
  simp [Pool.entry, entries_notifiers, TypeIndex.isReserved, TypeIndex.reservedCount]

/-- Calls with a text only leave the count open. -/
theorem leavesOpen_count : textOnly.LeavesOpen optionalFirst 1 :=
  ⟨⟨_, rfl, rfl⟩, Nat.le_refl 1⟩

/-- The method with two parameters fits the one with the first of them. -/
theorem optionalFirst_fits (assumed : List (TypeIndex × TypeIndex)) :
    notifiers.table.fits assumed ⟨64⟩ ⟨66⟩ = true := by
  obtain ⟨isFunction, _, isFunction', _⟩ := entry_notifiers
  refine (ShapeTable.fits_function_iff isFunction isFunction' assumed).2 (.inr ⟨?_, ?_, .inl rfl⟩)
  · exact Signature.requiredCount_le_iff.1 (by decide)
  · intro pair inside
    rw [show pair = _ from List.mem_singleton.1 inside]
    exact .inl (ShapeTable.fits_refl _ _ _)

/-- So the objects with these methods are compared. -/
theorem objects_fit :
    notifiers.table.members? ⟨65⟩ = some [notify ⟨64⟩] ∧
      notifiers.table.members? ⟨67⟩ = some [notify ⟨66⟩] ∧
      notifiers.table.fitsByMembers [] ⟨65⟩ ⟨67⟩ = true := by
  obtain ⟨_, isObject, _, isObject'⟩ := entry_notifiers
  have isOffered := (WantsMembers.object isObject).members? fromFiles_notifiers
  have isAsked := (WantsMembers.object isObject').members? fromFiles_notifiers
  refine ⟨isOffered, isAsked, (ShapeTable.fitsByMembers_nil_iff
    (isObject ▸ PoolEntry.noConfusion) isAsked isOffered).2 fun member isMember => ?_⟩
  obtain rfl := List.mem_singleton.1 isMember
  refine ShapeTable.eval_memberRule_iff.2 fun _ => .inl ⟨notify ⟨64⟩, by decide, ?_⟩
  exact ⟨fun _ => rfl, rfl, optionalFirst_fits _⟩

/-- The count, which calls leave open, stands behind the text, which may be left out. -/
theorem open_parameters_follow_optional_notify :
    (notifiers.isAssignable ⟨64⟩ ⟨66⟩ = true ∧ textOnly.LeavesOpen optionalFirst 1 ∧
        ∃ earlier < 1, optionalFirst.MayOmit earlier) ∧
      notifiers.table.fitsByMembers [] ⟨65⟩ ⟨67⟩ = true ∧
        ∃ earlier < 1, optionalFirst.MayOmit earlier := by
  obtain ⟨isFunction, _, isFunction', _⟩ := entry_notifiers
  obtain ⟨isOffered, isAsked, membersFit⟩ := objects_fit
  obtain ⟨functions, methods⟩ := open_parameters_follow_optional notifiers
  have fit : notifiers.isAssignable ⟨64⟩ ⟨66⟩ = true := optionalFirst_fits []
  refine ⟨⟨fit, leavesOpen_count, ?_⟩, membersFit, ?_⟩
  · exact (functions isFunction isFunction').1 fit 1 leavesOpen_count
  · exact methods isOffered isAsked membersFit (notify ⟨66⟩) List.mem_cons_self rfl (notify ⟨64⟩)
      (by decide) _ _ isFunction isFunction' 1 leavesOpen_count

/-- **A function may fit although calls leave a required parameter open**: the one behind an
optional one. -/
theorem required_parameter_left_open : ¬∀ (program : Program) (source target : TypeIndex)
    (given wanted : Signature), program.FromFiles →
      program.table.pool.entry source = .function given →
      program.table.pool.entry target = .function wanted →
      program.isAssignable source target = true →
        ∀ position, given.Requires position → position < wanted.parameters.length := by
  intro claimed
  obtain ⟨isFunction, _, isFunction', _⟩ := entry_notifiers
  obtain ⟨requires, isOpen⟩ := leavesOpen_count
  have inside := claimed notifiers ⟨64⟩ ⟨66⟩ _ _ fromFiles_notifiers isFunction isFunction'
    (optionalFirst_fits []) 1 requires
  exact Nat.not_lt.2 isOpen inside

end Program

end InjectionCheck
