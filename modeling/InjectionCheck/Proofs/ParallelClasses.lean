import InjectionCheck.Proofs.ParallelExpressions

/-!
# Classes read in parallel

In one place the grammar looks at what a string denotes: a member of a class that is called
`'constructor'` is the constructor. So the rules for classes run in parallel unless the first
one passes a token that differs (`Outcome.ParallelIfClear`). A member that does not parse is
passed up to the next one in both sources (`Cursor.exists_walk_recoverMember`).

What is read from the tokens of a class is the same if the tokens are, and the parameters of its
constructors start where tokens do (`Passed.ClassReading`).
-/

set_option autoImplicit false

namespace InjectionCheck

open Passed Cursor Outcome

/-! ## Rules at a cursor -/

namespace Cursor

variable {c c' d d' : Cursor}

section Rules

variable (alike : c.Alike c')

include alike

theorem parallel_assignment : Parallel Reading c.assignment c'.assignment :=
  Rules.parallel_assignmentFrom (Rules.alike_all c c') alike

theorem parallel_expression : Parallel Reading c.expression c'.expression :=
  Rules.parallel_expressionWhole (Rules.alike_all c c') alike

theorem parallel_type : Parallel Same c.type c'.type :=
  Rules.parallel_fullType (Rules.alike_all c c') alike

theorem parallel_decorators : Parallel Same c.decorators c'.decorators :=
  Rules.parallel_decorators_after (Rules.alike_all c c') (.refl [] []) alike

theorem parallel_parameters : Parallel (Parts ParameterReading) c.parameters c'.parameters :=
  Rules.parallel_parameters (Rules.alike_all c c') alike

theorem parallel_typeMembers : Parallel Same c.typeMembers c'.typeMembers :=
  Rules.parallel_typeMembers (Rules.alike_all c c') alike

theorem parallel_skipCallableTail : Parallel Equal c.skipCallableTail c'.skipCallableTail :=
  Rules.parallel_skipCallableTail (Rules.alike_all c c') alike

theorem parallel_skipFunction : Parallel Equal c.skipFunction c'.skipFunction :=
  Rules.parallel_skipFunction (Rules.alike_all c c') alike

theorem parallel_resultAscription : Parallel Same c.resultAscription c'.resultAscription :=
  Rules.parallel_resultAscription (Rules.alike_all c c') alike

theorem parallel_ascription : Parallel Same c.ascription c'.ascription := by
  unfold ascription
  refine alike.mark_cases (.ok alike (by grind)) (fun past past' _ walk => ?_) .colon
  exact .lax (.map (.go walk ((parallel_type walk.alike).mono (by grind))))

end Rules

/-! ## Going on further -/

/-- A cursor that is reached without passing a token is the one where it started. -/
theorem Reaches.eq_of_remaining (reaches : c.Reaches d) (same : d.remaining = c.remaining) :
    d = c := by
  obtain ⟨passed, ahead, behind, stop⟩ := reaches
  have none : passed = [] := by
    rw [remaining, remaining, ahead, List.length_append] at same
    exact List.length_eq_zero_iff.1 (by omega)
  subst none
  obtain ⟨_, _, _⟩ := c
  obtain ⟨_, _, _⟩ := d
  simp_all

/-- A token that is passed in one source is passed in the other one. -/
theorem Alike.exists_walk_of_ahead {token : Token} {tokens : List Token} (alike : c.Alike c')
    (ahead : c.ahead = token :: tokens) :
    ∃ token' d', Walk c c' [(token, token')] ⟨token :: c.behind, tokens, c.stop⟩ d' := by
  obtain ⟨_, _, stop⟩ := c
  obtain ⟨behind', ahead', stop'⟩ := c'
  obtain ⟨related, -, atStop, sorted⟩ := alike
  dsimp only at ahead related sorted
  subst ahead
  cases related with
  | @cons _ token' _ tokens' first others =>
      exact ⟨token', ⟨token' :: behind', tokens', stop'⟩, rfl, rfl, rfl, others,
        first.span_eq, atStop, (List.pairwise_cons.1 sorted).2⟩

/-- The tokens that are passed in one source are passed in the other one. -/
theorem Alike.exists_walk_of_reaches (alike : c.Alike c') (reaches : c.Reaches d) :
    ∃ passed d', Walk c c' passed d d' := by
  obtain ⟨tokens, ahead, behind, stop⟩ := reaches
  induction tokens generalizing c c' with
  | nil =>
      have same : d = c := Reaches.eq_of_remaining ⟨[], ahead, behind, stop⟩
        (congrArg List.length ahead).symm
      subst same
      exact ⟨[], c', .refl alike⟩
  | cons token tokens ih =>
      obtain ⟨token', e', walk⟩ := alike.exists_walk_of_ahead ahead
      obtain ⟨passed, d', walk'⟩ := ih walk.alike rfl
        (by rw [behind, List.reverse_cons, List.append_assoc, List.singleton_append]) stop
      exact ⟨_, d', walk.trans walk'⟩

/-- At two cursors nothing is next, or tokens that are alike. -/
@[elab_as_elim]
theorem Alike.next_walk (alike : c.Alike c') {motive : Option c.Past → Option c'.Past → Prop}
    (none : motive none none)
    (some : ∀ past past', past.token.Alike past'.token →
      Walk c c' [(past.token, past'.token)] past.rest past'.rest →
        motive (some past) (some past')) :
    motive c.next? c'.next? := by
  refine alike.next_cases (fun _ => none) (fun past past' same walk => ?_)
    fun past past' content content' kind kind' span walk => ?_
  · rw [← same] at walk
    exact some past past' (same ▸ .same _) (by rwa [← same])
  · refine some past past' ?_ walk
    obtain ⟨⟨_, span⟩, _, _, _⟩ := past
    obtain ⟨⟨_, span'⟩, _, _, _⟩ := past'
    dsimp only at kind kind' span
    subst kind kind' span
    exact .string content content' _

/-- After an error both sources go on from where they stopped, if they passed a token, and else
past the next one. -/
theorem Walk.exists_recovered {skip : (c : Cursor) → c.Further}
    (skips : ∀ {c c' : Cursor}, c.Alike c' → ∃ passed, Walk c c' passed (skip c).val (skip c').val)
    {past : c.Past} {past' : c'.Past} {pair : Token × Token}
    (first : Walk c c' [pair] past.rest past'.rest) {passed : Passed} (walk : Walk c c' passed d d')
    (reaches : c.Reaches d) (reaches' : c'.Reaches d') :
    ∃ further, Walk d d' further
      (if d.remaining = c.remaining then (skip past.rest).val else (skip d).val)
      (if d'.remaining = c'.remaining then (skip past'.rest).val else (skip d').val) := by
  have lengths : d.remaining = c.remaining ↔ d'.remaining = c'.remaining := by
    rw [remaining, remaining, remaining, remaining, walk.ahead, walk.ahead', List.length_append,
      List.length_append, List.length_map, List.length_map]
    omega
  by_cases same : d.remaining = c.remaining
  · rw [if_pos same, if_pos (lengths.1 same)]
    obtain ⟨skipped, further⟩ := skips first.alike
    cases reaches.eq_of_remaining same
    cases reaches'.eq_of_remaining (lengths.1 same)
    exact ⟨_, first.trans further⟩
  · rw [if_neg same, if_neg (mt lengths.2 same)]
    exact skips walk.alike

/-- A rule goes on from where it stopped or further on. -/
theorem reaches_recovered {skip : (c : Cursor) → c.Further} (past : c.Past)
    (reaches : c.Reaches d) :
    d.Reaches (if d.remaining = c.remaining then (skip past.rest).val else (skip d).val) := by
  split
  · next same =>
    cases reaches.eq_of_remaining same
    exact past.reaches.trans (skip past.rest).property
  · exact (skip d).property

end Cursor

/-! ## Rules in parallel on the same tokens -/

/-- Two rules run in parallel, unless the first one passes a token that differs or one of those
before does. -/
def Outcome.ParallelIfClear {α : Type} {moves : Bool} {c c' : Cursor} (before : Passed)
    (relation : Passed → α → α → Prop) (outcome : Outcome moves c α)
    (outcome' : Outcome moves c' α) : Prop :=
  Parallel relation outcome outcome' ∨
    ∃ passed d', Walk c c' passed outcome.rest d' ∧ ¬Clear (before ++ passed)

namespace Outcome.ParallelIfClear

variable {α β : Type} {moves : Bool} {c c' d d' : Cursor} {before passed : Passed}
  {relation : Passed → α → α → Prop} {relation' : Passed → β → β → Prop}

theorem of_parallel {outcome : Outcome moves c α} {outcome' : Outcome moves c' α}
    (parallel : Parallel relation outcome outcome') :
    ParallelIfClear before relation outcome outcome' :=
  .inl parallel

theorem of_not_clear (alike : c.Alike c') (differs : ¬Clear before) (outcome : Outcome moves c α)
    (outcome' : Outcome moves c' α) : ParallelIfClear before relation outcome outcome' := by
  obtain ⟨passed, d', walk⟩ := alike.exists_walk_of_reaches outcome.reaches
  exact .inr ⟨passed, d', walk, fun clear => differs (differAt_append.1 clear).1⟩

theorem mono {weaker : Passed → α → α → Prop} {outcome : Outcome moves c α}
    {outcome' : Outcome moves c' α} (parallel : ParallelIfClear before relation outcome outcome')
    (weaken : ∀ passed value value', relation passed value value' → weaker passed value value') :
    ParallelIfClear before weaker outcome outcome' :=
  parallel.imp_left fun parallel => parallel.mono weaken

/-- Rules that stop where others do that start further on. -/
theorem of_further {moves' : Bool} (walk : Walk c c' passed d d') {outcome : Outcome moves d α}
    {outcome' : Outcome moves d' α}
    (parallel : ParallelIfClear (before ++ passed) (fun further => relation (passed ++ further))
      outcome outcome') {whole : Outcome moves' c α} {whole' : Outcome moves' c' α}
    (same : whole.stopped = outcome.stopped) (same' : whole'.stopped = outcome'.stopped) :
    ParallelIfClear before relation whole whole' := by
  unfold ParallelIfClear Parallel
  rw [rest, rest, result, result, same, same']
  rcases parallel with ⟨further, walk', results⟩ | ⟨further, e', walk', differs⟩
  · exact .inl ⟨passed ++ further, walk.trans walk', results⟩
  · refine .inr ⟨passed ++ further, e', walk.trans walk', ?_⟩
    rwa [← List.append_assoc]

/-- The first of two rules passes a token that differs if a part of it does. -/
theorem of_further_of_not_clear {moves' : Bool} (walk : Walk c c' passed d d')
    (differs : ¬Clear (before ++ passed)) (outcome : Outcome moves d α)
    {whole : Outcome moves' c α} {whole' : Outcome moves' c' α}
    (same : whole.stopped = outcome.stopped) :
    ParallelIfClear before relation whole whole' := by
  obtain ⟨further, e', walk'⟩ := walk.alike.exists_walk_of_reaches outcome.reaches
  unfold ParallelIfClear
  rw [rest, same]
  refine .inr ⟨passed ++ further, e', walk.trans walk', fun clear => differs ?_⟩
  rw [← List.append_assoc] at clear
  exact (differAt_append.1 clear).1

theorem go {past : c.Past} {past' : c'.Past} {pair : Token × Token}
    (walk : Walk c c' [pair] past.rest past'.rest) {outcome : Outcome moves past.rest α}
    {outcome' : Outcome moves past'.rest α}
    (parallel : ParallelIfClear (before ++ [pair]) (fun further => relation (pair :: further))
      outcome outcome') :
    ParallelIfClear before relation (past.go outcome) (past'.go outcome') :=
  of_further walk parallel rfl rfl

theorem map {change change' : α → β} {outcome : Outcome moves c α} {outcome' : Outcome moves c' α}
    (parallel : ParallelIfClear before (fun passed value value' =>
      relation' passed (change value) (change' value')) outcome outcome') :
    ParallelIfClear before relation' (outcome.map change) (outcome'.map change') := by
  rcases parallel with parallel | ⟨passed, d', walk, differs⟩
  · exact .inl (.map parallel)
  · refine .inr ⟨passed, d', ?_, differs⟩
    obtain ⟨⟨result, d⟩, reaches, moved⟩ := outcome
    cases result <;> exact walk

theorem mapAt {change change' : α → Cursor → β} {outcome : Outcome moves c α}
    {outcome' : Outcome moves c' α} (parallel : ParallelIfClear before relation outcome outcome')
    (changed : ∀ {passed value value' d d'}, Walk c c' passed d d' → relation passed value value' →
      relation' passed (change value d) (change' value' d')) :
    ParallelIfClear before relation' (outcome.mapAt change) (outcome'.mapAt change') := by
  rcases parallel with parallel | ⟨passed, e', walk, differs⟩
  · exact .inl (parallel.mapAt changed)
  · refine .inr ⟨passed, e', ?_, differs⟩
    obtain ⟨⟨result, d⟩, reaches, moved⟩ := outcome
    cases result <;> exact walk

theorem bind {outcome : Outcome false c α} {outcome' : Outcome false c' α}
    {next : (value : α) → (d : Cursor) → d.remaining ≤ c.remaining → Outcome moves d β}
    {next' : (value : α) → (d : Cursor) → d.remaining ≤ c'.remaining → Outcome moves d β}
    (first : Parallel relation outcome outcome')
    (second : ∀ {passed value value' d d'} atMost atMost', Walk c c' passed d d' →
      relation passed value value' →
        ParallelIfClear (before ++ passed) (fun further => relation' (passed ++ further))
          (next value d atMost) (next' value' d' atMost')) :
    ParallelIfClear before relation' (outcome.bind next) (outcome'.bind next') := by
  obtain ⟨⟨result, d⟩, reaches, moved⟩ := outcome
  obtain ⟨⟨result', d'⟩, reaches', moved'⟩ := outcome'
  obtain ⟨passed, walk, results⟩ := first
  cases results with
  | ok related =>
      exact of_further walk (second reaches.remaining_le reaches'.remaining_le walk related) rfl rfl
  | error error error' => exact .inl ⟨passed, walk, .error error error'⟩

theorem andThen {outcome : Outcome true c α} {outcome' : Outcome true c' α}
    {next : (value : α) → (d : Cursor) → d.remaining < c.remaining → Outcome moves d β}
    {next' : (value : α) → (d : Cursor) → d.remaining < c'.remaining → Outcome moves d β}
    (first : Parallel relation outcome outcome')
    (second : ∀ {passed value value' d d'} less less', Walk c c' passed d d' →
      relation passed value value' →
        ParallelIfClear (before ++ passed) (fun further => relation' (passed ++ further))
          (next value d less) (next' value' d' less')) :
    ParallelIfClear before relation' (outcome.andThen next) (outcome'.andThen next') := by
  obtain ⟨⟨result, d⟩, reaches, moved⟩ := outcome
  obtain ⟨⟨result', d'⟩, reaches', moved'⟩ := outcome'
  obtain ⟨passed, walk, results⟩ := first
  cases results with
  | @ok value value' related =>
      exact of_further walk
        (second (moved rfl ⟨value, rfl⟩) (moved' rfl ⟨value', rfl⟩) walk related) rfl rfl
  | error error error' => exact .inl ⟨passed, walk, .error error error'⟩

theorem ite {condition : Prop} [Decidable condition] {first second : Outcome moves c α}
    {first' second' : Outcome moves c' α}
    (isTrue : condition → ParallelIfClear before relation first first')
    (isFalse : ¬condition → ParallelIfClear before relation second second') :
    ParallelIfClear before relation (if condition then first else second)
      (if condition then first' else second') := by
  split
  · next holds => exact isTrue holds
  · next fails => exact isFalse fails

end Outcome.ParallelIfClear

/-! ## Heritage -/

namespace Cursor

theorem parallel_skipNameParts {qualified : Bool} {c c' : Cursor} (alike : c.Alike c') :
    Parallel Equal (c.skipNameParts qualified) (c'.skipNameParts qualified) := by
  unfold skipNameParts
  refine alike.mark_cases (.ok alike rfl) (fun past past' _ walk => ?_) .dot
  have := past.less
  refine .lax (.go walk ((parallel_propertyName walk.alike).andThen fun _ _ walk' _ => ?_))
  exact parallel_skipNameParts walk'.alike
termination_by c.remaining

section Heritage

variable {c c' : Cursor} (alike : c.Alike c')

include alike

theorem parallel_heritageName : Parallel Equal c.heritageName c'.heritageName := by
  unfold heritageName
  refine (parallel_expectName alike).andThen fun {_ name _ _ _} _ _ walk₁ same => ?_
  cases same
  refine (parallel_skipNameParts walk₁.alike).bind fun {_ qualified _ _ _} _ _ walk₂ same => ?_
  cases same
  refine (parallel_skipAnglesIfAny walk₂.alike).bind fun _ _ walk₃ _ => ?_
  exact .ok walk₃.alike rfl

omit alike in
theorem parallel_heritageNames {earlier : List NameUse} {c c' : Cursor} (alike : c.Alike c') :
    Parallel Equal (c.heritageNames earlier) (c'.heritageNames earlier) := by
  unfold heritageNames
  refine (parallel_heritageName alike).andThen fun {_ name _ _ _} _ _ walk same => ?_
  cases same
  refine walk.alike.mark_cases (.ok walk.alike rfl) (fun past past' _ walk' => ?_) .comma
  have := past.less
  exact .lax (.go walk' (parallel_heritageNames walk'.alike))
termination_by c.remaining

theorem parallel_heritageClause (word : Keyword) :
    Parallel Equal (c.heritageClause word) (c'.heritageClause word) := by
  unfold heritageClause
  refine alike.keyword_cases (.ok alike rfl) (fun past past' _ walk => ?_) word
  exact .lax (.go walk (parallel_heritageNames walk.alike))

theorem parallel_baseClause : Parallel Equal c.baseClause c'.baseClause := by
  unfold baseClause
  refine alike.keyword_cases (.ok alike rfl) (fun past past' _ walk => ?_) .extends_
  exact .lax (.go walk (parallel_heritageName walk.alike))

end Heritage

end Cursor

/-! ## Members -/

/-- The parameters of a constructor; other members have none that a container fills in. -/
def ClassMember.injected : ClassMember → List Parameter
  | .constructor member => member.parameters
  | .property _ | .method _ => []

/-- The parameters that a container fills in are those of the first constructor. -/
theorem ClassDeclaration.parameters_sublist (declaration : ClassDeclaration) :
    (declaration.constructor?.toList.flatMap Constructor.parameters).Sublist
      (declaration.members.flatMap ClassMember.injected) := by
  rw [constructor?]
  induction declaration.members with
  | nil => exact .slnil
  | cons member members ih =>
      rw [List.findSome?_cons, List.flatMap_cons]
      cases member with
      | constructor member =>
          dsimp only [Option.toList_some]
          rw [List.flatMap_singleton]
          exact List.sublist_append_left _ _
      | property member => exact ih
      | method member => exact ih

namespace Passed

/-- A value that may be there is read from tokens that are alike. -/
abbrev IfAny {α : Type} (relation : Passed → α → α → Prop) (passed : Passed)
    (value value' : Option α) : Prop :=
  Parts relation passed value.toList value'.toList

/-- Members of classes that are read from tokens that are alike. -/
structure MemberReading (passed : Passed) (member member' : ClassMember) : Prop where
  same : Same passed member member'
  parameters : (member.injected.map (·.span.start)).Sublist (starts passed)

/-- Classes that are read from tokens that are alike. -/
structure ClassReading (passed : Passed) (declaration declaration' : ClassDeclaration) : Prop where
  same : Same passed declaration declaration'
  parameters :
    ((declaration.members.flatMap ClassMember.injected).map (·.span.start)).Sublist (starts passed)

variable {passed : Passed}

/-- What is read of each of some elements and starts where a token of the element does, starts
where tokens of all of them do. -/
theorem Parts.sublist {α : Type} {relation : Passed → α → α → Prop} {positions : α → List Nat}
    (each : ∀ {passed value value'}, relation passed value value' →
      (positions value).Sublist (starts passed)) {values values' : List α}
    (parts : Parts relation passed values values') :
    (values.flatMap positions).Sublist (starts passed) := by
  induction parts with
  | nil => exact .slnil
  | skip pair _ ih => exact ih.cons _
  | cons related _ ih =>
      rw [List.flatMap_cons, starts_append]
      exact (each related).append ih

theorem Parts.parameters {parameters parameters' : List Parameter}
    (parts : Parts ParameterReading passed parameters parameters') :
    (parameters.map (·.span.start)).Sublist (starts passed) := by
  rw [← List.flatMap_pure_eq_map]
  exact parts.sublist fun reading => reading.start

theorem Parts.injected {members members' : List ClassMember}
    (parts : Parts MemberReading passed members members') :
    ((members.flatMap ClassMember.injected).map (·.span.start)).Sublist (starts passed) := by
  rw [List.map_flatMap]
  exact parts.sublist fun reading => reading.parameters

theorem MemberReading.append_left {member member' : ClassMember}
    (reading : MemberReading passed member member') (before : Passed) :
    MemberReading (before ++ passed) member member' where
  same clear := reading.same (differAt_append.1 clear).2
  parameters := by
    rw [starts_append]
    exact reading.parameters.trans (List.sublist_append_right _ _)

theorem IfAny.some {α : Type} {relation : Passed → α → α → Prop} {value value' : α}
    (related : relation passed value value') :
    IfAny relation passed (some value) (some value') := by
  have parts : Parts relation (passed ++ []) [value] [value'] := .cons related .nil
  rwa [List.append_nil] at parts

theorem IfAny.same {α : Type} {relation : Passed → α → α → Prop} {value value' : Option α}
    (parts : IfAny relation passed value value')
    (each : ∀ passed value value', relation passed value value' → Same passed value value') :
    Same passed value value' := by
  intro clear
  have lists := Parts.same parts each clear
  cases value <;> cases value' <;> simp_all

end Passed

namespace Cursor

section Members

variable {c c' : Cursor} (alike : c.Alike c')

include alike

theorem seesAccessorWord_congr (word : String) :
    c.seesAccessorWord word = c'.seesAccessorWord word := by
  have bracket : c.peek? 1 = some (.mark .lbracket) ↔ c'.peek? 1 = some (.mark .lbracket) :=
    alike.peek_eq_iff 1 (by simp)
  rw [seesAccessorWord, seesAccessorWord, alike.seesName, alike.namesProperty]
  simp only [bracket]

theorem parallel_initial : Parallel (IfAny Reading) c.initial c'.initial := by
  unfold initial
  refine alike.mark_cases (.ok alike .nil) (fun past past' _ walk => ?_) .eq
  refine .lax (.map (.go walk ((parallel_assignment walk.alike).mono fun _ _ _ reading => ?_)))
  exact .skip _ (IfAny.some reading)

theorem parallel_skipBody : Parallel Equal c.skipBody c'.skipBody := by
  unfold skipBody
  rw [alike.seesMark]
  refine .ite (fun _ => .lax (.map ((parallel_skipGroup alike).mono fun _ _ _ _ => rfl)))
    fun _ => parallel_optionalSemicolon alike

theorem parallel_skipComputedClassMember :
    Parallel Equal c.skipComputedClassMember c'.skipComputedClassMember := by
  unfold skipComputedClassMember
  refine (parallel_skipGroup alike).andThen fun _ _ walk₁ _ => ?_
  refine (parallel_optionalMark walk₁.alike .question).bind fun _ _ walk₂ _ => ?_
  refine (parallel_ascription walk₂.alike).bind fun _ _ walk₃ _ => ?_
  refine (parallel_initial walk₃.alike).bind fun _ _ walk₄ _ => ?_
  rw [Rules.startsSignature_congr walk₄.alike]
  refine .ite (fun _ => .lax ((parallel_skipCallableTail walk₄.alike).mono fun _ _ _ _ => rfl))
    fun _ => (parallel_optionalSemicolon walk₄.alike).mono fun _ _ _ _ => rfl

variable (start : Span)

theorem parallel_constructorAfter :
    Parallel MemberReading (c.constructorAfter start) (c'.constructorAfter start) := by
  unfold constructorAfter
  refine (parallel_parameters alike).andThen fun _ _ walk₁ parts => ?_
  refine (parallel_skipBody walk₁.alike).bind fun _ _ walk₂ _ => ?_
  have same := parts.same fun _ _ _ reading => reading.same
  exact .ok walk₂.alike ⟨by grind, (parts.extend _).parameters⟩

variable (modifiers : Modifiers) (isGetter : Bool) (name : String) (optional : Bool)

theorem parallel_methodAfter :
    Parallel MemberReading (c.methodAfter start modifiers isGetter name optional)
      (c'.methodAfter start modifiers isGetter name optional) := by
  unfold methodAfter
  refine (parallel_skipAnglesIfAny alike).bind fun _ _ walk₁ _ => ?_
  refine (parallel_parameters walk₁.alike).andThen fun _ _ walk₂ parts => ?_
  refine (parallel_resultAscription walk₂.alike).bind fun _ _ walk₃ result => ?_
  refine (parallel_skipBody walk₃.alike).bind fun _ _ walk₄ _ => ?_
  have parameters := parts.same fun _ _ _ reading => reading.same
  cases isGetter with
  | true => exact .ok walk₄.alike ⟨by grind, List.nil_sublist _⟩
  | false => exact .ok walk₄.alike ⟨by grind, List.nil_sublist _⟩

theorem parallel_propertyAfter :
    Parallel MemberReading (c.propertyAfter start modifiers name optional)
      (c'.propertyAfter start modifiers name optional) := by
  unfold propertyAfter
  refine (parallel_ascription alike).bind fun _ _ walk₁ type => ?_
  refine (parallel_initial walk₁.alike).bind fun _ _ walk₂ value => ?_
  refine (parallel_optionalSemicolon walk₂.alike).bind fun _ _ walk₃ _ => ?_
  have initial := IfAny.same value fun _ _ _ reading => reading.same
  exact .ok walk₃.alike ⟨by grind, List.nil_sublist _⟩

/-- Whether a member is a constructor depends on its name, which may be a string. -/
theorem parallel_namedMember (before : Passed) :
    ParallelIfClear before MemberReading (c.namedMember start modifiers isGetter)
      (c'.namedMember start modifiers isGetter) := by
  unfold namedMember
  refine .bind (parallel_optionalMark alike .star) fun {star _ _ _ _} _ _ walk₁ _ => ?_
  refine .andThen (parallel_propertyName walk₁.alike)
    fun {named property property' _ _} _ _ walk₂ same => ?_
  by_cases clear : Clear named
  · cases same clear
    refine .of_parallel ?_
    refine (parallel_optionalMark walk₂.alike .question).bind
      fun {mark optional _ _ _} _ _ walk₃ same => ?_
    cases same
    refine (parallel_optionalMark walk₃.alike .bang).bind fun {bang _ _ _ _} _ _ walk₄ _ => ?_
    have whole {passed : Passed} {member member' : ClassMember}
        (reading : MemberReading passed member member') :
        MemberReading (star ++ (named ++ (mark ++ (bang ++ passed)))) member member' :=
      (((reading.append_left _).append_left _).append_left _).append_left _
    simp only [walk₄.alike.seesMark, Rules.startsSignature_congr walk₄.alike]
    refine .ite (fun _ => .lax ?_) fun _ => .ite (fun _ => .lax ?_) fun _ => ?_
    · exact (parallel_constructorAfter walk₄.alike _).mono fun _ _ _ => whole
    · exact (parallel_methodAfter walk₄.alike _ _ _ _ _).mono fun _ _ _ => whole
    · exact (parallel_propertyAfter walk₄.alike _ _ _ _).mono fun _ _ _ => whole
  · exact .of_not_clear walk₂.alike (by grind) _ _

omit start isGetter name optional in
theorem parallel_memberAfter (start : Span) (before : Passed) :
    ParallelIfClear before (IfAny MemberReading) (c.memberAfter start modifiers)
      (c'.memberAfter start modifiers) := by
  have named (isGetter : Bool) {before : Passed} {c c' : Cursor} (alike : c.Alike c') :
      ParallelIfClear before (IfAny MemberReading)
        ((c.namedMember start modifiers isGetter).map some)
        ((c'.namedMember start modifiers isGetter).map some) :=
    .map ((parallel_namedMember alike start modifiers isGetter before).mono
      fun _ _ _ reading => IfAny.some reading)
  unfold memberAfter
  simp only [alike.seesMark]
  refine .ite (fun _ => .of_parallel (.map ?_)) fun _ =>
    .ite (fun _ => .of_parallel (.map ?_)) fun _ => ?_
  · exact (parallel_skipGroup alike).mono fun passed _ _ _ => Parts.skipAll passed
  · exact (parallel_skipComputedClassMember alike).mono fun passed _ _ _ => Parts.skipAll passed
  refine alike.next_walk (named false alike) fun past past' _ walk => ?_
  simp only [seesAccessorWord_congr alike]
  refine .ite (fun _ => .go walk ?_) fun _ => .ite (fun _ => .go walk (.of_parallel ?_)) fun _ => ?_
  · exact (named true walk.alike).mono fun _ _ _ parts => .skip _ parts
  · refine (parallel_propertyName walk.alike).andThen fun _ _ walk' _ => .map ?_
    exact (parallel_skipCallableTail walk'.alike).mono fun _ _ _ _ => Parts.skipAll _
  · exact named false alike

omit start modifiers isGetter name optional in
theorem parallel_classMember (before : Passed) :
    ParallelIfClear before (IfAny MemberReading) c.classMember c'.classMember := by
  unfold classMember
  refine alike.mark_cases ?_ (fun past past' _ walk => ?_) .semicolon
  · refine .bind (parallel_decorators alike) fun _ _ walk₁ _ => ?_
    refine .bind (Rules.parallel_modifiers walk₁.alike) fun {_ modifiers _ _ _} _ _ walk₂ same => ?_
    cases same
    rw [alike.span]
    refine (parallel_memberAfter walk₂.alike modifiers c'.span _).mono fun _ _ _ parts => ?_
    exact (Parts.skipAll _).append ((Parts.skipAll _).append parts)
  · exact .of_parallel (.go walk (.ok walk.alike (Parts.skipAll _)))

end Members

/-! ## Going on after a member -/

theorem exists_walk_skipToMember {c c' : Cursor} (alike : c.Alike c') :
    ∃ passed, Walk c c' passed c.skipToMember.val c'.skipToMember.val := by
  unfold skipToMember
  refine alike.next_cases (fun _ => ⟨[], .refl alike⟩) (fun past past' same walk => ?_)
    fun past past' content content' kind kind' _ walk => ?_
  · have := past.less
    obtain ⟨token', rest', _, _⟩ := past'
    dsimp only at same walk ⊢
    subst same
    have group (bracket : Bracket) (opened : Span) :
        ∃ passed, Walk c c' passed (restOfGroup bracket opened past.rest).rest
          (restOfGroup bracket opened rest').rest := by
      obtain ⟨passed, walk', -⟩ := parallel_restOfGroup walk.alike bracket opened
      exact ⟨_, walk.trans walk'⟩
    split
    · exact ⟨[], .refl alike⟩
    · exact ⟨_, walk⟩
    · exact group _ _
    · cases past.token.kind.opens? with
      | some bracket =>
          obtain ⟨_, walk'⟩ := group bracket past.token.span
          have := (restOfGroup bracket past.token.span past.rest).reaches.remaining_le
          obtain ⟨_, further⟩ := exists_walk_skipToMember walk'.alike
          exact ⟨_, walk'.trans further⟩
      | none =>
          obtain ⟨_, further⟩ := exists_walk_skipToMember walk.alike
          exact ⟨_, walk.trans further⟩
  · have := past.less
    simp only [kind, kind', Kind.opens?]
    obtain ⟨_, further⟩ := exists_walk_skipToMember walk.alike
    exact ⟨_, walk.trans further⟩
termination_by c.remaining

theorem recoverMember_val {start c : Cursor} (past : start.Past) (reaches : start.Reaches c) :
    (recoverMember past c reaches).val =
      if c.remaining = start.remaining then past.rest.skipToMember.val else c.skipToMember.val := by
  unfold recoverMember
  split <;> rfl

theorem reaches_recoverMember {start c : Cursor} (past : start.Past) (reaches : start.Reaches c) :
    c.Reaches (recoverMember past c reaches).val := by
  rw [recoverMember_val]
  exact reaches_recovered past reaches

theorem exists_walk_recoverMember {start start' d d' : Cursor} {past : start.Past}
    {past' : start'.Past} {pair : Token × Token}
    (first : Walk start start' [pair] past.rest past'.rest) {passed : Passed}
    (walk : Walk start start' passed d d') (reaches : start.Reaches d)
    (reaches' : start'.Reaches d') :
    ∃ further, Walk d d' further (recoverMember past d reaches).val
      (recoverMember past' d' reaches').val := by
  rw [recoverMember_val, recoverMember_val]
  exact first.exists_recovered exists_walk_skipToMember walk reaches reaches'

/-! ## Classes -/

theorem reverse_toList_append {α : Type} (value : Option α) (earlier : List α) :
    (value.toList ++ earlier).reverse = earlier.reverse ++ value.toList := by
  cases value <;> simp

theorem parallel_membersAfter {opening opening' : Opening} {before : Passed}
    {earlier earlier' : List ClassMember}
    (parts : Parts MemberReading before earlier.reverse earlier'.reverse)
    {c c' : Cursor} (alike : c.Alike c') :
    ParallelIfClear before (fun passed => Parts MemberReading (before ++ passed))
      (c.membersAfter opening earlier) (c'.membersAfter opening' earlier') := by
  unfold membersAfter
  refine alike.mark_cases ?_ (fun past past' _ walk => ?_) .rbrace
  · refine alike.next_walk (.of_parallel (.fail alike)) fun past past' _ first => ?_
    dsimp only
    have run := parallel_classMember alike before
    generalize c.classMember = outcome, c'.classMember = outcome' at run
    obtain ⟨⟨result, d⟩, reaches, moved⟩ := outcome
    obtain ⟨⟨result', d'⟩, reaches', moved'⟩ := outcome'
    rcases run with ⟨passed, walk, results⟩ | ⟨passed, e', walk, differs⟩
    · cases results with
      | @ok member member' related =>
          have less : d.remaining < c.remaining := moved rfl ⟨member, rfl⟩
          have further : Parts MemberReading (before ++ passed) (member.toList ++ earlier).reverse
            (member'.toList ++ earlier').reverse := by
            have all := parts.append related
            rwa [← reverse_toList_append, ← reverse_toList_append] at all
          refine .of_further walk ((parallel_membersAfter further walk.alike).mono ?_) rfl rfl
          intro _ _ _ parts
          rwa [List.append_assoc] at parts
      | error error error' =>
          have less := (recoverMember past d reaches).property.2
          obtain ⟨skipped, walk'⟩ := exists_walk_recoverMember first walk reaches reaches'
          refine .of_further (walk.trans walk') ((parallel_membersAfter
            (parts.extend (passed ++ skipped)) walk'.alike).mono ?_) rfl rfl
          intro _ _ _ parts
          rwa [List.append_assoc] at parts
    · cases result with
      | ok member =>
          exact .of_further_of_not_clear walk differs (membersAfter _ _ d) rfl
      | error error =>
          exact .of_further_of_not_clear walk differs
            ((membersAfter _ _ _).following (reaches_recoverMember past reaches)) rfl
  · exact .of_parallel (.go walk (.ok walk.alike (parts.extend _)))
termination_by c.remaining

section Classes

variable {c c' : Cursor} (alike : c.Alike c')

include alike

theorem parallel_classBody (before : Passed) :
    ParallelIfClear before (fun passed => Parts MemberReading (before ++ passed))
      c.classBody c'.classBody := by
  unfold classBody
  refine .andThen (parallel_expectMark alike .lbrace) fun {opened _ _ _ _} _ _ walk _ => ?_
  have none : Parts MemberReading (before ++ opened) ([] : List ClassMember).reverse
    ([] : List ClassMember).reverse := .skipAll _
  refine (parallel_membersAfter none walk.alike).mono fun _ _ _ parts => ?_
  rwa [List.append_assoc] at parts

variable {before : Passed} {decorators decorators' : List Decorator}
  (sameDecorators : Same before decorators decorators') (isAbstract : Bool)

include sameDecorators

theorem parallel_classHead :
    Parallel (fun passed => Same (before ++ passed)) (c.classHead decorators isAbstract)
      (c'.classHead decorators' isAbstract) := by
  unfold classHead
  refine (parallel_expectKeyword alike .class_).andThen fun _ _ walk₁ _ => ?_
  refine (parallel_expectName walk₁.alike).andThen fun {_ name _ _ _} _ _ walk₂ same => ?_
  cases same
  refine (parallel_skipAnglesIfAny walk₂.alike).bind fun _ _ walk₃ _ => ?_
  refine (parallel_baseClause walk₃.alike).bind fun {_ base _ _ _} _ _ walk₄ same => ?_
  cases same
  refine (parallel_heritageClause walk₄.alike .implements_).bind
    fun {_ implemented _ _ _} _ _ walk₅ same => ?_
  cases same
  exact .ok walk₅.alike (by grind)

theorem parallel_classDeclaration :
    ParallelIfClear before (fun passed => ClassReading (before ++ passed))
      (c.classDeclaration decorators isAbstract) (c'.classDeclaration decorators' isAbstract) := by
  unfold classDeclaration
  refine .andThen (parallel_classHead alike sameDecorators isAbstract) fun _ _ walk head => ?_
  refine .map ((parallel_classBody walk.alike _).mono fun _ _ _ parts => ?_)
  rw [List.append_assoc] at parts
  have same := parts.same fun _ _ _ reading => reading.same
  exact ⟨by grind, parts.injected⟩

end Classes

end Cursor

end InjectionCheck
