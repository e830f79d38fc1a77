import InjectionCheck.Proofs.AbreastExpressions
import InjectionCheck.Proofs.SkippedBodies

/-!
# Classes beside each other

The rules for classes and their members do in a file what they do in its revision, as long as
they stay in front of the brace; and a rule that skips the revised body goes on abreast behind
it (`Revision.after`). Where a class goes on after a member that does not parse is found alike,
too.
-/

set_option autoImplicit false

namespace InjectionCheck

open Cursor Outcome

/-! ## Behind the body -/

/-- Two cursors are behind the body, before tokens of the same kinds. -/
structure Revision.Behind (r : Revision) (c c' : Cursor) : Prop where
  entered : c.remaining < r.gap.length
  entered' : c'.remaining < r.gap'.length
  abreast : r.after.Abreast c c'

/-- Two rules pass the body and stop behind it at cursors that are abreast again, with values that
are related or with the same error. -/
structure Outcome.Behind {α : Type} {moves moves' : Bool} {c c' : Cursor} (r : Revision)
    (agree : α → α → Prop) (outcome : Outcome moves c α) (outcome' : Outcome moves' c' α) :
    Prop where
  entered : outcome.rest.remaining < r.gap.length
  entered' : outcome'.rest.remaining < r.gap'.length
  abreast : Outcome.Abreast r.after agree outcome outcome'

namespace Outcome.Behind

variable {α β : Type} {moves : Bool} {r : Revision} {b c c' : Cursor} {agree : α → α → Prop}
  {agree' : β → β → Prop}

theorem lax {outcome : Outcome moves c α} {outcome' : Outcome moves c' α}
    (behind : Behind r agree outcome outcome') : Behind r agree outcome.lax outcome'.lax :=
  ⟨behind.entered, behind.entered', behind.abreast.lax⟩

theorem go {past : c.Past} {past' : c'.Past} {outcome : Outcome moves past.rest α}
    {outcome' : Outcome moves past'.rest α} (behind : Behind r agree outcome outcome') :
    Behind r agree (past.go outcome) (past'.go outcome') :=
  ⟨behind.entered, behind.entered', behind.abreast.go⟩

theorem mapAt {change change' : α → Cursor → β} {outcome : Outcome moves c α}
    {outcome' : Outcome moves c' α} (behind : Behind r agree outcome outcome')
    (changed : ∀ {value value' d d'}, agree value value' →
      agree' (change value d) (change' value' d')) :
    Behind r agree' (outcome.mapAt change) (outcome'.mapAt change') := by
  refine ⟨?_, ?_, behind.abreast.mapAt changed⟩
  · rw [rest_mapAt]
    exact behind.entered
  · rw [rest_mapAt]
    exact behind.entered'

theorem map {change change' : α → β} {outcome : Outcome moves c α} {outcome' : Outcome moves c' α}
    (behind : Behind r agree outcome outcome')
    (changed : ∀ {value value'}, agree value value' → agree' (change value) (change' value')) :
    Behind r agree' (outcome.map change) (outcome'.map change') :=
  @mapAt α β moves r c c' agree agree' (fun value _ => change value) (fun value _ => change' value)
    outcome outcome' behind fun related => changed related

/-- Behind the body another rule goes on. -/
theorem bind {outcome : Outcome false c α} {outcome' : Outcome false c' α}
    {next : (value : α) → (d : Cursor) → d.remaining ≤ c.remaining → Outcome moves d β}
    {next' : (value : α) → (d : Cursor) → d.remaining ≤ c'.remaining → Outcome moves d β}
    (first : Behind r agree outcome outcome')
    (second : ∀ {value value' d d'} atMost atMost', r.after.Abreast d d' → agree value value' →
      Abreast r.after agree' (next value d atMost) (next' value' d' atMost')) :
    Behind r agree' (outcome.bind next) (outcome'.bind next') where
  entered := Nat.lt_of_le_of_lt (outcome.reaches_bind next).remaining_le first.entered
  entered' := Nat.lt_of_le_of_lt (outcome'.reaches_bind next').remaining_le first.entered'
  abreast := first.abreast.bind second

/-- A rule that succeeds in front of the body, and then another one that passes it. -/
theorem of_bind (isBody : b.remaining = r.gap.length) {outcome : Outcome false c α}
    {outcome' : Outcome false c' α}
    {next : (value : α) → (d : Cursor) → d.remaining ≤ c.remaining → Outcome moves d β}
    {next' : (value : α) → (d : Cursor) → d.remaining ≤ c'.remaining → Outcome moves d β}
    {holds : (value : α) → (d : Cursor) → d.remaining ≤ c.remaining → Prop}
    (first : Abreast r agree outcome outcome') (skips : outcome.Then holds)
    (further : ∀ {value d atMost}, holds value d atMost → b.remaining ≤ d.remaining)
    (second : ∀ {value value' d d'} atMost atMost', r.Abreast d d' → agree value value' →
      holds value d atMost → Behind r agree' (next value d atMost) (next' value' d' atMost')) :
    Behind r agree' (outcome.bind next) (outcome'.bind next') := by
  obtain ⟨⟨result, d⟩, reaches, moved⟩ := outcome
  obtain ⟨⟨result', d'⟩, reaches', moved'⟩ := outcome'
  obtain ⟨value, succeeded, held⟩ := skips
  cases (succeeded : result = .ok value)
  obtain entered | ⟨rests, results⟩ := first
  · exact absurd (further held) (Nat.not_le_of_lt (isBody ▸ entered))
  · cases results with
    | ok related =>
        obtain ⟨entered, entered', abreast⟩ :=
          second reaches.remaining_le reaches'.remaining_le rests related held
        exact ⟨entered, entered', abreast⟩

theorem of_andThen (isBody : b.remaining = r.gap.length) {outcome : Outcome true c α}
    {outcome' : Outcome true c' α}
    {next : (value : α) → (d : Cursor) → d.remaining < c.remaining → Outcome moves d β}
    {next' : (value : α) → (d : Cursor) → d.remaining < c'.remaining → Outcome moves d β}
    {holds : (value : α) → (d : Cursor) → d.remaining ≤ c.remaining → Prop}
    (first : Abreast r agree outcome outcome') (skips : outcome.Then holds)
    (further : ∀ {value d atMost}, holds value d atMost → b.remaining ≤ d.remaining)
    (second : ∀ {value value' d d'} less less', r.Abreast d d' → agree value value' →
      holds value d (Nat.le_of_lt less) →
        Behind r agree' (next value d less) (next' value' d' less')) :
    Behind r agree' (outcome.andThen next) (outcome'.andThen next') := by
  obtain ⟨⟨result, d⟩, reaches, moved⟩ := outcome
  obtain ⟨⟨result', d'⟩, reaches', moved'⟩ := outcome'
  obtain ⟨value, succeeded, held⟩ := skips
  cases (succeeded : result = .ok value)
  obtain entered | ⟨rests, results⟩ := first
  · exact absurd (further held) (Nat.not_le_of_lt (isBody ▸ entered))
  · cases results with
    | ok related =>
        obtain ⟨entered, entered', abreast⟩ :=
          second (moved rfl ⟨_, rfl⟩) (moved' rfl ⟨_, rfl⟩) rests related held
        exact ⟨entered, entered', abreast⟩

end Outcome.Behind

namespace Cursor

variable {r : Revision} {b c c' : Cursor}

/-- The body is passed as a whole in both files, whatever stands in it. -/
theorem abreast_skipGroup_body (isBody : b.remaining = r.gap.length) (abreast : r.Abreast c c')
    (opens : c.OpensBody b) : Outcome.Behind r Unrelated c.skipGroup c'.skipGroup := by
  obtain ⟨reaches, reaches', front, front', same, ahead, ahead'⟩ := abreast
  have noFront : front = [] := by
    have length := congrArg List.length ahead
    rw [List.length_append] at length
    rw [← opens.1, remaining] at isBody
    exact List.eq_nil_of_length_eq_zero (by omega)
  subst noFront
  cases same
  have brace := opens.2
  obtain ⟨behind, tokens, stop⟩ := c
  obtain ⟨behind', tokens', stop'⟩ := c'
  obtain ⟨origin, origin', gap, gap', shape, settled⟩ := r
  cases (ahead : tokens = gap)
  cases (ahead' : tokens' = gap')
  cases shape with
  | none => cases brace
  | @braces opening closing opening' closing' inner inner' rest rest' opened opened' closed closed'
      inside inside' others =>
      obtain ⟨span, stopped⟩ := skipGroup_nested opened closed inside behind rest stop
      obtain ⟨span', stopped'⟩ := skipGroup_nested opened' closed' inside' behind' rest' stop'
      have fewer (opening closing : Token) (inner rest : List Token) :
          rest.length < (opening :: (inner ++ closing :: rest)).length := by
        simp only [List.length_cons, List.length_append]
        omega
      refine ⟨?_, ?_, .of_stopped ?_ stopped stopped' trivial⟩
      · rw [rest_of_stopped stopped]
        exact fewer _ _ _ _
      · rw [rest_of_stopped stopped']
        exact fewer _ _ _ _
      exact ⟨reaches.trans (reaches_of_stopped stopped),
        reaches'.trans (reaches_of_stopped stopped'), rest, rest', others,
        (List.append_nil rest).symm, (List.append_nil rest').symm⟩

/-! ## Rules at a cursor -/

section Rules

variable (abreast : r.Abreast c c')

include abreast

theorem abreast_decorators : Outcome.Abreast r (SameUnder (List.map Decorator.unplaced))
    c.decorators c'.decorators :=
  Rules.abreast_decorators (Rules.abreast_all c c') abreast rfl _ _

theorem abreast_parameters : Outcome.Abreast r (SameUnder (List.map Parameter.unplaced))
    c.parameters c'.parameters :=
  Rules.abreast_parameters (Rules.abreast_all c c') abreast _ _

theorem abreast_typeMembers : Outcome.Abreast r (SameUnder (List.map TypeMember.unplaced))
    c.typeMembers c'.typeMembers :=
  Rules.abreast_typeMembers (Rules.abreast_all c c') abreast _ _

theorem abreast_skipCallableTail :
    Outcome.Abreast r Eq c.skipCallableTail c'.skipCallableTail :=
  Rules.abreast_skipCallableTail (Rules.abreast_all c c') abreast _ _

theorem abreast_skipFunction : Outcome.Abreast r Eq c.skipFunction c'.skipFunction :=
  Rules.abreast_skipFunction (Rules.abreast_all c c') abreast _ _

theorem abreast_resultAscription :
    Outcome.Abreast r (SameUnder (Option.map TypeExpression.unplaced)) c.resultAscription
      c'.resultAscription :=
  Rules.abreast_resultAscription (Rules.abreast_all c c') abreast _ _

theorem abreast_type :
    Outcome.Abreast r (SameUnder TypeExpression.unplaced) c.type c'.type :=
  Rules.abreast_fullType (Rules.abreast_all c c') abreast _ _

theorem abreast_assignment :
    Outcome.Abreast r (SameUnder Expression.unplaced) c.assignment c'.assignment :=
  Rules.abreast_assignmentFrom (Rules.abreast_all c c') abreast _ _

theorem abreast_expression :
    Outcome.Abreast r (SameUnder Expression.unplaced) c.expression c'.expression :=
  Rules.abreast_expressionWhole (Rules.abreast_all c c') abreast _ _

theorem abreast_ascription :
    Outcome.Abreast r (SameUnder (Option.map TypeExpression.unplaced)) c.ascription
      c'.ascription := by
  unfold ascription
  refine abreast.mark_cases (.ok abreast rfl) (fun past past' rests => ?_) .colon (by decide)
  exact .lax (.map (.go (abreast_type rests)) fun related => congrArg some related)

theorem abreast_initial :
    Outcome.Abreast r (SameUnder (Option.map Expression.unplaced)) c.initial c'.initial := by
  unfold initial
  refine abreast.mark_cases (.ok abreast rfl) (fun past past' rests => ?_) .eq (by decide)
  exact .lax (.map (.go (abreast_assignment rests)) fun related => congrArg some related)

end Rules

end Cursor

/-! ## Functions that are skipped -/

section Functions

variable {r : Revision} {b : Cursor} (isBody : b.remaining = r.gap.length)

include isBody

theorem Rules.abreast_skipCallableTail_body {limit limit' : Cursor} {rules : Rules limit}
    {rules' : Rules limit'} (same : rules.Abreast r rules') {c c' : Cursor}
    (abreast : r.Abreast c c') {inside} (skips : rules.CallableSkips c inside b) (inside') :
    Outcome.Behind r Eq (rules.skipCallableTail c inside)
      (rules'.skipCallableTail c' inside') := by
  unfold skipCallableTail
  refine .of_bind isBody (abreast_skipAnglesIfAny abreast) skips
    (fun skips => skips.remaining_le fun _ _ _ skips => skips.remaining_le fun _ _ _ opens =>
      opens.remaining_le) fun _ _ rests₁ _ skips => ?_
  refine .of_andThen isBody (abreast_parameters same rests₁ _ _) skips
    (fun skips => skips.remaining_le fun _ _ _ opens => opens.remaining_le)
    fun _ _ rests₂ _ skips => ?_
  refine .of_bind isBody (abreast_resultAscription same rests₂ _ _) skips
    (fun opens => opens.remaining_le) fun _ _ rests₃ _ opens => ?_
  rw [rests₃.seesMark, opens.2, if_pos rfl, if_pos rfl]
  exact .lax (.map (abreast_skipGroup_body isBody rests₃ opens) fun _ => rfl)

namespace Cursor

variable {c c' : Cursor} (abreast : r.Abreast c c')

include abreast

theorem abreast_skipCallableTail_body (skips : c.CallableSkips b) :
    Outcome.Behind r Eq c.skipCallableTail c'.skipCallableTail :=
  Rules.abreast_skipCallableTail_body isBody (Rules.abreast_all c c') abreast skips _

theorem abreast_skipFunction_body (skips : c.FunctionSkips b) :
    Outcome.Behind r Eq c.skipFunction c'.skipFunction := by
  unfold skipFunction Rules.skipFunction
  refine .of_andThen isBody (abreast_expectKeyword abreast .function_) skips
    (fun skips => skips.remaining_le fun _ _ _ skips => skips.remaining_le fun _ _ _ skips =>
      skips.remaining_le) fun _ _ rests₁ _ skips => ?_
  refine .of_bind isBody (abreast_optionalMark rests₁ .star) skips
    (fun skips => skips.remaining_le fun _ _ _ skips => skips.remaining_le)
    fun _ _ rests₂ _ skips => ?_
  refine .of_bind isBody (abreast_optional rests₂ _) skips (fun skips => skips.remaining_le)
    fun _ _ rests₃ _ skips => .lax ?_
  exact Rules.abreast_skipCallableTail_body isBody (Rules.abreast_all c c') rests₃ skips _

end Cursor

end Functions

/-- The type of a primitive literal is the same, spans aside, if the literal is. -/
theorem Expression.literalType?_unplaced (value : Expression) :
    value.literalType?.map TypeExpression.unplaced =
      value.unplaced.literalType?.map TypeExpression.unplaced := by
  obtain ⟨form, span⟩ := value
  cases form <;> rfl

theorem Expression.literalType?_same {value value' : Option Expression}
    (same : SameUnder (Option.map unplaced) value value') :
    SameUnder (Option.map TypeExpression.unplaced) (value.bind literalType?)
      (value'.bind literalType?) := by
  have through (value : Option Expression) :
      (value.bind literalType?).map TypeExpression.unplaced =
        ((value.map unplaced).bind literalType?).map TypeExpression.unplaced := by
    cases value with
    | none => rfl
    | some value => exact value.literalType?_unplaced
  rw [SameUnder, through, through value', same]

namespace Cursor

variable {r : Revision}

/-! ## Heritage -/

theorem abreast_skipNameParts (qualified : Bool) {c c' : Cursor} (abreast : r.Abreast c c') :
    Outcome.Abreast r Eq (c.skipNameParts qualified) (c'.skipNameParts qualified) := by
  unfold skipNameParts
  refine abreast.mark_cases (.ok abreast rfl) (fun past past' rests => ?_) .dot (by decide)
  have := past.less
  exact .lax (.go ((abreast_propertyName rests).andThen fun _ _ behind _ =>
    abreast_skipNameParts true behind))
termination_by c.remaining

theorem abreast_heritageName {c c' : Cursor} (abreast : r.Abreast c c') :
    Outcome.Abreast r (SameUnder (Option.map NameUse.unplaced)) c.heritageName c'.heritageName := by
  unfold heritageName
  refine (abreast_expectName abreast).andThen fun _ _ rests₁ sameName => ?_
  refine (abreast_skipNameParts false rests₁).bind fun _ _ rests₂ qualified => ?_
  refine (abreast_skipAnglesIfAny rests₂).bind fun _ _ rests₃ _ => .ok rests₃ ?_
  rw [qualified]
  split
  · rfl
  · exact congrArg some sameName

theorem abreast_heritageNames {c c' : Cursor} (abreast : r.Abreast c c')
    {earlier earlier' : List NameUse}
    (before : SameUnder (List.map NameUse.unplaced) earlier earlier') :
    Outcome.Abreast r (SameUnder (List.map NameUse.unplaced)) (c.heritageNames earlier)
      (c'.heritageNames earlier') := by
  unfold heritageNames
  refine (abreast_heritageName abreast).andThen fun {name name' d d'} less _ rests sameName => ?_
  have before := sameName.toList.append before
  refine rests.mark_cases (.ok rests before.reverse) (fun past past' behind => ?_) .comma
    (by decide)
  have := past.less
  exact .lax (.go (abreast_heritageNames behind before))
termination_by c.remaining

section Clauses

variable {c c' : Cursor} (abreast : r.Abreast c c')

include abreast

theorem abreast_heritageClause (word : Keyword) :
    Outcome.Abreast r (SameUnder (List.map NameUse.unplaced)) (c.heritageClause word)
      (c'.heritageClause word) := by
  unfold heritageClause
  refine abreast.keyword_cases (.ok abreast rfl) (fun past past' rests => ?_) word
  exact .lax (.go (abreast_heritageNames rests rfl))

theorem abreast_baseClause :
    Outcome.Abreast r (SameUnder (Option.map NameUse.unplaced)) c.baseClause c'.baseClause := by
  unfold baseClause
  refine abreast.keyword_cases (.ok abreast rfl) (fun past past' rests => ?_) .extends_
  exact .lax (.go (abreast_heritageName rests))

theorem abreast_classHead {decorators decorators' : List Decorator}
    (sameDecorators : SameUnder (List.map Decorator.unplaced) decorators decorators')
    (isAbstract : Bool) :
    Outcome.Abreast r (SameUnder ClassDeclaration.unplaced) (c.classHead decorators isAbstract)
      (c'.classHead decorators' isAbstract) := by
  unfold classHead
  refine (abreast_expectKeyword abreast .class_).andThen fun _ _ rests₁ _ => ?_
  refine (abreast_expectName rests₁).andThen fun _ _ rests₂ sameName => ?_
  refine (abreast_skipAnglesIfAny rests₂).bind fun _ _ rests₃ _ => ?_
  refine (abreast_baseClause rests₃).bind fun _ _ rests₄ sameBase => ?_
  refine (abreast_heritageClause rests₄ .implements_).bind fun _ _ rests₅ sameImplemented =>
    .ok rests₅ ?_
  simp only [SameUnder, ClassDeclaration.unplaced, NameUse.name_eq sameName, sameDecorators,
    sameBase, sameImplemented]

/-! ## Members -/

theorem seesAccessorWord_eq (word : String) :
    c'.seesAccessorWord word = c.seesAccessorWord word := by
  rw [seesAccessorWord, seesAccessorWord, abreast.seesName]
  by_cases brace : c.kind? = some (.mark .lbrace)
  · simp [seesName, brace]
  · rw [abreast.namesProperty brace, abreast.peek?_one brace]

theorem abreast_skipBody : Outcome.Abreast r Eq c.skipBody c'.skipBody := by
  unfold skipBody
  rw [abreast.seesMark]
  refine .ite (fun _ => ?_) fun _ => abreast_optionalSemicolon abreast
  exact .lax (.map (abreast_skipGroup abreast) fun _ => rfl)

theorem abreast_skipComputedClassMember :
    Outcome.Abreast r Eq c.skipComputedClassMember c'.skipComputedClassMember := by
  unfold skipComputedClassMember
  refine (abreast_skipGroup abreast).andThen fun _ _ rests₁ _ => ?_
  refine (abreast_optionalMark rests₁ .question).bind fun _ _ rests₂ _ => ?_
  refine (abreast_ascription rests₂).bind fun _ _ rests₃ _ => ?_
  refine (abreast_initial rests₃).bind fun _ _ rests₄ _ => ?_
  rw [Rules.abreast_startsSignature rests₄]
  exact .ite (fun _ => .lax (abreast_skipCallableTail rests₄)) fun _ =>
    abreast_optionalSemicolon rests₄

theorem abreast_constructorAfter (start start' : Span) :
    Outcome.Abreast r (SameUnder ClassMember.unplaced) (c.constructorAfter start)
      (c'.constructorAfter start') := by
  unfold constructorAfter
  refine (abreast_parameters abreast).andThen fun _ _ rests₁ sameParameters => ?_
  refine (abreast_skipBody rests₁).bind fun _ _ rests₂ _ => .ok rests₂ ?_
  simp only [SameUnder, ClassMember.unplaced, Constructor.unplaced, sameParameters]

theorem abreast_methodAfter (start start' : Span) (modifiers : Modifiers) (isGetter : Bool)
    (name : String) (optional : Bool) :
    Outcome.Abreast r (SameUnder ClassMember.unplaced)
      (c.methodAfter start modifiers isGetter name optional)
      (c'.methodAfter start' modifiers isGetter name optional) := by
  unfold methodAfter
  refine (abreast_skipAnglesIfAny abreast).bind fun _ _ rests₁ _ => ?_
  refine (abreast_parameters rests₁).andThen fun _ _ rests₂ sameParameters => ?_
  refine (abreast_resultAscription rests₂).bind fun _ _ rests₃ sameResult => ?_
  refine (abreast_skipBody rests₃).bind fun _ _ rests₄ _ => .ok rests₄ ?_
  cases isGetter <;>
    simp [SameUnder, ClassMember.unplaced, PropertyMember.unplaced, MethodMember.unplaced,
      sameParameters, sameResult]

theorem abreast_propertyAfter (start start' : Span) (modifiers : Modifiers) (name : String)
    (optional : Bool) :
    Outcome.Abreast r (SameUnder ClassMember.unplaced)
      (c.propertyAfter start modifiers name optional)
      (c'.propertyAfter start' modifiers name optional) := by
  unfold propertyAfter
  refine (abreast_ascription abreast).bind fun {type type' _ _} _ _ rests₁ sameType => ?_
  refine (abreast_initial rests₁).bind fun {value value' _ _} _ _ rests₂ sameValue => ?_
  refine (abreast_optionalSemicolon rests₂).bind fun _ _ rests₃ _ => .ok rests₃ ?_
  have sameAll : (type <|> value.bind Expression.literalType?).map TypeExpression.unplaced =
      (type' <|> value'.bind Expression.literalType?).map TypeExpression.unplaced := by
    cases type with
    | some type =>
        cases type' with
        | none => cases sameType
        | some type' => exact sameType
    | none =>
        cases type' with
        | some type' => cases sameType
        | none => exact Expression.literalType?_same sameValue
  simp only [SameUnder, ClassMember.unplaced, PropertyMember.unplaced, sameAll]

theorem abreast_namedMember (start start' : Span) (modifiers : Modifiers) (isGetter : Bool) :
    Outcome.Abreast r (SameUnder ClassMember.unplaced) (c.namedMember start modifiers isGetter)
      (c'.namedMember start' modifiers isGetter) := by
  unfold namedMember
  refine (abreast_optionalMark abreast .star).bind fun _ _ rests₁ _ => ?_
  refine (abreast_propertyName rests₁).andThen fun _ _ rests₂ sameName => ?_
  refine (abreast_optionalMark rests₂ .question).bind fun _ _ rests₃ sameOptional => ?_
  refine (abreast_optionalMark rests₃ .bang).bind fun _ _ rests₄ _ => ?_
  dsimp only
  rw [rests₄.seesMark, Rules.abreast_startsSignature rests₄, sameName.1, sameOptional]
  refine .ite (fun _ => .lax (abreast_constructorAfter rests₄ _ _)) fun _ => ?_
  refine .ite (fun _ => .lax (abreast_methodAfter rests₄ _ _ _ _ _ _)) fun _ => ?_
  exact abreast_propertyAfter rests₄ _ _ _ _ _

theorem abreast_memberAfter (start start' : Span) (modifiers : Modifiers) :
    Outcome.Abreast r (SameUnder (Option.map ClassMember.unplaced)) (c.memberAfter start modifiers)
      (c'.memberAfter start' modifiers) := by
  have plain : Outcome.Abreast r (SameUnder (Option.map ClassMember.unplaced))
      ((c.namedMember start modifiers false).map some)
      ((c'.namedMember start' modifiers false).map some) :=
    .map (abreast_namedMember abreast _ _ _ _) fun related => congrArg some related
  unfold memberAfter
  rw [abreast.seesMark, abreast.seesMark]
  refine .ite (fun _ => .map (abreast_skipGroup abreast) fun _ => rfl) fun _ => ?_
  refine .ite (fun _ => .map (abreast_skipComputedClassMember abreast) fun _ => rfl) fun _ => ?_
  refine abreast.next_cases plain fun past past' step => ?_
  dsimp only
  rw [seesAccessorWord_eq abreast, seesAccessorWord_eq abreast]
  refine .ite (fun _ => ?_) fun _ => .ite (fun _ => ?_) fun _ => plain
  · exact .step step fun rests => .map (abreast_namedMember rests _ _ _ _) fun related =>
      congrArg some related
  · refine .step step fun rests => (abreast_propertyName rests).andThen fun _ _ behind _ => ?_
    exact .map (abreast_skipCallableTail behind) fun _ => rfl

theorem abreast_classMember :
    Outcome.Abreast r (SameUnder (Option.map ClassMember.unplaced)) c.classMember
      c'.classMember := by
  unfold classMember
  refine abreast.mark_cases ?_ (fun past past' rests => .go (.ok rests rfl)) .semicolon (by decide)
  refine (abreast_decorators abreast).bind fun _ _ rests₁ _ => ?_
  refine (abreast_modifiers rests₁ .none).bind fun _ _ rests₂ sameModifiers => ?_
  rw [sameModifiers]
  exact abreast_memberAfter rests₂ _ _ _

end Clauses

/-! ## Members that skip the body -/

section Bodies

variable {b c c' : Cursor} (isBody : b.remaining = r.gap.length) (abreast : r.Abreast c c')

include isBody abreast

theorem abreast_skipBody_body (opens : c.OpensBody b) :
    Outcome.Behind r Eq c.skipBody c'.skipBody := by
  unfold skipBody
  rw [abreast.seesMark, opens.2, if_pos rfl, if_pos rfl]
  exact .lax (.map (abreast_skipGroup_body isBody abreast opens) fun _ => rfl)

theorem abreast_constructorAfter_body (skips : c.ConstructorSkips b) (start start' : Span) :
    Outcome.Behind r (SameUnder ClassMember.unplaced) (c.constructorAfter start)
      (c'.constructorAfter start') := by
  unfold constructorAfter
  refine .of_andThen isBody (abreast_parameters abreast) skips (fun opens => opens.remaining_le)
    fun _ _ rests₁ sameParameters opens => ?_
  refine (abreast_skipBody_body isBody rests₁ opens).bind fun _ _ rests₂ _ => .ok rests₂ ?_
  simp only [SameUnder, ClassMember.unplaced, Constructor.unplaced, sameParameters]

theorem abreast_methodAfter_body (skips : c.MethodSkips b) (start start' : Span)
    (modifiers : Modifiers) (isGetter : Bool) (name : String) (optional : Bool) :
    Outcome.Behind r (SameUnder ClassMember.unplaced)
      (c.methodAfter start modifiers isGetter name optional)
      (c'.methodAfter start' modifiers isGetter name optional) := by
  unfold methodAfter
  refine .of_bind isBody (abreast_skipAnglesIfAny abreast) skips
    (fun skips => skips.remaining_le fun _ _ _ skips => skips.remaining_le fun _ _ _ opens =>
      opens.remaining_le) fun _ _ rests₁ _ skips => ?_
  refine .of_andThen isBody (abreast_parameters rests₁) skips
    (fun skips => skips.remaining_le fun _ _ _ opens => opens.remaining_le)
    fun _ _ rests₂ sameParameters skips => ?_
  refine .of_bind isBody (abreast_resultAscription rests₂) skips
    (fun opens => opens.remaining_le) fun _ _ rests₃ sameResult opens => ?_
  refine (abreast_skipBody_body isBody rests₃ opens).bind fun _ _ rests₄ _ => .ok rests₄ ?_
  cases isGetter <;> simp [SameUnder, ClassMember.unplaced, PropertyMember.unplaced,
    MethodMember.unplaced, sameParameters, sameResult]

theorem abreast_namedMember_body (skips : c.NamedMemberSkips b) (start start' : Span)
    (modifiers : Modifiers) (isGetter : Bool) :
    Outcome.Behind r (SameUnder ClassMember.unplaced)
      (c.namedMember start modifiers isGetter) (c'.namedMember start' modifiers isGetter) := by
  have further {property : PropertyName} {d : Cursor}
      (skips : if property.name.getD "" = "constructor" ∧ d.seesMark .lparen then
        d.ConstructorSkips b else Rules.startsSignature d ∧ d.MethodSkips b) :
      b.remaining ≤ d.remaining := by
    split at skips
    · exact skips.remaining_le
    · exact skips.2.remaining_le
  unfold namedMember
  refine .of_bind isBody (abreast_optionalMark abreast .star) skips
    (fun skips => skips.remaining_le fun _ _ _ skips => skips.remaining_le fun _ _ _ skips =>
      skips.remaining_le fun _ _ _ => further) fun _ _ rests₁ _ skips => ?_
  refine .of_andThen isBody (abreast_propertyName rests₁) skips
    (fun skips => skips.remaining_le fun _ _ _ skips => skips.remaining_le fun _ _ _ => further)
    fun _ _ rests₂ sameName skips => ?_
  refine .of_bind isBody (abreast_optionalMark rests₂ .question) skips
    (fun skips => skips.remaining_le fun _ _ _ => further) fun _ _ rests₃ sameOptional skips => ?_
  refine .of_bind isBody (abreast_optionalMark rests₃ .bang) skips further
    fun _ _ rests₄ _ skips => ?_
  dsimp only
  rw [rests₄.seesMark, Rules.abreast_startsSignature rests₄, ← sameName.1, sameOptional]
  split at skips
  · next isConstructor =>
      rw [if_pos isConstructor, if_pos isConstructor]
      exact .lax (abreast_constructorAfter_body isBody rests₄ skips _ _)
  · next noConstructor =>
      rw [if_neg noConstructor, if_neg noConstructor, if_pos skips.1, if_pos skips.1]
      exact .lax (abreast_methodAfter_body isBody rests₄ skips.2 _ _ _ _ _ _)

theorem abreast_skipComputedClassMember_body (skips : c.ComputedMemberSkips b) :
    Outcome.Behind r Eq c.skipComputedClassMember c'.skipComputedClassMember := by
  unfold skipComputedClassMember
  refine .of_andThen isBody (abreast_skipGroup abreast) skips
    (fun skips => skips.remaining_le fun _ _ _ skips => skips.remaining_le fun _ _ _ skips =>
      skips.remaining_le fun _ _ _ skips => skips.2.remaining_le) fun _ _ rests₁ _ skips => ?_
  refine .of_bind isBody (abreast_optionalMark rests₁ .question) skips
    (fun skips => skips.remaining_le fun _ _ _ skips => skips.remaining_le fun _ _ _ skips =>
      skips.2.remaining_le) fun _ _ rests₂ _ skips => ?_
  refine .of_bind isBody (abreast_ascription rests₂) skips
    (fun skips => skips.remaining_le fun _ _ _ skips => skips.2.remaining_le)
    fun _ _ rests₃ _ skips => ?_
  refine .of_bind isBody (abreast_initial rests₃) skips (fun skips => skips.2.remaining_le)
    fun _ _ rests₄ _ skips => ?_
  rw [Rules.abreast_startsSignature rests₄, if_pos skips.1, if_pos skips.1]
  exact .lax (abreast_skipCallableTail_body isBody rests₄ skips.2)

theorem abreast_memberAfter_body (start start' : Span) (modifiers : Modifiers)
    (skips : c.ModifiedMemberSkips modifiers b) :
    Outcome.Behind r (SameUnder (Option.map ClassMember.unplaced))
      (c.memberAfter start modifiers) (c'.memberAfter start' modifiers) := by
  obtain ⟨noBlock, skips⟩ := skips
  unfold memberAfter
  rw [abreast.seesMark, abreast.seesMark, if_neg noBlock, if_neg noBlock]
  split at skips
  · next computed =>
      rw [if_pos computed, if_pos computed]
      exact .map (abreast_skipComputedClassMember_body isBody abreast skips) fun _ => rfl
  next named =>
  rw [if_neg named, if_neg named]
  obtain ⟨past, isNext, skips⟩ := skips
  obtain ⟨past', step⟩ := abreast.exists_step isNext
  rw [step.isNext, step.isNext']
  dsimp only
  rw [seesAccessorWord_eq abreast, seesAccessorWord_eq abreast]
  -- the word of an accessor is no brace
  have behind {word : String} (isWord : c.seesAccessorWord word = true) :
      r.Abreast past.rest past'.rest :=
    step.abreast fun brace => by simp [seesAccessorWord, seesName, step.kind?, brace] at isWord
  split at skips
  · next isGetter =>
      rw [if_pos isGetter, if_pos isGetter]
      exact .go (.map (abreast_namedMember_body isBody (behind isGetter) skips _ _ _ _)
        fun related => congrArg some related)
  next noGetter =>
  rw [if_neg noGetter, if_neg noGetter]
  split at skips
  · next isSetter =>
      rw [if_pos isSetter, if_pos isSetter]
      refine .go (.of_andThen isBody (abreast_propertyName (behind isSetter)) skips
        (fun skips => skips.remaining_le) fun _ _ rests _ skips => ?_)
      exact .map (abreast_skipCallableTail_body isBody rests skips) fun _ => rfl
  · next noSetter =>
      rw [if_neg noSetter, if_neg noSetter]
      exact .map (abreast_namedMember_body isBody abreast skips _ _ _ _) fun related =>
        congrArg some related

theorem abreast_classMember_body (skips : c.ClassMemberSkips b) :
    Outcome.Behind r (SameUnder (Option.map ClassMember.unplaced)) c.classMember
      c'.classMember := by
  obtain ⟨noSemicolon, skips⟩ := skips
  obtain ⟨-, noSemicolon'⟩ | ⟨past, -, semicolon, -, -⟩ := abreast.mark_or .semicolon (by decide)
  case inr => cases noSemicolon.symm.trans semicolon
  unfold classMember
  rw [noSemicolon, noSemicolon']
  refine .of_bind isBody (abreast_decorators abreast) skips
    (fun skips => skips.remaining_le fun _ _ _ skips => skips.remaining_le)
    fun _ _ rests₁ _ skips => ?_
  refine .of_bind isBody (abreast_modifiers rests₁ .none) skips
    (fun skips => skips.remaining_le) fun _ _ rests₂ sameModifiers skips => ?_
  rw [← sameModifiers]
  exact abreast_memberAfter_body isBody rests₂ _ _ _ skips

end Bodies

/-! ## Recovery -/

/-- Where a member may start is found alike, or past the brace. -/
theorem abreast_skipToMember {c c' : Cursor} (abreast : r.Abreast c c') :
    r.Entered (skipToMember c).val ∨ r.Abreast (skipToMember c).val (skipToMember c').val := by
  unfold skipToMember
  refine abreast.next_cases (.inr abreast) fun past past' step => ?_
  dsimp only
  rw [step.kind]
  have := past.less
  have atMost (bracket : Bracket) :=
    (restOfGroup bracket past.token.span past.rest).reaches.remaining_le
  -- a group is passed as a whole
  have group (bracket : Bracket) :
      r.Entered (restOfGroup bracket past.token.span past.rest).rest ∨
        r.Abreast (restOfGroup bracket past.token.span past.rest).rest
          (restOfGroup bracket past'.token.span past'.rest).rest := by
    obtain rests | ⟨-, entered⟩ := step.rests
    · exact (abreast_restOfGroup rests _ _ _).imp_right And.left
    · exact .inl (entered.mono (Outcome.reaches _))
  split
  · exact .inr abreast
  · next kind => exact .inr (step.abreast (by simp [kind]))
  · exact group .brace
  · split
    · next bracket _ =>
        obtain entered | rests := group bracket
        · exact .inl (entered.mono (skipToMember _).property)
        · have := atMost bracket
          exact abreast_skipToMember rests
    · obtain rests | ⟨-, entered⟩ := step.rests
      · exact abreast_skipToMember rests
      · exact .inl (entered.mono (skipToMember _).property)
termination_by c.remaining

/-- A member that stops where it starts is passed by a token before recovery. -/
theorem recoverMember_of_eq {start c : Cursor} (past : start.Past) (reaches : start.Reaches c)
    (same : c.remaining = start.remaining) :
    (recoverMember past c reaches).val = (skipToMember past.rest).val := by
  rw [recoverMember, dif_pos same]

theorem recoverMember_of_ne {start c : Cursor} (past : start.Past) (reaches : start.Reaches c)
    (further : c.remaining ≠ start.remaining) :
    (recoverMember past c reaches).val = (skipToMember c).val := by
  rw [recoverMember, dif_neg further]

theorem abreast_recoverMember {start start' c c' : Cursor} {past : start.Past}
    {past' : start'.Past} (starts : r.Abreast start start') (step : r.Step past past')
    (abreast : r.Abreast c c') (reaches : start.Reaches c) (reaches' : start'.Reaches c') :
    r.Entered (recoverMember past c reaches).val ∨
      r.Abreast (recoverMember past c reaches).val (recoverMember past' c' reaches').val := by
  by_cases same : c.remaining = start.remaining
  · rw [recoverMember_of_eq past reaches same,
      recoverMember_of_eq past' reaches' ((abreast.remaining_eq_iff starts).2 same)]
    obtain rests | ⟨-, entered⟩ := step.rests
    · exact abreast_skipToMember rests
    · exact .inl (entered.mono (skipToMember _).property)
  · rw [recoverMember_of_ne past reaches same, recoverMember_of_ne past' reaches' fun same' =>
      same ((abreast.remaining_eq_iff starts).1 same')]
    exact abreast_skipToMember abreast

/-- A member that stopped past the brace is recovered from behind it. -/
theorem entered_recoverMember {start c : Cursor} (past : start.Past)
    (starts : r.gap.length ≤ start.remaining) (entered : r.Entered c)
    (reaches : start.Reaches c) : r.Entered (recoverMember past c reaches).val := by
  have further : c.remaining ≠ start.remaining :=
    Nat.ne_of_lt (Nat.lt_of_lt_of_le entered starts)
  rw [recoverMember_of_ne past reaches further]
  exact entered.mono (skipToMember c).property

/-! ## Classes -/

/-- A class goes on at cursors that are abreast, with what the member adds and its error, spans
aside, or it is past the brace. -/
theorem abreast_memberEnd {c c' : Cursor} {past : c.Past} {past' : c'.Past}
    (abreast : r.Abreast c c') (step : r.Step past past') :
    r.Entered past.memberEnd.val ∨ r.Abreast past.memberEnd.val past'.memberEnd.val ∧
      SameUnder (List.map ClassMember.unplaced) c.memberAdded c'.memberAdded ∧
      List.Forall₂ r.SameError c.memberError c'.memberError := by
  have same := abreast_classMember abreast
  unfold Past.memberEnd memberAdded memberError
  generalize c.classMember = member, c'.classMember = member' at same
  obtain ⟨⟨result, d⟩, reaches, moved⟩ := member
  obtain ⟨⟨result', d'⟩, reaches', moved'⟩ := member'
  obtain entered | ⟨rests, results⟩ := same
  · refine .inl ?_
    cases result with
    | ok => exact entered
    | error => exact entered_recoverMember past abreast.le_remaining entered reaches
  · cases results with
    | ok related =>
        exact .inr ⟨rests, SameUnder.toList related, .nil⟩
    | error same =>
        refine (abreast_recoverMember abreast step rests reaches reaches').imp_right fun ends => ?_
        exact ⟨ends, rfl, .cons same .nil⟩

/-- Behind a member that skips the body the class goes on at cursors that are abreast. -/
theorem abreast_memberEnd_body {b c c' : Cursor} (isBody : b.remaining = r.gap.length)
    (abreast : r.Abreast c c') (skips : c.ClassMemberSkips b) (past : c.Past) (past' : c'.Past) :
    r.Behind past.memberEnd.val past'.memberEnd.val ∧
      SameUnder (List.map ClassMember.unplaced) c.memberAdded c'.memberAdded ∧
      List.Forall₂ r.SameError c.memberError c'.memberError := by
  have same := abreast_classMember_body isBody abreast skips
  unfold Past.memberEnd memberAdded memberError
  generalize c.classMember = member, c'.classMember = member' at same
  obtain ⟨⟨result, d⟩, reaches, moved⟩ := member
  obtain ⟨⟨result', d'⟩, reaches', moved'⟩ := member'
  obtain ⟨entered, entered', both⟩ := same
  obtain ⟨rests, results⟩ := both.resolve_left Revision.not_entered_after
  cases results with
  | ok related =>
      exact ⟨⟨entered, entered', rests⟩, SameUnder.toList related, .nil⟩
  | error sameError =>
      refine ⟨?_, rfl, .cons sameError.of_after .nil⟩
      -- the member did not stop where it starts, but behind the body
      dsimp only
      rw [recoverMember_of_ne past reaches
          (Nat.ne_of_lt (Nat.lt_of_lt_of_le entered abreast.le_remaining)),
        recoverMember_of_ne past' reaches'
          (Nat.ne_of_lt (Nat.lt_of_lt_of_le entered' abreast.le_remaining'))]
      exact ⟨Nat.lt_of_le_of_lt (skipToMember d).property.remaining_le entered,
        Nat.lt_of_le_of_lt (skipToMember d').property.remaining_le entered',
        (abreast_skipToMember rests).resolve_left Revision.not_entered_after⟩

end Cursor

namespace Outcome

/-- Two rules do the same, and record errors that are related, unless the first one passes the
brace. -/
structure RecordAbreast {α : Type} {moves moves' : Bool} {c c' : Cursor} (r : Revision)
    (sameError : ParseError → ParseError → Prop) (agree : α → α → Prop)
    (outcome : Outcome moves c α) (outcome' : Outcome moves' c' α) : Prop where
  runs : Abreast r agree outcome outcome'
  errors : ¬r.Entered outcome.rest → List.Forall₂ sameError outcome.errors outcome'.errors

/-- Two rules pass the body, and record the same errors. -/
structure RecordBehind {α : Type} {moves moves' : Bool} {c c' : Cursor} (r : Revision)
    (agree : α → α → Prop) (outcome : Outcome moves c α) (outcome' : Outcome moves' c' α) :
    Prop where
  runs : Behind r agree outcome outcome'
  errors : List.Forall₂ r.SameError outcome.errors outcome'.errors

variable {α β : Type} {moves : Bool} {r : Revision} {b c c' : Cursor} {agree : α → α → Prop}
  {agree' : β → β → Prop} {sameError : ParseError → ParseError → Prop}

/-- A rule that records nothing, and then one that does. -/
theorem RecordAbreast.andThen {outcome : Outcome true c α} {outcome' : Outcome true c' α}
    {next : (value : α) → (d : Cursor) → d.remaining < c.remaining → Outcome moves d β}
    {next' : (value : α) → (d : Cursor) → d.remaining < c'.remaining → Outcome moves d β}
    (first : Abreast r agree outcome outcome') (silent : outcome.Silent) (silent' : outcome'.Silent)
    (second : ∀ {value value' d d'} less less', r.Abreast d d' → agree value value' →
      RecordAbreast r sameError agree' (next value d less) (next' value' d' less')) :
    RecordAbreast r sameError agree' (outcome.andThen next) (outcome'.andThen next') := by
  have passed : r.Entered outcome.rest → r.Entered (outcome.andThen next).rest :=
    fun entered => entered.mono (outcome.reaches_andThen next)
  obtain ⟨⟨result, d⟩, reaches, moved, errors⟩ := outcome
  obtain ⟨⟨result', d'⟩, reaches', moved', errors'⟩ := outcome'
  cases (silent : errors = [])
  cases (silent' : errors' = [])
  obtain entered | ⟨rests, results⟩ := first
  · exact ⟨.inl (passed entered), fun front => absurd (passed entered) front⟩
  · cases results with
    | ok related =>
        obtain ⟨both, sameErrors⟩ :=
          second (less_of_moved moved) (less_of_moved moved') rests related
        exact ⟨both, sameErrors⟩
    | error same => exact ⟨.inr ⟨rests, .error same⟩, fun _ => .nil⟩

theorem RecordAbreast.mapAt {change change' : α → Cursor → β} {outcome : Outcome moves c α}
    {outcome' : Outcome moves c' α} (abreast : RecordAbreast r sameError agree outcome outcome')
    (changed : ∀ {value value' d d'}, agree value value' →
      agree' (change value d) (change' value' d')) :
    RecordAbreast r sameError agree' (outcome.mapAt change) (outcome'.mapAt change') where
  runs := abreast.runs.mapAt changed
  errors front := by
    rw [rest_mapAt] at front
    rw [errors_mapAt, errors_mapAt]
    exact abreast.errors front

theorem RecordBehind.of_andThen (isBody : b.remaining = r.gap.length) {outcome : Outcome true c α}
    {outcome' : Outcome true c' α}
    {next : (value : α) → (d : Cursor) → d.remaining < c.remaining → Outcome moves d β}
    {next' : (value : α) → (d : Cursor) → d.remaining < c'.remaining → Outcome moves d β}
    {holds : (value : α) → (d : Cursor) → d.remaining ≤ c.remaining → Prop}
    (first : Abreast r agree outcome outcome') (silent : outcome.Silent) (silent' : outcome'.Silent)
    (skips : outcome.Then holds)
    (further : ∀ {value d atMost}, holds value d atMost → b.remaining ≤ d.remaining)
    (second : ∀ {value value' d d'} less less', r.Abreast d d' → agree value value' →
      holds value d (Nat.le_of_lt less) →
        RecordBehind r agree' (next value d less) (next' value' d' less')) :
    RecordBehind r agree' (outcome.andThen next) (outcome'.andThen next') := by
  obtain ⟨⟨result, d⟩, reaches, moved, errors⟩ := outcome
  obtain ⟨⟨result', d'⟩, reaches', moved', errors'⟩ := outcome'
  cases (silent : errors = [])
  cases (silent' : errors' = [])
  obtain ⟨value, succeeded, held⟩ := skips
  cases (succeeded : result = .ok value)
  obtain entered | ⟨rests, results⟩ := first
  · exact absurd (further held) (Nat.not_le_of_lt (isBody ▸ entered))
  · cases results with
    | ok related =>
        obtain ⟨⟨entered, entered', both⟩, sameErrors⟩ :=
          second (less_of_moved moved) (less_of_moved moved') rests related held
        exact ⟨⟨entered, entered', both⟩, sameErrors⟩

theorem RecordBehind.mapAt {change change' : α → Cursor → β} {outcome : Outcome moves c α}
    {outcome' : Outcome moves c' α} (behind : RecordBehind r agree outcome outcome')
    (changed : ∀ {value value' d d'}, agree value value' →
      agree' (change value d) (change' value' d')) :
    RecordBehind r agree' (outcome.mapAt change) (outcome'.mapAt change') where
  runs := behind.runs.mapAt changed
  errors := by
    rw [errors_mapAt, errors_mapAt]
    exact behind.errors

variable {moves' : Bool} {d d' : Cursor}

/-- A rule that stops where one does that passes the brace passes it, too. -/
theorem entered_of_stopped {outcome : Outcome moves c α} {other : Outcome moves' d α}
    (same : outcome.stopped = other.stopped) :
    r.Entered outcome.rest ↔ r.Entered other.rest := by
  rw [show outcome.rest = other.rest from congrArg Stopped.rest same]

theorem Behind.congr {outcome : Outcome moves c α} {outcome' : Outcome moves c' α}
    {first : Outcome moves' d α} {first' : Outcome moves' d' α}
    (behind : Behind r agree outcome outcome') (same : first.stopped = outcome.stopped)
    (same' : first'.stopped = outcome'.stopped) : Behind r agree first first' := by
  obtain ⟨_, _⟩ := outcome
  obtain ⟨_, _⟩ := outcome'
  obtain ⟨_, _⟩ := first
  obtain ⟨_, _⟩ := first'
  cases same
  cases same'
  exact ⟨behind.entered, behind.entered', behind.abreast⟩

end Outcome

namespace Cursor

/-- The members of a class, by induction on the tokens ahead: one member, and those behind it. -/
theorem abreast_membersAfter {r : Revision} {sameError : ParseError → ParseError → Prop}
    (weaken : ∀ error error', r.SameError error error' → sameError error error')
    {c c' : Cursor} (abreast : r.Abreast c c') (opening opening' : Opening)
    (marks : opening.mark = opening'.mark) {earlier earlier' : List ClassMember}
    (before : SameUnder (List.map ClassMember.unplaced) earlier earlier') :
    Outcome.RecordAbreast r sameError (SameUnder (List.map ClassMember.unplaced))
      (membersAfter opening earlier c) (membersAfter opening' earlier' c') := by
  obtain ⟨opened, opened'⟩ | ⟨past, past', closed, closed', rests⟩ :=
    abreast.mark_or .rbrace (by decide)
  case inr =>
    rw [membersAfter.eq_def opening, membersAfter.eq_def opening', closed, closed']
    exact ⟨.go (.ok rests before.reverse), fun _ => .nil⟩
  obtain ⟨none, none'⟩ | ⟨past, past', step⟩ := abreast.next_or
  · rw [membersAfter.eq_def opening, membersAfter.eq_def opening', opened, opened', none, none']
    exact ⟨.fail abreast (abreast.unclosed marks _), fun _ => .nil⟩
  obtain ⟨recorded, stopped⟩ := membersAfter_next opened step.isNext opening earlier
  obtain ⟨recorded', stopped'⟩ := membersAfter_next opened' step.isNext' opening' earlier'
  obtain entered | ⟨ends, added, error⟩ := abreast_memberEnd abreast step
  · have passed := (entered_of_stopped stopped).2 (entered.mono (Outcome.reaches _))
    exact ⟨.inl passed, fun front => absurd passed front⟩
  · have before := added.append before
    have := past.memberEnd.property.2
    have further := abreast_membersAfter weaken ends opening opening' marks before
    refine ⟨further.runs.congr stopped stopped', fun front => ?_⟩
    rw [recorded, recorded']
    have others := further.errors fun passed => front ((entered_of_stopped stopped).2 passed)
    exact List.rel_append (error.imp weaken) others
termination_by c.remaining

variable {r : Revision} {b : Cursor} (isBody : b.remaining = r.gap.length)

include isBody

/-- The members of a class of which one skips the body: those in front of it, by induction on
their number, the member itself, and those behind it. -/
theorem abreast_membersAfter_body {c c' : Cursor} (skips : MembersSkip b c)
    (abreast : r.Abreast c c') (opening opening' : Opening) (marks : opening.mark = opening'.mark)
    {earlier earlier' : List ClassMember}
    (before : SameUnder (List.map ClassMember.unplaced) earlier earlier') :
    Outcome.RecordBehind r (SameUnder (List.map ClassMember.unplaced))
      (membersAfter opening earlier c) (membersAfter opening' earlier' c') := by
  induction skips generalizing c' earlier earlier' with
  | @here c past isNext opened skips =>
      obtain ⟨past', step⟩ := abreast.exists_step isNext
      obtain ⟨-, opened'⟩ | ⟨_, _, closed, -, -⟩ := abreast.mark_or .rbrace (by decide)
      case inr => cases opened.symm.trans closed
      obtain ⟨recorded, stopped⟩ := membersAfter_next opened isNext opening earlier
      obtain ⟨recorded', stopped'⟩ := membersAfter_next opened' step.isNext' opening' earlier'
      obtain ⟨ends, added, error⟩ := abreast_memberEnd_body isBody abreast skips past past'
      have before := added.append before
      have further := abreast_membersAfter (fun _ _ => Revision.SameError.of_after) ends.abreast
        opening opening' marks before
      have behind : Outcome.Behind r (SameUnder (List.map ClassMember.unplaced)) _ _ :=
        ⟨Nat.lt_of_le_of_lt (Outcome.reaches _).remaining_le ends.entered,
          Nat.lt_of_le_of_lt (Outcome.reaches _).remaining_le ends.entered', further.runs⟩
      refine ⟨behind.congr stopped stopped', ?_⟩
      rw [recorded, recorded']
      exact List.rel_append error (further.errors Revision.not_entered_after)
  | @later c past isNext opened skips ih =>
      obtain ⟨past', step⟩ := abreast.exists_step isNext
      obtain ⟨-, opened'⟩ | ⟨_, _, closed, -, -⟩ := abreast.mark_or .rbrace (by decide)
      case inr => cases opened.symm.trans closed
      obtain ⟨recorded, stopped⟩ := membersAfter_next opened isNext opening earlier
      obtain ⟨recorded', stopped'⟩ := membersAfter_next opened' step.isNext' opening' earlier'
      have front : ¬r.Entered past.memberEnd.val :=
        Nat.not_lt_of_le (isBody ▸ skips.remaining_le)
      obtain ⟨ends, added, error⟩ := (abreast_memberEnd abreast step).resolve_left front
      have before := added.append before
      have further := ih ends before
      refine ⟨further.runs.congr stopped stopped', ?_⟩
      rw [recorded, recorded']
      exact List.rel_append error further.errors

end Cursor

/-! ## Declarations of classes -/

theorem ClassDeclaration.same_members {head head' : ClassDeclaration}
    (sameHead : SameUnder unplaced head head') {members members' : List ClassMember}
    (sameMembers : SameUnder (List.map ClassMember.unplaced) members members') :
    SameUnder unplaced { head with members } { head' with members := members' } := by
  simp only [SameUnder, unplaced, mk.injEq] at *
  exact ⟨sameHead.1, trivial, sameHead.2.2.1, sameHead.2.2.2.1, sameHead.2.2.2.2.1,
    sameHead.2.2.2.2.2.1, sameMembers⟩

namespace Cursor

variable {r : Revision} {c c' : Cursor} (abreast : r.Abreast c c')

include abreast

theorem abreast_classBody :
    Outcome.RecordAbreast r r.SameError (SameUnder (List.map ClassMember.unplaced)) c.classBody
      c'.classBody :=
  .andThen (abreast_expectMark abreast .lbrace) (silent_expect _) (silent_expect _)
    fun {opened opened' _ _} _ _ rests _ =>
      abreast_membersAfter (fun _ _ => id) rests ⟨.lbrace, opened.span⟩ ⟨.lbrace, opened'.span⟩ rfl
        (by rfl)

theorem abreast_classDeclaration {decorators decorators' : List Decorator}
    (sameDecorators : SameUnder (List.map Decorator.unplaced) decorators decorators')
    (isAbstract : Bool) :
    Outcome.RecordAbreast r r.SameError (SameUnder ClassDeclaration.unplaced)
      (c.classDeclaration decorators isAbstract) (c'.classDeclaration decorators' isAbstract) :=
  .andThen (abreast_classHead abreast sameDecorators isAbstract) (silent_classHead _ _)
    (silent_classHead _ _) fun _ _ rests sameHead =>
      (abreast_classBody rests).mapAt (ClassDeclaration.same_members sameHead)

variable {b : Cursor} (isBody : b.remaining = r.gap.length)

include isBody

theorem abreast_classBody_body
    (skips : (c.expectMark .lbrace).Then fun _ d _ => MembersSkip b d) :
    Outcome.RecordBehind r (SameUnder (List.map ClassMember.unplaced)) c.classBody c'.classBody :=
  .of_andThen isBody (abreast_expectMark abreast .lbrace) (silent_expect _) (silent_expect _) skips
    (fun skips => skips.remaining_le) fun {opened opened' _ _} _ _ rests _ skips =>
      abreast_membersAfter_body isBody skips rests ⟨.lbrace, opened.span⟩ ⟨.lbrace, opened'.span⟩
        rfl (by rfl)

theorem abreast_classDeclaration_body {decorators decorators' : List Decorator}
    (sameDecorators : SameUnder (List.map Decorator.unplaced) decorators decorators')
    {isAbstract : Bool} (skips : c.ClassSkips decorators isAbstract b) :
    Outcome.RecordBehind r (SameUnder ClassDeclaration.unplaced)
      (c.classDeclaration decorators isAbstract) (c'.classDeclaration decorators' isAbstract) :=
  .of_andThen isBody (abreast_classHead abreast sameDecorators isAbstract) (silent_classHead _ _)
    (silent_classHead _ _) skips
    (fun skips => skips.remaining_le fun _ _ _ skips => skips.remaining_le)
    fun _ _ rests sameHead skips =>
      (abreast_classBody_body rests isBody skips).mapAt (ClassDeclaration.same_members sameHead)

end Cursor

end InjectionCheck
