import InjectionCheck.Proofs.AbreastTypes
import InjectionCheck.Proofs.Progress

/-!
# Expressions beside each other

The rules for expressions do in a file what they do in its revision, as long as they stay in
front of the brace. Whether an arrow function starts is found by looking ahead, past the brace if
need be, and found alike. Type arguments are only tried: an attempt that passes the brace may do
something else in the revision. If it is kept, the rule passes the brace, too; and if it is given
up, it is given up in both files (`Revision.settled`), and both go on in front of it.
-/

set_option autoImplicit false

namespace InjectionCheck

open Cursor Outcome

/-! ## Attempts -/

/-- A rule that is tried and given up passes nothing. -/
theorem Outcome.stopped_tried {α β : Type} {moves : Bool} {c : Cursor}
    {outcome : Outcome moves c α}
    {next : (value : α) → (d : Cursor) → c.Reaches d → d.remaining ≤ c.remaining →
      Outcome false c β} {otherwise : Outcome false c β}
    (givenUp : ∀ value, outcome.result = .ok value → ∀ reaches atMost,
      (next value outcome.rest reaches atMost).stopped = otherwise.stopped) :
    (outcome.tried next otherwise).stopped = otherwise.stopped := by
  obtain ⟨⟨result, d⟩, reaches, moved⟩ := outcome
  cases result with
  | ok value => exact givenUp value rfl reaches reaches.remaining_le
  | error error => rfl

theorem Outcome.rest_tried {α β : Type} {moves : Bool} {c : Cursor} {outcome : Outcome moves c α}
    {value : α} (succeeded : outcome.result = .ok value)
    (next : (value : α) → (d : Cursor) → c.Reaches d → d.remaining ≤ c.remaining →
      Outcome false c β) (otherwise : Outcome false c β) :
    (outcome.tried next otherwise).rest =
      (next value outcome.rest outcome.reaches outcome.reaches.remaining_le).rest := by
  obtain ⟨⟨result, d⟩, reaches, moved⟩ := outcome
  cases (succeeded : result = .ok value)
  rfl

/-! ## Operators and classes without a name -/

namespace Cursor

variable {r : Revision}

theorem operatorPrecedence?_eq {c c' : Cursor} (abreast : r.Abreast c c') :
    c'.operatorPrecedence? = c.operatorPrecedence? := by
  rw [operatorPrecedence?, operatorPrecedence?, abreast.kind?_eq]

theorem seesCompoundAssignment_eq {c c' : Cursor} (abreast : r.Abreast c c') :
    c'.seesCompoundAssignment = c.seesCompoundAssignment := by
  rw [seesCompoundAssignment, seesCompoundAssignment, abreast.kind?_eq]
  by_cases brace : c.kind? = some (.mark .lbrace)
  · -- a brace is no operator
    simp [brace, Kind.precedence?, Mark.precedence?]
  · rw [abreast.peek?_one brace]

theorem abreast_skipHeritage {c c' : Cursor} (abreast : r.Abreast c c') :
    Outcome.Abreast r Eq c.skipHeritage c'.skipHeritage := by
  unfold skipHeritage
  refine abreast.next_cases (.fail abreast (abreast.expected _)) fun past past' step => ?_
  dsimp only
  rw [step.kind]
  have := past.less
  split
  · exact .ok abreast rfl
  · exact .lax ((abreast_skipAngles abreast).andThen fun _ _ rests _ => abreast_skipHeritage rests)
  · exact .lax ((abreast_skipGroup abreast).andThen fun _ _ rests _ => abreast_skipHeritage rests)
  · exact .lax (.step step fun rests => abreast_skipHeritage rests)
termination_by c.remaining

theorem abreast_skipClassTail {c c' : Cursor} (abreast : r.Abreast c c') :
    Outcome.Abreast r Eq c.skipClassTail c'.skipClassTail :=
  (abreast_skipHeritage abreast).bind fun _ _ rests _ =>
    .map (abreast_skipGroup rests) fun _ => rfl

/-- Expressions are the same, spans aside, if their forms are. -/
theorem expressionFrom_same (c c' : Cursor) (start start' : Span) {form form' : ExpressionForm}
    (same : form.unplaced = form'.unplaced) :
    SameUnder Expression.unplaced (c.expressionFrom start form)
      (c'.expressionFrom start' form') := by
  simp only [SameUnder, expressionFrom, Expression.unplaced, same]

end Cursor

namespace Rules

variable {r : Revision} {limit limit' : Cursor} {rules : Rules limit} {rules' : Rules limit'}

/-! ## Functions -/

section Functions

variable (same : rules.Abreast r rules') {c c' : Cursor} (abreast : r.Abreast c c')

include same abreast

theorem abreast_skipCallableTail (inside inside') :
    Outcome.Abreast r Eq (rules.skipCallableTail c inside)
      (rules'.skipCallableTail c' inside') := by
  unfold skipCallableTail
  refine (abreast_skipAnglesIfAny abreast).bind fun _ _ rests₁ _ => ?_
  refine (abreast_parameters same rests₁ _ _).andThen fun _ _ rests₂ _ => ?_
  refine (abreast_resultAscription same rests₂ _ _).bind fun _ _ rests₃ _ => ?_
  rw [rests₃.seesMark]
  refine .ite (fun _ => ?_) fun _ => abreast_optionalSemicolon rests₃
  exact .lax (.map (abreast_skipGroup rests₃) fun _ => rfl)

theorem abreast_skipFunction (inside inside') :
    Outcome.Abreast r Eq (rules.skipFunction c inside) (rules'.skipFunction c' inside') := by
  unfold skipFunction
  refine (abreast_expectKeyword abreast .function_).andThen fun _ _ rests₁ _ => ?_
  refine (abreast_optionalMark rests₁ .star).bind fun _ _ rests₂ _ => ?_
  refine (abreast_optional rests₂ _).bind fun _ _ rests₃ _ => ?_
  exact .lax (abreast_skipCallableTail same rests₃ _ _)

theorem abreast_skipArrowHead (inside inside') :
    Outcome.Abreast r Eq (rules.skipArrowHead c inside) (rules'.skipArrowHead c' inside') := by
  unfold skipArrowHead
  refine (abreast_skipAnglesIfAny abreast).bind fun _ _ rests₁ _ => ?_
  rw [rests₁.seesMark]
  refine .ite (fun _ => ?_) fun _ => .map (abreast_expectName rests₁) fun _ => rfl
  refine (abreast_skipGroup rests₁).andThen fun _ _ rests₂ _ => ?_
  exact .map (abreast_resultAscription same rests₂ _ _) fun _ => rfl

theorem abreast_arrowFunction (start start' : Span) (inside inside') :
    Outcome.Abreast r (SameUnder Expression.unplaced) (rules.arrowFunction start c inside)
      (rules'.arrowFunction start' c' inside') := by
  unfold arrowFunction
  refine (abreast_skipArrowHead same abreast _ _).andThen fun _ _ rests₁ _ => ?_
  refine (abreast_expectMark rests₁ .arrow).andThen fun _ _ rests₂ _ => ?_
  rw [rests₂.seesMark]
  refine .ite (fun _ => ?_) fun _ => ?_
  · exact (abreast_skipGroup rests₂).andThen fun _ _ rests₃ _ => .ok rests₃ rfl
  · exact (same.assignment _ _ rests₂).andThen fun _ _ rests₃ _ => .ok rests₃ rfl

end Functions

/-! ## Literals -/

theorem abreast_skipMethodWord {c c' : Cursor} (abreast : r.Abreast c c') :
    Outcome.Abreast r Eq (skipMethodWord c) (skipMethodWord c') :=
  abreast_optional_if abreast _ (by simp) fun other => by
    rw [abreast.namesProperty other, abreast.peek?_one other]

section Literals

variable (same : rules.Abreast r rules') {c c' : Cursor} (abreast : r.Abreast c c')

include same abreast

theorem abreast_propertyValue (start start' : Span) (key : PropertyKey) (keySpan keySpan' : Span)
    (isMethod : Bool) (inside inside') :
    Outcome.Abreast r (SameUnder Property.unplaced)
      (rules.propertyValue start key keySpan isMethod c inside)
      (rules'.propertyValue start' key keySpan' isMethod c' inside') := by
  unfold propertyValue
  rw [abreast_startsSignature abreast]
  refine .ite (fun _ => ?_) fun _ => ?_
  · exact (abreast_skipCallableTail same abreast _ _).lax.bind fun _ _ rests _ => .ok rests rfl
  refine abreast.mark_cases ?_ (fun past past' rests => ?_) .colon (by decide)
  · cases key with
    | named name => exact (abreast_initial same abreast _ _).bind fun _ _ rests _ => .ok rests rfl
    | computed => exact .fail abreast (abreast.expected _)
    | spread => exact .fail abreast (abreast.expected _)
  · refine .lax (.go ((same.assignment _ _ rests).andThen fun _ _ behind sameValue =>
      .ok behind ?_))
    simp only [SameUnder, Property.unplaced, sameValue]

/-- The name of a property, its span aside. -/
theorem abreast_propertyKey (inside inside') :
    Outcome.Abreast r (SameUnder Prod.fst) (rules.propertyKey c inside)
      (rules'.propertyKey c' inside') := by
  unfold propertyKey
  refine abreast.mark_cases ?_ (fun past past' rests => ?_) .lbracket (by decide)
  · refine .map (abreast_propertyName abreast) fun related => ?_
    rw [SameUnder, related.1]
  · refine .go ((same.assignment _ _ rests).andThen fun _ _ rests₁ _ => ?_)
    exact (abreast_expectMark rests₁ .rbracket).andThen fun _ _ rests₂ _ => .ok rests₂ rfl

theorem abreast_property (inside inside') :
    Outcome.Abreast r (SameUnder Property.unplaced) (rules.property c inside)
      (rules'.property c' inside') := by
  unfold property
  refine abreast.mark_cases ?_ (fun past past' rests => ?_) .ellipsis (by decide)
  · refine (abreast_skipMethodWord abreast).bind fun _ _ rests₁ isAccessor => ?_
    refine (abreast_optionalMark rests₁ .star).bind fun _ _ rests₂ isGenerator => ?_
    refine (abreast_propertyKey same rests₂ _ _).andThen fun _ _ rests₃ sameKey => ?_
    rw [isAccessor, isGenerator, show _ = _ from sameKey]
    exact abreast_propertyValue same rests₃ _ _ _ _ _ _ _ _
  · refine .go ((same.assignment _ _ rests).andThen fun _ _ behind sameValue => .ok behind ?_)
    simp only [SameUnder, Property.unplaced, sameValue]

theorem abreast_object (inside inside') :
    Outcome.Abreast r (SameUnder Expression.unplaced) (rules.object c inside)
      (rules'.object c' inside') := by
  unfold object
  refine (abreast_expectMark abreast .lbrace).andThen fun {token token' _ _} _ _ rests _ => ?_
  refine (abreast_elements ⟨.lbrace, token.span⟩ ⟨.lbrace, token'.span⟩ rfl .rbrace (by decide) id
    (fun _ _ more => abreast_property same more _ _) rfl rests _ _).andThen
      fun _ _ behind sameProperties => .ok behind (expressionFrom_same _ _ _ _ ?_)
  simp only [ExpressionForm.unplaced, Property.unplacedAll_eq_map, sameProperties]

end Literals

section Arrays

variable (same : rules.Abreast r rules')

include same

theorem abreast_arrayElements {c c' : Cursor} (abreast : r.Abreast c c')
    (opening opening' : Opening) (marks : opening.mark = opening'.mark)
    {earlier earlier' : List Expression}
    (before : SameUnder (List.map Expression.unplaced) earlier earlier') (inside inside') :
    Outcome.Abreast r (SameUnder (List.map Expression.unplaced))
      (rules.arrayElements opening earlier c inside)
      (rules'.arrayElements opening' earlier' c' inside') := by
  have reversed {earlier earlier' : List Expression}
      (before : SameUnder (List.map Expression.unplaced) earlier earlier') :
      SameUnder (List.map Expression.unplaced) earlier.reverse earlier'.reverse := by
    rw [SameUnder, List.map_reverse, List.map_reverse, before]
  unfold arrayElements
  refine abreast.mark_cases ?_ (fun past past' rests => .go (.ok rests (reversed before)))
    .rbracket (by decide)
  dsimp only
  rw [abreast.atEnd]
  refine .ite (fun _ => .fail abreast (abreast.unclosed marks _)) fun _ => ?_
  refine abreast.mark_cases ?_ (fun past past' rests => ?_) .comma (by decide)
  · refine (abreast_spreadable same abreast _ _).andThen fun {element element' d d'} less _ rests
      sameElement => ?_
    have before : SameUnder (List.map Expression.unplaced) (element :: earlier)
        (element' :: earlier') :=
      congrArg₂ List.cons sameElement before
    refine rests.mark_cases ?_ (fun past past' behind => ?_) .rbracket (by decide)
    · refine .lax ((abreast_expectMark rests .comma).andThen
        fun {_ _ e e'} further _ behind _ => ?_)
      have : e.remaining < c.remaining := Nat.lt_trans further less
      exact abreast_arrayElements behind opening opening' marks before _ _
    · exact .lax (.go (.ok behind (reversed before)))
  · have := past.less
    exact .go (abreast_arrayElements rests opening opening' marks before _ _)
termination_by c.remaining

theorem abreast_array {c c' : Cursor} (abreast : r.Abreast c c') (inside inside') :
    Outcome.Abreast r (SameUnder Expression.unplaced) (rules.array c inside)
      (rules'.array c' inside') := by
  unfold array
  refine (abreast_expectMark abreast .lbracket).andThen fun {token token' _ _} _ _ rests _ => ?_
  refine (abreast_arrayElements same rests ⟨.lbracket, token.span⟩ ⟨.lbracket, token'.span⟩ rfl
    rfl _ _).andThen fun _ _ behind sameMembers => .ok behind (expressionFrom_same _ _ _ _ ?_)
  simp only [ExpressionForm.unplaced, Expression.unplacedAll_eq_map, sameMembers]

end Arrays

/-! ## Operands -/

section Operands

variable (same : rules.Abreast r rules') {c c' : Cursor} (abreast : r.Abreast c c')

include same abreast

theorem abreast_asyncOrName (start start' : Span) (inside inside') :
    Outcome.Abreast r (SameUnder Expression.unplaced) (rules.asyncOrName start c inside)
      (rules'.asyncOrName start' c' inside') := by
  unfold asyncOrName
  rw [abreast.kind?_eq]
  refine .ite (fun _ => ?_) fun _ => .ok abreast rfl
  exact (abreast_skipFunction same abreast _ _).lax.bind fun _ _ rests _ => .ok rests rfl

theorem abreast_classExpression (inside inside') :
    Outcome.Abreast r (SameUnder Expression.unplaced) (rules.classExpression c inside)
      (rules'.classExpression c' inside') := by
  unfold classExpression
  refine (abreast_decorators same abreast rfl _ _).bind fun _ _ rests₁ _ => ?_
  refine (abreast_expectKeyword rests₁ .class_).andThen fun _ _ rests₂ _ => ?_
  exact (abreast_skipClassTail rests₂).andThen fun _ _ rests₃ _ => .ok rests₃ rfl

theorem abreast_primary (inside inside') :
    Outcome.Abreast r (SameUnder Expression.unplaced) (rules.primary c inside)
      (rules'.primary c' inside') := by
  unfold primary
  refine abreast.next_cases (.fail abreast (abreast.expected _)) fun past past' step => ?_
  have single (form : ExpressionForm) : Outcome.Abreast r (SameUnder Expression.unplaced)
      (past.go (.ok (past.rest.expressionFrom past.token.span form)))
      (past'.go (.ok (past'.rest.expressionFrom past'.token.span form))) :=
    .step step fun rests => .ok rests (expressionFrom_same _ _ _ _ rfl)
  dsimp only
  rw [step.kind]
  split
  · exact .step step fun rests => abreast_asyncOrName same rests _ _ _ _
  · exact single _
  · exact single _
  · exact single _
  · exact single _
  · exact single _
  · exact single _
  · exact single _
  · exact single _
  · exact single _
  · refine .step step fun rests => (same.expression _ _ rests).andThen
      fun _ _ behind sameInner => ?_
    refine .map (.mapError (abreast_expectMark behind .rparen) fun related =>
      related.inside (by rfl)) fun _ => sameInner
  · exact abreast_object same abreast _ _
  · exact abreast_array same abreast _ _
  · exact (abreast_skipFunction same abreast _ _).andThen fun _ _ rests _ => .ok rests rfl
  · exact abreast_classExpression same abreast _ _
  · exact abreast_classExpression same abreast _ _
  · exact .fail abreast (abreast.expected _)

theorem abreast_indexElement (inside inside') :
    Outcome.Abreast r (SameUnder Expression.unplaced) (rules.indexElement c inside)
      (rules'.indexElement c' inside') := by
  unfold indexElement
  refine (same.expression _ _ abreast).andThen fun _ _ rests sameIndex => ?_
  exact .map (abreast_expectMark rests .rbracket) fun _ => sameIndex

end Operands

section Constructions

variable (same : rules.Abreast r rules')

include same

theorem abreast_constructedClass {c c' : Cursor} (abreast : r.Abreast c c') (start start' : Span)
    {callee callee' : Expression} (before : SameUnder Expression.unplaced callee callee')
    (inside inside') :
    Outcome.Abreast r (SameUnder Expression.unplaced)
      (rules.constructedClass start callee c inside)
      (rules'.constructedClass start' callee' c' inside') := by
  unfold constructedClass
  refine abreast.mark_cases ?_ (fun past past' rests => ?_) .dot (by decide)
  · dsimp only
    refine abreast.mark_cases (.ok abreast before) (fun past past' rests => ?_) .lbracket
      (by decide)
    have := past.less
    refine .lax (.go ((abreast_indexElement same rests _ _).andThen
      fun _ _ behind sameIndex => ?_))
    refine abreast_constructedClass behind _ _ (expressionFrom_same _ _ _ _ ?_) _ _
    simp only [ExpressionForm.unplaced, before, sameIndex]
  · have := past.less
    refine .lax (.go ((abreast_propertyName rests).andThen fun _ _ behind sameName => ?_))
    refine abreast_constructedClass behind _ _ (expressionFrom_same _ _ _ _ ?_) _ _
    simp only [ExpressionForm.unplaced, before, sameName.1]
termination_by c.remaining

theorem abreast_constructionAfter {c c' : Cursor} (abreast : r.Abreast c c') (start start' : Span)
    (inside inside') :
    Outcome.Abreast r (SameUnder Expression.unplaced) (rules.constructionAfter start c inside)
      (rules'.constructionAfter start' c' inside') := by
  unfold constructionAfter
  rw [abreast.kind?_eq]
  have first : Outcome.Abreast r (SameUnder Expression.unplaced)
      (if c.kind? = some (.keyword .new_) then rules.construction c inside
        else rules.primary c (Cursor.le_of_lt inside))
      (if c.kind? = some (.keyword .new_) then rules'.construction c' inside'
        else rules'.primary c' (Cursor.le_of_lt inside')) :=
    .ite (fun _ => same.construction _ _ abreast) fun _ => abreast_primary same abreast _ _
  refine first.andThen fun _ _ rests₁ sameCallee => ?_
  refine (abreast_constructedClass same rests₁ _ _ sameCallee _ _).bind
    fun _ _ rests₂ sameCallee => ?_
  refine (abreast_skipAnglesIfAny rests₂).bind fun _ _ rests₃ _ => ?_
  refine (abreast_optionalArguments same rests₃ _ _).bind fun _ _ rests₄ sameArguments => ?_
  refine .ok rests₄ (expressionFrom_same _ _ _ _ ?_)
  simp only [ExpressionForm.unplaced, Expression.unplacedAll_eq_map, sameCallee, sameArguments]

theorem abreast_newExpression {c c' : Cursor} (abreast : r.Abreast c c') (inside inside') :
    Outcome.Abreast r (SameUnder Expression.unplaced) (rules.newExpression c inside)
      (rules'.newExpression c' inside') := by
  unfold newExpression
  refine (abreast_expectKeyword abreast .new_).andThen fun _ _ rests _ => ?_
  refine rests.mark_cases (.lax (abreast_constructionAfter same rests _ _ _ _))
    (fun past past' behind => ?_) .dot (by decide)
  refine .lax (.go ((abreast_propertyName behind).andThen fun _ _ last sameName => ?_))
  refine .ok last (expressionFrom_same _ _ _ _ ?_)
  simp only [ExpressionForm.unplaced, Expression.unplaced, sameName.1]

/-! ## Suffixes -/

omit same in
/-- Type arguments that pass the brace are tried: either they are kept, and the rule passes the
brace, too, or they are given up in both files. -/
theorem abreast_passedAttempt {c c' : Cursor} (abreast : r.Abreast c c')
    (entered : r.Entered c.typeArguments.rest) {operand operand' : Expression}
    (before : SameUnder Expression.unplaced operand operand')
    (call : List TypeExpression → (d : Cursor) → d.remaining ≤ c.remaining →
      Outcome true d Expression)
    (call' : List TypeExpression → (d : Cursor) → d.remaining ≤ c'.remaining →
      Outcome true d Expression) :
    Outcome.Abreast r (SameUnder Expression.unplaced)
      (c.typeArguments.tried (fun types d reaches fewer =>
        if d.seesMark .lparen then ((call types d fewer).following reaches).lax else .ok operand)
        (.ok operand))
      (c'.typeArguments.tried (fun types d reaches fewer =>
        if d.seesMark .lparen then ((call' types d fewer).following reaches).lax
        else .ok operand') (.ok operand')) := by
  by_cases kept : c.KeepsTypeArguments
  · obtain ⟨⟨types, succeeded⟩, follows⟩ := kept
    refine .inl ?_
    rw [rest_tried succeeded, if_pos follows]
    exact Revision.Entered.mono entered (Outcome.reaches _)
  · have givenUp : ¬c'.KeepsTypeArguments := fun kept' =>
      kept (r.settled c c' abreast.toBeside entered kept')
    have none : ∀ types, c.typeArguments.result = .ok types →
        c.typeArguments.rest.seesMark .lparen ≠ true :=
      fun types succeeded follows => kept ⟨⟨types, succeeded⟩, follows⟩
    have none' : ∀ types, c'.typeArguments.result = .ok types →
        c'.typeArguments.rest.seesMark .lparen ≠ true :=
      fun types succeeded follows => givenUp ⟨⟨types, succeeded⟩, follows⟩
    exact (Abreast.ok abreast before).congr
      (stopped_tried fun types succeeded _ _ => congrArg stopped (if_neg (none types succeeded)))
      (stopped_tried fun types succeeded _ _ => congrArg stopped (if_neg (none' types succeeded)))

/-- The suffixes behind an operand: members, elements, calls and operators that follow it. -/
theorem abreast_suffixes {c c' : Cursor} (abreast : r.Abreast c c') (start start' : Span)
    {operand operand' : Expression} (before : SameUnder Expression.unplaced operand operand')
    (inside inside') :
    Outcome.Abreast r (SameUnder Expression.unplaced) (rules.suffixes start operand c inside)
      (rules'.suffixes start' operand' c' inside') := by
  unfold suffixes
  refine abreast.next_cases (.ok abreast before) fun past past' step => ?_
  dsimp only
  rw [step.kind]
  have := past.less
  -- what follows a name behind the operand
  have member {past : c.Past} {past' : c'.Past} (rests : r.Abreast past.rest past'.rest) :
      Outcome.Abreast r (SameUnder Expression.unplaced)
        (past.go (past.rest.propertyName.andThen fun property d less => rules.suffixes start
          (d.expressionFrom start (.member operand (property.name.getD ""))) d
          (past.after_lt less (Cursor.le_of_lt inside)))).lax
        (past'.go (past'.rest.propertyName.andThen fun property d less => rules'.suffixes start'
          (d.expressionFrom start' (.member operand' (property.name.getD ""))) d
          (past'.after_lt less (Cursor.le_of_lt inside')))).lax := by
    have := past.less
    refine .lax (.go ((abreast_propertyName rests).andThen fun _ _ behind sameName => ?_))
    refine abreast_suffixes behind _ _ (expressionFrom_same _ _ _ _ ?_) _ _
    simp only [ExpressionForm.unplaced, before, sameName.1]
  split
  · next kind => exact member (step.abreast (by simp [kind]))
  · next kind =>
      have rests := step.abreast (by simp [kind])
      rw [rests.seesMark]
      refine .ite (fun _ => ?_) fun _ => ?_
      · refine .lax (.go ((abreast_arguments same rests _ _).andThen
          fun _ _ behind sameArguments => ?_))
        refine abreast_suffixes behind _ _ (expressionFrom_same _ _ _ _ ?_) _ _
        simp only [ExpressionForm.unplaced, Expression.unplacedAll_eq_map,
          TypeExpression.unplacedAll_eq_map, before, sameArguments]
      · refine rests.mark_cases (member rests) (fun opened opened' behind => ?_) .lbracket
          (by decide)
        have := opened.less
        refine .lax (.go (.go ((abreast_indexElement same behind _ _).andThen
          fun _ _ last sameIndex => ?_)))
        refine abreast_suffixes last _ _ (expressionFrom_same _ _ _ _ ?_) _ _
        simp only [ExpressionForm.unplaced, before, sameIndex]
  · refine .lax (.step step fun rests => (abreast_indexElement same rests _ _).andThen
      fun _ _ behind sameIndex => ?_)
    refine abreast_suffixes behind _ _ (expressionFrom_same _ _ _ _ ?_) _ _
    simp only [ExpressionForm.unplaced, before, sameIndex]
  · refine .lax ((abreast_arguments same abreast _ _).andThen fun _ _ rests sameArguments => ?_)
    refine abreast_suffixes rests _ _ (expressionFrom_same _ _ _ _ ?_) _ _
    simp only [ExpressionForm.unplaced, Expression.unplacedAll_eq_map,
      TypeExpression.unplacedAll_eq_map, before, sameArguments]
  · refine .tried (abreast_typeArguments same abreast _ _) (fun entered => ?passed)
      (fun _ _ _ _ rests sameTypes => ?_) (.ok abreast before)
    case passed =>
      rw [same.typeArguments] at entered ⊢
      rw [same.typeArguments']
      exact abreast_passedAttempt abreast entered before
        (fun types d fewer =>
          (rules.arguments d (Cursor.le_trans fewer (Cursor.le_of_lt inside))).andThen _)
        (fun types d fewer =>
          (rules'.arguments d (Cursor.le_trans fewer (Cursor.le_of_lt inside'))).andThen _)
    rw [rests.seesMark]
    refine .ite (fun _ => .lax (.following ?_)) fun _ => .ok abreast before
    refine (abreast_arguments same rests _ _).andThen fun _ _ behind sameArguments => ?_
    refine abreast_suffixes behind _ _ (expressionFrom_same _ _ _ _ ?_) _ _
    simp only [ExpressionForm.unplaced, Expression.unplacedAll_eq_map,
      TypeExpression.unplacedAll_eq_map, before, sameTypes, sameArguments]
  · exact .lax (.step step fun rests => abreast_suffixes rests _ _ before _ _)
  · exact .lax (.step step fun rests => abreast_suffixes rests _ _ (by rfl) _ _)
  · exact .ok abreast before
termination_by c.remaining

theorem abreast_suffixed {c c' : Cursor} (abreast : r.Abreast c c') (inside inside') :
    Outcome.Abreast r (SameUnder Expression.unplaced) (rules.suffixed c inside)
      (rules'.suffixed c' inside') := by
  unfold suffixed
  rw [abreast.kind?_eq]
  have first : Outcome.Abreast r (SameUnder Expression.unplaced)
      (if c.kind? = some (.keyword .new_) then rules.newExpression c inside
        else rules.primary c inside)
      (if c.kind? = some (.keyword .new_) then rules'.newExpression c' inside'
        else rules'.primary c' inside') :=
    .ite (fun _ => abreast_newExpression same abreast _ _) fun _ =>
      abreast_primary same abreast _ _
  exact first.andThen fun _ _ rests sameOperand =>
    abreast_suffixes same rests _ _ sameOperand _ _

end Constructions

/-! ## Operators -/

theorem seesPrefixOperator_eq {c c' : Cursor} (abreast : r.Abreast c c') :
    seesPrefixOperator c' = seesPrefixOperator c := by
  unfold seesPrefixOperator
  rw [abreast.kind?_eq]
  by_cases brace : c.kind? = some (.mark .lbrace)
  · rw [brace]
  · rw [abreast.peek?_one brace]

section Operators

variable (same : rules.Abreast r rules')

include same

theorem abreast_operand {c c' : Cursor} (abreast : r.Abreast c c') (inside inside') :
    Outcome.Abreast r (SameUnder Expression.unplaced) (rules.operand c inside)
      (rules'.operand c' inside') := by
  unfold operand
  refine abreast.next_cases (abreast_suffixed same abreast _ _) fun past past' step => ?_
  dsimp only
  rw [seesPrefixOperator_eq abreast, step.kind]
  refine .ite (fun _ => ?_) fun _ => .ite (fun _ => ?_) fun _ => abreast_suffixed same abreast _ _
  · refine .step step fun rests => (same.unary _ _ rests).andThen fun _ _ behind sameOperand =>
      .ok behind (expressionFrom_same _ _ _ _ ?_)
    simp only [ExpressionForm.unplaced, sameOperand]
  · exact (abreast_skipAngles abreast).andThen fun _ _ rests _ => .lax (same.unary _ _ rests)

theorem abreast_skipAssertedType {c c' : Cursor} (abreast : r.Abreast c c') (inside inside') :
    Outcome.Abreast r Eq (rules.skipAssertedType c inside)
      (rules'.skipAssertedType c' inside') := by
  unfold skipAssertedType
  refine abreast.keyword_cases ?_ (fun past past' rests => .go (.ok rests rfl)) .const_
  exact .map (same.type _ _ abreast) fun _ => rfl

theorem abreast_operators (least : Nat) {c c' : Cursor} (abreast : r.Abreast c c')
    (start start' : Span) {left left' : Expression}
    (before : SameUnder Expression.unplaced left left') (inside inside') :
    Outcome.Abreast r (SameUnder Expression.unplaced) (rules.operators least start left c inside)
      (rules'.operators least start' left' c' inside') := by
  unfold operators
  refine abreast.next_cases (.ok abreast before) fun past past' step => ?_
  dsimp only
  rw [step.kind, operatorPrecedence?_eq abreast, seesCompoundAssignment_eq abreast]
  have := past.less
  refine .ite (fun _ => ?_) fun _ => ?_
  · refine .lax (.step step fun rests => (abreast_skipAssertedType same rests _ _).andThen
      fun {_ _ d d'} less _ behind _ => ?_)
    exact abreast_operators least behind _ _ before _ _
  split
  · exact .ok abreast before
  refine .ite (fun _ => .ok abreast before) fun _ => .lax (.step step fun rests => ?_)
  have star : Outcome.Abreast r Eq
      (if past.token.kind = .mark .star then past.rest.optionalMark .star else .ok false)
      (if past.token.kind = .mark .star then past'.rest.optionalMark .star else .ok false) :=
    .ite (fun _ => abreast_optionalMark rests .star) fun _ => .ok rests rfl
  refine star.bind fun {_ _ d d'} atMost _ rests₁ _ => .lax ?_
  refine (same.binary _ _ _ rests₁).andThen fun {_ _ e e'} less _ rests₂ sameRight => ?_
  have : e.remaining < c.remaining := by omega
  refine abreast_operators least rests₂ _ _ (expressionFrom_same _ _ _ _ ?_) _ _
  simp only [ExpressionForm.unplaced, before, sameRight]
termination_by c.remaining

theorem abreast_binaryFrom (least : Nat) {c c' : Cursor} (abreast : r.Abreast c c')
    (inside inside') :
    Outcome.Abreast r (SameUnder Expression.unplaced) (rules.binaryFrom least c inside)
      (rules'.binaryFrom least c' inside') :=
  (abreast_operand same abreast _ _).andThen fun _ _ rests sameLeft =>
    abreast_operators same least rests _ _ sameLeft _ _

theorem abreast_conditional {c c' : Cursor} (abreast : r.Abreast c c') (inside inside') :
    Outcome.Abreast r (SameUnder Expression.unplaced) (rules.conditional c inside)
      (rules'.conditional c' inside') := by
  unfold conditional
  refine (abreast_binaryFrom same 1 abreast _ _).andThen fun _ _ rests₁ sameTest => ?_
  refine rests₁.mark_cases (.ok rests₁ sameTest) (fun past past' behind => ?_) .question (by decide)
  refine .lax (.go ((same.assignment _ _ behind).andThen fun _ _ rests₂ sameConsequent => ?_))
  refine (abreast_expectMark rests₂ .colon).andThen fun _ _ rests₃ _ => ?_
  refine (same.assignment _ _ rests₃).andThen fun _ _ rests₄ sameAlternative =>
    .ok rests₄ (expressionFrom_same _ _ _ _ ?_)
  simp only [ExpressionForm.unplaced, sameTest, sameConsequent, sameAlternative]

theorem abreast_assignedValue {c c' : Cursor} (abreast : r.Abreast c c') (start start' : Span)
    {target target' : Expression} (before : SameUnder Expression.unplaced target target')
    (inside inside') :
    Outcome.Abreast r (SameUnder Expression.unplaced) (rules.assignedValue start target c inside)
      (rules'.assignedValue start' target' c' inside') := by
  unfold assignedValue
  rw [seesCompoundAssignment_eq abreast]
  refine (abreast_optional abreast _).bind fun _ _ rests _ => ?_
  refine rests.mark_cases (.ok rests before) (fun past past' behind => ?_) .eq (by decide)
  refine .lax (.go ((same.assignment _ _ behind).andThen fun _ _ last sameValue =>
    .ok last (expressionFrom_same _ _ _ _ ?_)))
  simp only [ExpressionForm.unplaced, before, sameValue]

theorem abreast_assignmentFrom {c c' : Cursor} (abreast : r.Abreast c c') (inside inside') :
    Outcome.Abreast r (SameUnder Expression.unplaced) (rules.assignmentFrom c inside)
      (rules'.assignmentFrom c' inside') := by
  unfold assignmentFrom
  have plain : Outcome.Abreast r (SameUnder Expression.unplaced)
      (if Lookahead.startsArrow c.ahead then rules.arrowFunction c.span c inside
        else (rules.conditional c inside).andThen fun target d less =>
          rules.assignedValue c.span target d (Cursor.lt_of_lt_of_le less inside))
      (if Lookahead.startsArrow c'.ahead then rules'.arrowFunction c'.span c' inside'
        else (rules'.conditional c' inside').andThen fun target d less =>
          rules'.assignedValue c'.span target d (Cursor.lt_of_lt_of_le less inside')) := by
    rw [Lookahead.startsArrow_varies abreast.varies]
    refine .ite (fun _ => abreast_arrowFunction same abreast _ _ _ _) fun _ => ?_
    exact (abreast_conditional same abreast _ _).andThen fun _ _ rests sameTarget =>
      abreast_assignedValue same rests _ _ sameTarget _ _
  refine abreast.name_cases plain (fun past past' rests => ?_) "async"
  dsimp only
  rw [Lookahead.startsArrow_varies rests.varies]
  exact .ite (fun _ => .go (abreast_arrowFunction same rests _ _ _ _)) fun _ => plain

theorem abreast_sequence {c c' : Cursor} (abreast : r.Abreast c c') (start start' : Span)
    {left left' : Expression} (before : SameUnder Expression.unplaced left left')
    (inside inside') :
    Outcome.Abreast r (SameUnder Expression.unplaced) (rules.sequence start left c inside)
      (rules'.sequence start' left' c' inside') := by
  unfold sequence
  refine abreast.mark_cases (.ok abreast before) (fun past past' rests => ?_) .comma (by decide)
  have := past.less
  refine .lax (.go ((same.assignment _ _ rests).andThen fun _ _ behind sameRight => ?_))
  refine abreast_sequence behind _ _ (expressionFrom_same _ _ _ _ ?_) _ _
  simp only [ExpressionForm.unplaced, before, sameRight]
termination_by c.remaining

theorem abreast_expressionWhole {c c' : Cursor} (abreast : r.Abreast c c') (inside inside') :
    Outcome.Abreast r (SameUnder Expression.unplaced) (rules.expressionWhole c inside)
      (rules'.expressionWhole c' inside') :=
  (abreast_assignmentFrom same abreast _ _).andThen fun _ _ rests sameFirst =>
    abreast_sequence same rests _ _ sameFirst _ _

end Operators

/-! ## The knot -/

/-- Elements that are read alike whatever bounds the rules give the same list. -/
theorem elements_congr {α : Type} (opening : Opening) (closing : Mark)
    (missing : ParseError → ParseError)
    {element : (c : Cursor) → c.remaining < limit.remaining → Outcome true c α}
    {element' : (c : Cursor) → c.remaining < limit'.remaining → Outcome true c α}
    (same : ∀ c inside inside', element c inside = element' c inside') (earlier : List α)
    (c : Cursor) (inside inside') :
    elements opening closing missing element earlier c inside =
      elements opening closing missing element' earlier c inside' := by
  rw [elements.eq_def, elements.eq_def, same c inside inside']
  cases c.mark? closing with
  | some past => rfl
  | none =>
      refine ite_congr rfl (fun _ => rfl) fun _ => andThen_congr fun value d less => ?_
      cases d.mark? .comma with
      | none => rfl
      | some past =>
          have := past.less
          exact congrArg past.go (elements_congr opening closing missing same _ past.rest _ _)
termination_by c.remaining

theorem all_type (limit c : Cursor) (inside) :
    (all limit).type c inside = (all c).fullType c c.le_self := by
  rw [all]

theorem all_typeArguments (limit c : Cursor) (inside) :
    (all limit).typeArguments c inside = c.typeArguments :=
  andThen_congr fun _ _ _ => elements_congr _ _ _
    (fun d _ _ => (all_type limit d _).trans (all_type c d _).symm) _ _ _ _

/-- **In front of the brace the rules do in a file what they do in its revision**, by induction on
the tokens ahead: a rule is entered again past a token only. -/
theorem abreast_all (limit limit' : Cursor) : (all limit).Abreast r (all limit') := by
  have inner {c c' : Cursor} (inside : c.remaining < limit.remaining) :
      (all c).Abreast r (all c') :=
    abreast_all c c'
  constructor
  case typeArguments => exact all_typeArguments limit
  case typeArguments' => exact all_typeArguments limit'
  all_goals rw [all, all]
  case assignment => exact fun inside _ abreast => abreast_assignmentFrom (inner inside) abreast _ _
  case expression =>
    exact fun inside _ abreast => abreast_expressionWhole (inner inside) abreast _ _
  case binary =>
    exact fun least _ _ inside _ abreast => abreast_binaryFrom (inner inside) least abreast _ _
  case unary => exact fun inside _ abreast => abreast_operand (inner inside) abreast _ _
  case construction =>
    exact fun {c c'} inside _ abreast =>
      abreast_newExpression (inner inside) abreast c.le_self c'.le_self
  case type => exact fun inside _ abreast => abreast_fullType (inner inside) abreast _ _
  case typeOperand => exact fun inside _ abreast => abreast_operandType (inner inside) abreast _ _
termination_by limit.remaining

end Rules

end InjectionCheck
