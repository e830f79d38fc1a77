import InjectionCheck.Proofs.DepthOfTypes

/-!
# In how many braces the rules for expressions stop

A rule for expressions that succeeds stops in no more braces than it started in, and so do all the
recursive rules (`Rules.endWithin_all`). The heritage clauses of a class without a name are passed
token by token up to a brace: a closing brace among them may be that of braces around the class.
-/

set_option autoImplicit false

namespace InjectionCheck

open Cursor Outcome

namespace Cursor

theorem endsWithin_skipHeritage {n : Int} {c : Cursor} (within : c.depth ≤ n) :
    c.skipHeritage.EndsWithin n := by
  unfold skipHeritage
  split
  · exact .fail
  next past isNext =>
  have := past.less
  split
  · exact .ok within
  · exact .lax (.andThen (endsWithin_skipAngles within) fun _ _ _ within =>
      endsWithin_skipHeritage within)
  · exact .lax (.andThen (endsWithin_skipGroup within) fun _ _ _ within =>
      endsWithin_skipHeritage within)
  · next noBrace _ _ =>
      exact .lax (.go (endsWithin_skipHeritage (depth_rest_le isNext noBrace within)))
termination_by c.remaining

theorem endsWithin_skipClassTail {n : Int} {c : Cursor} (within : c.depth ≤ n) :
    c.skipClassTail.EndsWithin n :=
  .bind (endsWithin_skipHeritage within) fun _ _ _ within =>
    .map (endsWithin_skipGroup within) fun _ _ => id

end Cursor

namespace Rules

variable {limit : Cursor} {rules : Rules limit} {n : Int}

/-! ## Functions -/

section Functions

variable (ends : rules.EndWithin) {c : Cursor} (within : c.depth ≤ n)

include ends within

theorem endsWithin_skipCallableTail (inside) :
    (rules.skipCallableTail c inside).EndsWithin n :=
  .bind (endsWithin_skipAnglesIfAny within) fun _ _ _ within =>
    .andThen (endsWithin_parameters ends within _) fun _ _ _ within =>
      .bind (endsWithin_resultAscription ends within _) fun _ _ _ within =>
        .ite (fun _ => .lax (.map (endsWithin_skipGroup within) fun _ _ => id)) fun _ =>
          endsWithin_optionalSemicolon within

theorem endsWithin_skipFunction (inside) : (rules.skipFunction c inside).EndsWithin n :=
  .andThen (endsWithin_expectKeyword within _) fun _ _ _ within =>
    .bind (endsWithin_optionalMark within (by decide)) fun _ _ _ within =>
      .bind (endsWithin_optional within rfl) fun _ _ _ within =>
        .lax (endsWithin_skipCallableTail ends within _)

theorem endsWithin_skipArrowHead (inside) : (rules.skipArrowHead c inside).EndsWithin n :=
  .bind (endsWithin_skipAnglesIfAny within) fun _ _ _ within =>
    .ite
      (fun _ => .andThen (endsWithin_skipGroup within) fun _ _ _ within =>
        .map (endsWithin_resultAscription ends within _) fun _ _ => id)
      fun _ => .map (endsWithin_expectName within) fun _ _ => id

theorem endsWithin_arrowFunction (start : Span) (inside) :
    (rules.arrowFunction start c inside).EndsWithin n := by
  refine .andThen (endsWithin_skipArrowHead ends within _) fun _ d _ within => ?_
  refine .andThen (endsWithin_expectMark within (by decide)) fun _ e _ within => ?_
  refine .ite (fun _ => ?_) fun _ => ?_
  · exact .andThen (endsWithin_skipGroup within) fun _ _ _ within => .ok within
  · exact .andThen (ends.assignment _ _ within) fun _ _ _ within => .ok within

end Functions

/-! ## Literals -/

theorem endsWithin_skipMethodWord {c : Cursor} (within : c.depth ≤ n) :
    (skipMethodWord c).EndsWithin n := by
  unfold skipMethodWord
  exact .ite (fun _ => endsWithin_optional within (by simp)) fun _ => .ok within

section Literals

variable (ends : rules.EndWithin) {c : Cursor} (within : c.depth ≤ n)

include ends within

theorem endsWithin_propertyValue (start : Span) (key : PropertyKey) (keySpan : Span)
    (isMethod : Bool) (inside) :
    (rules.propertyValue start key keySpan isMethod c inside).EndsWithin n := by
  unfold propertyValue
  refine .ite (fun _ => ?_) fun _ => ?_
  · exact .bind (.lax (endsWithin_skipCallableTail ends within _)) fun _ _ _ within => .ok within
  split
  · next past found =>
      exact .lax (.go (.andThen (ends.assignment _ _ (depth_mark?_le found (by decide) within))
        fun _ _ _ within => .ok within))
  · split
    · exact .bind (endsWithin_initial ends within _) fun _ _ _ within => .ok within
    · exact .fail
    · exact .fail

theorem endsWithin_propertyKey (inside) : (rules.propertyKey c inside).EndsWithin n := by
  unfold propertyKey
  split
  · next past found =>
      refine .go (.andThen (ends.assignment _ _ (depth_mark?_le found (by decide) within))
        fun _ d _ within => ?_)
      exact .andThen (endsWithin_expectMark within (by decide)) fun _ _ _ within => .ok within
  · exact .map (endsWithin_propertyName within) fun _ _ => id

theorem endsWithin_property (inside) : (rules.property c inside).EndsWithin n := by
  unfold property
  split
  · next past found =>
      exact .go (.andThen (ends.assignment _ _ (depth_mark?_le found (by decide) within))
        fun _ _ _ within => .ok within)
  · refine .bind (endsWithin_skipMethodWord within) fun _ c₁ _ within => ?_
    refine .bind (endsWithin_optionalMark within (by decide)) fun _ c₂ _ within => ?_
    refine .andThen (endsWithin_propertyKey ends within _) fun _ c₃ _ within => ?_
    exact endsWithin_propertyValue ends within _ _ _ _ _

/-- The properties of an object are read past the brace that closes it. -/
theorem endsWithin_object (inside) : (rules.object c inside).EndsWithin n := by
  refine .andThen (endsWithin_expect within (.mark .lbrace)) fun opened d _ within => ?_
  refine .andThen (endsWithin_elements _ (by decide) _ (fun c inside within =>
    endsWithin_property ends within inside) _ _ within) fun properties e _ within => .ok ?_
  simpa [Kind.closedBraces] using within

omit within in
theorem endsWithin_arrayElements (opening : Opening) (earlier : List Expression) {c : Cursor}
    (inside) (within : c.depth ≤ n) :
    (rules.arrayElements opening earlier c inside).EndsWithin n := by
  unfold arrayElements
  split
  · next past found => exact .go (.ok (depth_mark?_le found (by decide) within))
  refine .ite (fun _ => .fail) fun _ => ?_
  split
  · next past found =>
      have := past.less
      exact .go (endsWithin_arrayElements _ _ _ (depth_mark?_le found (by decide) within))
  refine .andThen (endsWithin_spreadable ends within _) fun element d less within => ?_
  split
  · next past found => exact .lax (.go (.ok (depth_mark?_le found (by decide) within)))
  · refine .lax (.andThen (endsWithin_expectMark within (by decide)) fun _ e further within => ?_)
    have : e.remaining < c.remaining := Nat.lt_trans further less
    exact endsWithin_arrayElements _ _ _ within
termination_by c.remaining

theorem endsWithin_array (inside) : (rules.array c inside).EndsWithin n :=
  .andThen (endsWithin_expectMark within (by decide)) fun _ _ _ within =>
    .andThen (endsWithin_arrayElements ends _ _ _ within) fun _ _ _ within => .ok within

end Literals

/-! ## Operands -/

section Operands

variable (ends : rules.EndWithin) {c : Cursor} (within : c.depth ≤ n)

include ends within

theorem endsWithin_asyncOrName (start : Span) (inside) :
    (rules.asyncOrName start c inside).EndsWithin n :=
  .ite
    (fun _ => .bind (.lax (endsWithin_skipFunction ends within _)) fun _ _ _ within => .ok within)
    fun _ => .ok within

theorem endsWithin_classExpression (inside) : (rules.classExpression c inside).EndsWithin n :=
  .bind (endsWithin_decorators ends _ _ within) fun _ _ _ within =>
    .andThen (endsWithin_expectKeyword within _) fun _ _ _ within =>
      .andThen (endsWithin_skipClassTail within) fun _ _ _ within => .ok within

theorem endsWithin_primary (inside) : (rules.primary c inside).EndsWithin n := by
  unfold primary
  split
  · exact .fail
  next past isNext =>
  have rest (other : past.token.kind ≠ .mark .lbrace) := depth_rest_le isNext other within
  have single {form : ExpressionForm} (other : past.token.kind ≠ .mark .lbrace) :
      (past.go (.ok (past.rest.expressionFrom past.token.span form)) :
        Outcome true c Expression).EndsWithin n :=
    .go (.ok (rest other))
  dsimp only
  split
  · next kind => exact .go (endsWithin_asyncOrName ends (rest (by simp [kind])) _ _)
  · next kind => exact single (by simp [kind])
  · next kind => exact single (by simp [kind])
  · next kind => exact single (by simp [kind])
  · next kind => exact single (by simp [kind])
  · next kind => exact single (by simp [kind])
  · next kind => exact single (by simp [kind])
  · next kind => exact single (by simp [kind])
  · next kind => exact single (by simp [kind])
  · next kind => exact single (by simp [kind])
  · next kind =>
      refine .go (.andThen (ends.expression _ _ (rest (by simp [kind]))) fun _ d _ within => ?_)
      exact .map (.mapError (endsWithin_expectMark within (by decide))) fun _ _ => id
  · exact endsWithin_object ends within _
  · exact endsWithin_array ends within _
  · exact .andThen (endsWithin_skipFunction ends within _) fun _ _ _ within => .ok within
  · exact endsWithin_classExpression ends within _
  · exact endsWithin_classExpression ends within _
  · exact .fail

theorem endsWithin_indexElement (inside) : (rules.indexElement c inside).EndsWithin n :=
  .andThen (ends.expression _ _ within) fun _ _ _ within =>
    .map (endsWithin_expectMark within (by decide)) fun _ _ => id

omit within in
theorem endsWithin_constructedClass (start : Span) (callee : Expression) {c : Cursor} (inside)
    (within : c.depth ≤ n) : (rules.constructedClass start callee c inside).EndsWithin n := by
  unfold constructedClass
  dsimp only
  split
  · next past found =>
      have := past.less
      refine .lax (.go (.andThen
        (endsWithin_propertyName (depth_mark?_le found (by decide) within))
        fun _ d _ within => ?_))
      exact endsWithin_constructedClass _ _ _ within
  split
  · next past found =>
      have := past.less
      refine .lax (.go (.andThen
        (endsWithin_indexElement ends (depth_mark?_le found (by decide) within) _)
        fun _ d _ within => ?_))
      exact endsWithin_constructedClass _ _ _ within
  · exact .ok within
termination_by c.remaining

theorem endsWithin_constructionAfter (start : Span) (inside) :
    (rules.constructionAfter start c inside).EndsWithin n := by
  refine .andThen (.ite (fun _ => ends.construction _ _ within) fun _ =>
    endsWithin_primary ends within _) fun callee c₁ _ within => ?_
  refine .bind (endsWithin_constructedClass ends _ _ _ within) fun callee c₂ _ within => ?_
  refine .bind (endsWithin_skipAnglesIfAny within) fun _ c₃ _ within => ?_
  exact .bind (endsWithin_optionalArguments ends within _) fun _ _ _ within => .ok within

theorem endsWithin_newExpression (inside) : (rules.newExpression c inside).EndsWithin n := by
  refine .andThen (endsWithin_expectKeyword within _) fun word d _ within => ?_
  split
  · next past found =>
      exact .lax (.go (.andThen
        (endsWithin_propertyName (depth_mark?_le found (by decide) within))
        fun _ _ _ within => .ok within))
  · exact .lax (endsWithin_constructionAfter ends within _ _)

omit within in
theorem endsWithin_suffixes (start : Span) (operand : Expression) {c : Cursor} (inside)
    (within : c.depth ≤ n) : (rules.suffixes start operand c inside).EndsWithin n := by
  unfold suffixes
  split
  · exact .ok within
  next past isNext =>
  have := past.less
  have rest (other : past.token.kind ≠ .mark .lbrace) := depth_rest_le isNext other within
  have member {start : Span} {operand : Expression} {d : Cursor} (fewer : d.remaining < c.remaining)
      (within : d.depth ≤ n) (inside) : (rules.suffixes start operand d inside).EndsWithin n :=
    endsWithin_suffixes _ _ _ within
  dsimp only
  split
  · next kind =>
      exact .lax (.go (.andThen (endsWithin_propertyName (rest (by simp [kind])))
        fun _ d less within => member (Nat.lt_trans less past.less) within _))
  · next kind =>
      have within := rest (by simp [kind])
      refine .ite (fun _ => ?_) fun _ => ?_
      · exact .lax (.go (.andThen (endsWithin_arguments ends within _)
          fun _ d less within => member (Nat.lt_trans less past.less) within _))
      split
      · next opened found =>
          refine .lax (.go (.go (.andThen
            (endsWithin_indexElement ends (depth_mark?_le found (by decide) within) _)
            fun _ d less within => member ?_ within _)))
          exact Nat.lt_trans less (Nat.lt_trans opened.less past.less)
      · exact .lax (.go (.andThen (endsWithin_propertyName within)
          fun _ d less within => member (Nat.lt_trans less past.less) within _))
  · next kind =>
      exact .lax (.go (.andThen (endsWithin_indexElement ends (rest (by simp [kind])) _)
        fun _ d less within => member (Nat.lt_trans less past.less) within _))
  · exact .lax (.andThen (endsWithin_arguments ends within _)
      fun _ d less within => member less within _)
  · refine .tried (endsWithin_typeArguments ends within _) (fun _ d reaches fewer within => ?_)
      (.ok within)
    refine .ite (fun _ => ?_) fun _ => .ok ‹_›
    exact .lax (.following (.andThen (endsWithin_arguments ends within _)
      fun _ e less within => member (Nat.lt_of_lt_of_le less fewer) within _))
  · next kind => exact .lax (.go (member past.less (rest (by simp [kind])) _))
  · next kind => exact .lax (.go (member past.less (rest (by simp [kind])) _))
  · exact .ok within
termination_by c.remaining

theorem endsWithin_suffixed (inside) : (rules.suffixed c inside).EndsWithin n :=
  .andThen (.ite (fun _ => endsWithin_newExpression ends within _) fun _ =>
    endsWithin_primary ends within _) fun _ _ _ within => endsWithin_suffixes ends _ _ _ within

/-! ## Operators -/

theorem endsWithin_operand (inside) : (rules.operand c inside).EndsWithin n := by
  unfold operand
  have suffixed := endsWithin_suffixed ends within inside
  split
  · exact suffixed
  next past isNext =>
  refine .ite (fun sees => ?_) fun _ => .ite (fun _ => ?_) fun _ => suffixed
  · have noBrace : past.token.kind ≠ .mark .lbrace := by
      intro brace
      rw [seesPrefixOperator, kind?_of_kinds (kinds_of_next? isNext), brace] at sees
      cases sees
    exact .go (.andThen (ends.unary _ _ (depth_rest_le isNext noBrace within))
      fun _ _ _ within => .ok within)
  · exact .andThen (endsWithin_skipAngles within) fun _ _ _ within =>
      .lax (ends.unary _ _ within)

theorem endsWithin_skipAssertedType (inside) : (rules.skipAssertedType c inside).EndsWithin n := by
  unfold skipAssertedType
  split
  · next past found => exact .go (.ok (depth_keyword?_le found within))
  · exact .map (ends.type _ _ within) fun _ _ => id

omit within in
theorem endsWithin_operators (least : Nat) (start : Span) (left : Expression) {c : Cursor} (inside)
    (within : c.depth ≤ n) : (rules.operators least start left c inside).EndsWithin n := by
  unfold operators
  split
  · exact .ok within
  next past isNext =>
  have := past.less
  dsimp only
  refine .ite (fun isWord => ?_) fun _ => ?_
  · have noBrace : past.token.kind ≠ .mark .lbrace := by
      rintro brace
      simp [brace] at isWord
    refine .lax (.go (.andThen
      (endsWithin_skipAssertedType ends (depth_rest_le isNext noBrace within) _)
      fun _ d less within => ?_))
    exact endsWithin_operators _ _ _ _ within
  split
  · exact .ok within
  next precedence isOperator =>
  have noBrace : past.token.kind ≠ .mark .lbrace := by
    intro brace
    rw [operatorPrecedence?, kind?_of_kinds (kinds_of_next? isNext), brace] at isOperator
    cases isOperator
  have within' := depth_rest_le isNext noBrace within
  refine .ite (fun _ => .ok within) fun _ => .lax (.go (.bind
    (.ite (fun _ => endsWithin_optionalMark within' (by decide)) fun _ => .ok within')
    fun _ d fewer within => .lax (.andThen (ends.binary _ _ _ within) fun _ e less within => ?_)))
  have : e.remaining < c.remaining := by omega
  exact endsWithin_operators _ _ _ _ within
termination_by c.remaining

theorem endsWithin_binaryFrom (least : Nat) (inside) :
    (rules.binaryFrom least c inside).EndsWithin n :=
  .andThen (endsWithin_operand ends within _) fun _ _ _ within =>
    endsWithin_operators ends _ _ _ _ within

theorem endsWithin_conditional (inside) : (rules.conditional c inside).EndsWithin n := by
  refine .andThen (endsWithin_binaryFrom ends within _ _) fun test c₁ _ within => ?_
  split
  · exact .ok within
  next past found =>
  refine .lax (.go (.andThen (ends.assignment _ _ (depth_mark?_le found (by decide) within))
    fun _ c₂ _ within => ?_))
  refine .andThen (endsWithin_expectMark within (by decide)) fun _ c₃ _ within => ?_
  exact .andThen (ends.assignment _ _ within) fun _ _ _ within => .ok within

theorem endsWithin_assignedValue (start : Span) (target : Expression) (inside) :
    (rules.assignedValue start target c inside).EndsWithin n := by
  have noBrace {past : c.Past} (found : c.nextIf? (fun _ => c.seesCompoundAssignment) = some past) :
      past.token.kind ≠ .mark .lbrace := by
    obtain ⟨isNext, sees⟩ := next?_of_nextIf? found
    intro brace
    rw [seesCompoundAssignment, kind?_of_kinds (kinds_of_next? isNext), brace] at sees
    simp [Kind.precedence?, Mark.precedence?] at sees
  have operator : (c.optional fun _ => c.seesCompoundAssignment).EndsWithin n := by
    unfold Cursor.optional
    split
    · next past found =>
        exact .lax (.go (.ok (depth_rest_le (next?_of_nextIf? found).1 (noBrace found) within)))
    · exact .ok within
  refine .bind operator fun _ d _ within => ?_
  split
  · exact .ok within
  · next past found =>
      exact .lax (.go (.andThen (ends.assignment _ _ (depth_mark?_le found (by decide) within))
        fun _ _ _ within => .ok within))

theorem endsWithin_assignmentFrom (inside) : (rules.assignmentFrom c inside).EndsWithin n := by
  have conditional : ((rules.conditional c inside).andThen fun target d less =>
      rules.assignedValue c.span target d (Cursor.lt_of_lt_of_le less inside)).EndsWithin n :=
    .andThen (endsWithin_conditional ends within _) fun _ _ _ within =>
      endsWithin_assignedValue ends within _ _ _
  unfold assignmentFrom
  split
  · next past found =>
      refine .ite (fun _ => .go ?_) fun _ => .ite (fun _ => ?_) fun _ => conditional
      · exact endsWithin_arrowFunction ends (depth_name?_le found within) _ _
      · exact endsWithin_arrowFunction ends within _ _
  · exact .ite (fun _ => endsWithin_arrowFunction ends within _ _) fun _ => conditional

omit within in
theorem endsWithin_sequence (start : Span) (left : Expression) {c : Cursor} (inside)
    (within : c.depth ≤ n) : (rules.sequence start left c inside).EndsWithin n := by
  unfold sequence
  split
  · exact .ok within
  · next past found =>
      have := past.less
      refine .lax (.go (.andThen (ends.assignment _ _ (depth_mark?_le found (by decide) within))
        fun _ d _ within => ?_))
      exact endsWithin_sequence _ _ _ within
termination_by c.remaining

theorem endsWithin_expressionWhole (inside) : (rules.expressionWhole c inside).EndsWithin n :=
  .andThen (endsWithin_assignmentFrom ends within _) fun _ _ _ within =>
    endsWithin_sequence ends _ _ _ within

end Operands

/-! ## All rules -/

/-- **A rule that succeeds stops in no more braces than it started in**, by induction on the tokens
ahead. -/
theorem endWithin_all (limit : Cursor) : (all limit).EndWithin := by
  have inner {c : Cursor} (inside : c.remaining < limit.remaining) : (all c).EndWithin :=
    endWithin_all c
  constructor
  all_goals rw [all]
  case assignment =>
    exact fun c inside within => endsWithin_assignmentFrom (inner inside) within c.le_self
  case expression =>
    exact fun c inside within => endsWithin_expressionWhole (inner inside) within c.le_self
  case binary =>
    exact fun least c inside within => endsWithin_binaryFrom (inner inside) within least c.le_self
  case unary => exact fun c inside within => endsWithin_operand (inner inside) within c.le_self
  case construction =>
    exact fun c inside within => endsWithin_newExpression (inner inside) within c.le_self
  case type => exact fun c inside within => endsWithin_fullType (inner inside) within c.le_self
  case typeOperand =>
    exact fun c inside within => endsWithin_operandType (inner inside) within c.le_self
termination_by limit.remaining

end Rules

end InjectionCheck
