import InjectionCheck.Grammar.Types

/-!
# Expressions

The rules for expressions. Objects, arrays, calls and member access are kept, since
configurations are built from them; functions and classes are passed and give
`ExpressionForm.function`.

Whether an arrow function starts is decided by looking ahead. A `<` after an operand
may start type arguments or be a comparison: the type arguments are tried, and if
they do not parse, or no arguments follow, the rule goes on from before the `<`.
-/

set_option autoImplicit false

namespace InjectionCheck

namespace Cursor

/-- An expression of a given form from a given start up to the last token passed. -/
def expressionFrom (c : Cursor) (start : Span) (form : ExpressionForm) : Expression :=
  ⟨form, c.spanFrom start⟩

/-- Whether an assignment that also applies an operator is next: its sign is cut
into the operator and an equals sign. -/
def seesCompoundAssignment (c : Cursor) : Bool :=
  c.peek? 1 = some (.mark .eq) && (c.kind?.bind Kind.precedence?).isSome

/-- How tightly the next token binds as a binary operator, if it is one. -/
def operatorPrecedence? (c : Cursor) : Option Nat :=
  match c.kind? with
  | some (.name "instanceof") | some (.name "in") => some 7
  | some kind => kind.precedence?
  | none => none

/-- Passes the heritage clauses of a class without a name, up to its body. -/
def skipHeritage (c : Cursor) : Outcome false c Unit :=
  match c.next? with
  | none => .fail (c.expected .classBody)
  | some past =>
    match past.token.kind with
    | .mark .lbrace => .ok ()
    | .mark .lt =>
      (c.skipAngles.andThen fun _ d _ => skipHeritage d).lax
    | .mark .lparen =>
      (c.skipGroup.andThen fun _ d _ => skipHeritage d).lax
    | _ =>
      have := past.less
      (past.go (skipHeritage past.rest)).lax
termination_by c.remaining
decreasing_by all_goals omega

/-- Passes the heritage clauses and the body of a class without a name. -/
def skipClassTail (c : Cursor) : Outcome true c Unit :=
  c.skipHeritage.bind fun _ d _ => d.skipGroup.map fun _ => ()

end Cursor

/-- Whether a token behind `await` or `delete` shows that the word is a name. -/
def Kind.endsOperand : Kind → Bool
  | .mark .semicolon | .mark .comma | .mark .rparen | .mark .rbrace | .mark .rbracket
  | .mark .dot | .mark .eq | .mark .colon => true
  | _ => false

/-- Whether a token is an operator in front of an operand. -/
def Kind.isPrefixOperator : Kind → Bool
  | .mark .bang | .mark .minus | .mark .plus | .mark .tilde | .keyword .typeof_
  | .keyword .void_ => true
  | _ => false

namespace Rules

variable {limit : Cursor}

/-! ## Functions -/

/-- Passes the parameters, return type and body of a function after its name. -/
def skipCallableTail (rules : Rules limit) (c : Cursor) (inside : c.remaining ≤ limit.remaining) :
    Outcome true c Unit :=
  c.skipAnglesIfAny.bind fun _ c₁ atMost =>
    have inside₁ := Cursor.le_trans atMost inside
    (rules.parameters c₁ inside₁).andThen fun _ c₂ less =>
      have inside₂ := Cursor.lt_of_lt_of_le less inside₁
      (rules.resultAscription c₂ (Cursor.le_of_lt inside₂)).bind fun _ c₃ _ =>
        if c₃.seesMark .lbrace then (c₃.skipGroup.map fun _ => ()).lax
        else c₃.optionalSemicolon

/-- Passes a function. -/
def skipFunction (rules : Rules limit) (c : Cursor) (inside : c.remaining ≤ limit.remaining) :
    Outcome true c Unit :=
  (c.expectKeyword .function_).andThen fun _ c₁ less =>
    have inside₁ := Cursor.lt_of_lt_of_le less inside
    (c₁.optionalMark .star).bind fun _ c₂ atMost₂ =>
      have inside₂ := Cursor.le_trans atMost₂ (Cursor.le_of_lt inside₁)
      (c₂.optional fun kind => kind matches .name _).bind fun _ c₃ atMost₃ =>
        (rules.skipCallableTail c₃ (Cursor.le_trans atMost₃ inside₂)).lax

/-- Passes the parameters of an arrow function with its return type, or its only
parameter. -/
def skipArrowHead (rules : Rules limit) (c : Cursor) (inside : c.remaining ≤ limit.remaining) :
    Outcome true c Unit :=
  c.skipAnglesIfAny.bind fun _ d atMost =>
    if d.seesMark .lparen then
      d.skipGroup.andThen fun _ e less =>
        have behind := Cursor.lt_of_lt_of_le less (Cursor.le_trans atMost inside)
        (rules.resultAscription e (Cursor.le_of_lt behind)).map fun _ => ()
    else d.expectName.map fun _ => ()

/-- Passes an arrow function. -/
def arrowFunction (rules : Rules limit) (start : Span) (c : Cursor)
    (inside : c.remaining ≤ limit.remaining) : Outcome true c Expression :=
  (rules.skipArrowHead c inside).andThen fun _ d _ =>
    (d.expectMark .arrow).andThen fun _ e _ =>
      if e.seesMark .lbrace then
        e.skipGroup.andThen fun _ f _ => .ok (f.expressionFrom start .function)
      else
        (rules.assignment e (by omega)).andThen fun _ f _ =>
          .ok (f.expressionFrom start .function)

/-! ## Literals -/

/-- The value of a property after its name: a function, a value, or the value that
the name has. -/
def propertyValue (rules : Rules limit) (start : Span) (key : PropertyKey) (keySpan : Span)
    (isMethod : Bool) (c : Cursor) (inside : c.remaining < limit.remaining) :
    Outcome false c Property :=
  if isMethod || startsSignature c then
    (rules.skipCallableTail c (Cursor.le_of_lt inside)).lax.bind fun _ d _ =>
      .ok ⟨key, d.expressionFrom keySpan .function, d.spanFrom start⟩
  else
    match c.mark? .colon with
    | some past =>
      (past.go ((rules.assignment past.rest (past.lt_of_lt inside)).andThen fun value d _ =>
        .ok ⟨key, value, d.spanFrom start⟩)).lax
    | none =>
      match key with
      | .named name =>
        (rules.initial c inside).bind fun _ d _ =>
          .ok ⟨key, ⟨.name name, keySpan⟩, d.spanFrom start⟩
      | .computed | .spread => .fail (c.expected (.token (some (.mark .colon))))

/-- Passes a word in front of a method, if a name follows it, and says whether it
did. -/
def skipMethodWord (c : Cursor) : Outcome false c Bool :=
  if c.namesProperty 1 || c.peek? 1 = some (.mark .lbracket) then
    c.optional fun kind =>
      kind = .name "get" || kind = .name "set" || kind = .name "async"
  else .ok false

/-- The name of a property, or a computed name in brackets, with its span. -/
def propertyKey (rules : Rules limit) (c : Cursor) (inside : c.remaining ≤ limit.remaining) :
    Outcome true c (PropertyKey × Span) :=
  match c.mark? .lbracket with
  | some past =>
    past.go ((rules.assignment past.rest (past.lt_of_le inside)).andThen fun _ d _ =>
      (d.expectMark .rbracket).andThen fun _ e _ =>
        (.ok (.computed, e.spanFrom past.token.span) :
          Outcome false e (PropertyKey × Span)))
  | none =>
    c.propertyName.map fun property =>
      (match property.name with
        | some name => .named name
        | none => .computed, property.span)

/-- A property of an object literal. -/
def property (rules : Rules limit) (c : Cursor) (inside : c.remaining < limit.remaining) :
    Outcome true c Property :=
  match c.mark? .ellipsis with
  | some past =>
    past.go ((rules.assignment past.rest (past.lt_of_lt inside)).andThen fun value d _ =>
      .ok ⟨.spread, value, d.spanFrom past.token.span⟩)
  | none =>
    (skipMethodWord c).bind fun isAccessor c₁ _ =>
      (c₁.optionalMark .star).bind fun isGenerator c₂ _ =>
        (rules.propertyKey c₂ (by omega)).andThen fun key c₃ _ =>
          rules.propertyValue c.span key.1 key.2 (isAccessor || isGenerator) c₃ (by omega)

/-- An object literal. -/
def object (rules : Rules limit) (c : Cursor) (inside : c.remaining ≤ limit.remaining) :
    Outcome true c Expression :=
  (c.expectMark .lbrace).andThen fun opened d less =>
    (elements ⟨.lbrace, opened.span⟩ .rbrace id rules.property [] d
      (Cursor.lt_of_lt_of_le less inside)).andThen
      fun properties e _ =>
        (.ok (e.expressionFrom opened.span (.object properties)) : Outcome false e Expression)

/-- The elements of an array up to and past its closing bracket. Elements that are
left out do not count. -/
def arrayElements (rules : Rules limit) (opening : Opening) (earlier : List Expression)
    (c : Cursor) (inside : c.remaining < limit.remaining) : Outcome true c (List Expression) :=
  match c.mark? .rbracket with
  | some past => past.go (.ok earlier.reverse)
  | none =>
    if c.atEnd then .fail (.unclosed opening .rbracket c.span)
    else
      match c.mark? .comma with
      | some past =>
        have := past.less
        past.go (arrayElements rules opening earlier past.rest (past.lt_of_lt inside))
      | none =>
        (rules.spreadable c inside).andThen fun element d less =>
          match d.mark? .rbracket with
          | some past => (past.go (.ok (element :: earlier).reverse)).lax
          | none =>
            have behind := Cursor.lt_trans less inside
            ((d.expectMark .comma).andThen fun _ e further =>
              arrayElements rules opening (element :: earlier) e
                (Cursor.lt_trans further behind)).lax
termination_by c.remaining
decreasing_by all_goals omega

/-- An array literal. -/
def array (rules : Rules limit) (c : Cursor) (inside : c.remaining ≤ limit.remaining) :
    Outcome true c Expression :=
  (c.expectMark .lbracket).andThen fun opened d less =>
    (rules.arrayElements ⟨.lbracket, opened.span⟩ [] d
      (Cursor.lt_of_lt_of_le less inside)).andThen
      fun members e _ =>
        (.ok (e.expressionFrom opened.span (.array members)) : Outcome false e Expression)

/-! ## Operands -/

/-- A function after the word `async`, or the word as a name. -/
def asyncOrName (rules : Rules limit) (start : Span) (c : Cursor)
    (inside : c.remaining ≤ limit.remaining) : Outcome false c Expression :=
  if c.kind? = some (.keyword .function_) then
    (rules.skipFunction c inside).lax.bind fun _ d _ =>
      .ok (d.expressionFrom start .function)
  else .ok (c.expressionFrom start (.name "async"))

/-- A class expression, with its decorators. -/
def classExpression (rules : Rules limit) (c : Cursor) (inside : c.remaining ≤ limit.remaining) :
    Outcome true c Expression :=
  (rules.decorators [] c inside).bind fun _ d _ =>
    (d.expectKeyword .class_).andThen fun _ e _ =>
      e.skipClassTail.andThen fun _ f _ =>
        (.ok (f.expressionFrom c.span .function) : Outcome false f Expression)

/-- An operand without operators. -/
def primary (rules : Rules limit) (c : Cursor) (inside : c.remaining ≤ limit.remaining) :
    Outcome true c Expression :=
  match c.next? with
  | none => .fail (c.expected .expression)
  | some past =>
    let start := past.token.span
    let single (form : ExpressionForm) : Outcome true c Expression :=
      past.go (.ok (past.rest.expressionFrom start form))
    match past.token.kind with
    | .name "async" => past.go (rules.asyncOrName start past.rest (past.le_of_le inside))
    | .name text => single (.name text)
    | .string content => single (.string content)
    | .template => single .template
    | .number => single .number
    | .keyword .true_ => single (.boolean true)
    | .keyword .false_ => single (.boolean false)
    | .keyword .null_ => single .null
    | .keyword .this_ => single .this
    | .keyword .import_ => single (.name "import")
    | .mark .lparen =>
      past.go ((rules.expression past.rest (past.lt_of_le inside)).andThen fun inner d _ =>
        ((d.expectMark .rparen).mapError (.inside ⟨.lparen, start⟩)).map fun _ => inner)
    | .mark .lbrace => rules.object c inside
    | .mark .lbracket => rules.array c inside
    | .keyword .function_ =>
      (rules.skipFunction c inside).andThen fun _ d _ =>
        .ok (d.expressionFrom start .function)
    | .keyword .class_ | .mark .at => rules.classExpression c inside
    | _ => .fail (c.expected .expression)

/-- The element of an index expression, past its opening bracket and up to and past
its closing one. -/
def indexElement (rules : Rules limit) (c : Cursor) (inside : c.remaining < limit.remaining) :
    Outcome true c Expression :=
  (rules.expression c inside).andThen fun index d _ =>
    (d.expectMark .rbracket).map fun _ => index

/-- The member and index accesses behind the class of a construction. -/
def constructedClass (rules : Rules limit) (start : Span) (callee : Expression) (c : Cursor)
    (inside : c.remaining < limit.remaining) : Outcome false c Expression :=
  have atMost := Cursor.le_of_lt inside
  match c.mark? .dot with
  | some past =>
    have := past.less
    (past.go (past.rest.propertyName.andThen fun property d less =>
      constructedClass rules start
        (d.expressionFrom start (.member callee (property.name.getD ""))) d
        (past.after_lt less atMost))).lax
  | none =>
    match c.mark? .lbracket with
    | some past =>
      have := past.less
      (past.go ((rules.indexElement past.rest (past.lt_of_lt inside)).andThen
        fun index d less =>
          constructedClass rules start (d.expressionFrom start (.index callee index)) d
            (past.after_lt less atMost))).lax
    | none => .ok callee
termination_by c.remaining
decreasing_by all_goals omega

/-- A construction after its word: the class, type arguments, and arguments if there
are any. -/
def constructionAfter (rules : Rules limit) (start : Span) (c : Cursor)
    (inside : c.remaining < limit.remaining) : Outcome true c Expression :=
  (if c.kind? = some (.keyword .new_) then rules.construction c inside
    else rules.primary c (Cursor.le_of_lt inside)).andThen fun callee c₁ _ =>
      (rules.constructedClass c.span callee c₁ (by omega)).bind fun callee c₂ _ =>
        c₂.skipAnglesIfAny.bind fun _ c₃ _ =>
          (rules.optionalArguments c₃ (by omega)).bind fun arguments c₄ _ =>
            (.ok (c₄.expressionFrom start (.construct callee arguments)) :
              Outcome false c₄ Expression)

/-- The construction of an object. -/
def newExpression (rules : Rules limit) (c : Cursor) (inside : c.remaining ≤ limit.remaining) :
    Outcome true c Expression :=
  (c.expectKeyword .new_).andThen fun word d less =>
    match d.mark? .dot with
    | some past =>
      (past.go (past.rest.propertyName.andThen fun property e _ =>
        (.ok (e.expressionFrom word.span
          (.member ⟨.name "new", word.span⟩ (property.name.getD ""))) :
            Outcome false e Expression))).lax
    | none => (rules.constructionAfter word.span d (Cursor.lt_of_lt_of_le less inside)).lax

/-- The accesses, calls and other signs behind an operand. -/
def suffixes (rules : Rules limit) (start : Span) (operand : Expression) (c : Cursor)
    (inside : c.remaining < limit.remaining) : Outcome false c Expression :=
  match c.next? with
  | none => .ok operand
  | some past =>
    have := past.less
    have atMost := Cursor.le_of_lt inside
    have behind := past.lt_of_lt inside
    match past.token.kind with
    | .mark .dot =>
      (past.go (past.rest.propertyName.andThen fun property d less =>
        suffixes rules start
          (d.expressionFrom start (.member operand (property.name.getD ""))) d
          (past.after_lt less atMost))).lax
    | .mark .questionDot =>
      if past.rest.seesMark .lparen then
        (past.go ((rules.arguments past.rest (past.le_of_le atMost)).andThen
          fun arguments d less =>
            suffixes rules start (d.expressionFrom start (.call operand [] arguments)) d
              (past.after_lt less atMost))).lax
      else
        match past.rest.mark? .lbracket with
        | some opened =>
          have := opened.less
          have inner := opened.lt_of_lt behind
          (past.go (opened.go ((rules.indexElement opened.rest inner).andThen
            fun index d less =>
              suffixes rules start (d.expressionFrom start (.index operand index)) d
                (Cursor.lt_trans less inner)))).lax
        | none =>
          (past.go (past.rest.propertyName.andThen fun property d less =>
            suffixes rules start
              (d.expressionFrom start (.member operand (property.name.getD ""))) d
              (past.after_lt less atMost))).lax
    | .mark .lbracket =>
      (past.go ((rules.indexElement past.rest behind).andThen fun index d less =>
        suffixes rules start (d.expressionFrom start (.index operand index)) d
          (past.after_lt less atMost))).lax
    | .mark .lparen =>
      ((rules.arguments c atMost).andThen fun arguments d less =>
        suffixes rules start (d.expressionFrom start (.call operand [] arguments)) d
          (Cursor.lt_trans less inside)).lax
    | .mark .lt =>
      (rules.typeArguments c atMost).tried
        (fun typeArguments d reaches fewer =>
          have outer := Cursor.le_trans fewer atMost
          if d.seesMark .lparen then
            (((rules.arguments d outer).andThen fun arguments e less =>
              suffixes rules start
                (e.expressionFrom start (.call operand typeArguments arguments)) e
                (Cursor.lt_of_lt_of_le less outer)).following reaches).lax
          else .ok operand)
        (.ok operand)
    | .mark .bang => (past.go (suffixes rules start operand past.rest behind)).lax
    | .template =>
      (past.go (suffixes rules start (past.rest.expressionFrom start .template) past.rest
        behind)).lax
    | _ => .ok operand
termination_by c.remaining
decreasing_by all_goals omega

/-- An operand with the signs behind it. -/
def suffixed (rules : Rules limit) (c : Cursor) (inside : c.remaining ≤ limit.remaining) :
    Outcome true c Expression :=
  (if c.kind? = some (.keyword .new_) then rules.newExpression c inside
    else rules.primary c inside).andThen fun operand d less =>
      rules.suffixes c.span operand d (Cursor.lt_of_lt_of_le less inside)

/-! ## Operators -/

/-- Whether an operator in front of an operand is next. -/
def seesPrefixOperator (c : Cursor) : Bool :=
  match c.kind? with
  | some (.name "await") | some (.name "delete") =>
    (c.peek? 1).any fun kind => !kind.endsOperand
  | some kind => kind.isPrefixOperator
  | none => false

/-- An operand with the operators in front of it. -/
def operand (rules : Rules limit) (c : Cursor) (inside : c.remaining ≤ limit.remaining) :
    Outcome true c Expression :=
  match c.next? with
  | none => rules.suffixed c inside
  | some past =>
    if seesPrefixOperator c then
      past.go ((rules.unary past.rest (past.lt_of_le inside)).andThen fun operand d _ =>
        .ok (d.expressionFrom past.token.span (.unary operand)))
    else if past.token.kind = .mark .lt then
      c.skipAngles.andThen fun _ d less =>
        (rules.unary d (Cursor.lt_of_lt_of_le less inside)).lax
    else rules.suffixed c inside

/-- Passes the type of an assertion behind an operand. -/
def skipAssertedType (rules : Rules limit) (c : Cursor) (inside : c.remaining < limit.remaining) :
    Outcome true c Unit :=
  match c.keyword? .const_ with
  | some past => past.go (.ok ())
  | none => (rules.type c inside).map fun _ => ()

/-- The operators behind an operand that bind at least as tightly as a number says,
with their other operands. A type assertion changes nothing. -/
def operators (rules : Rules limit) (least : Nat) (start : Span) (left : Expression) (c : Cursor)
    (inside : c.remaining < limit.remaining) : Outcome false c Expression :=
  match c.next? with
  | none => .ok left
  | some past =>
    have := past.less
    have atMost := Cursor.le_of_lt inside
    if past.token.kind = .name "as" ∨ past.token.kind = .name "satisfies" then
      (past.go ((rules.skipAssertedType past.rest (past.lt_of_lt inside)).andThen fun _ d less =>
        operators rules least start left d (past.after_lt less atMost))).lax
    else
      match c.operatorPrecedence? with
      | none => .ok left
      | some precedence =>
        if precedence < least ∨ c.seesCompoundAssignment then .ok left
        else
          (past.go ((if past.token.kind = .mark .star then past.rest.optionalMark .star
            else .ok false).bind fun _ d fewer =>
              have behind := past.after_lt_of_le fewer atMost
              ((rules.binary (precedence + 1) d behind).andThen fun right e less =>
                operators rules least start (e.expressionFrom start (.binary left right)) e
                  (Cursor.lt_trans less behind)).lax)).lax
termination_by c.remaining
decreasing_by all_goals omega

/-- Operands joined by operators that bind at least as tightly as a number says. -/
def binaryFrom (rules : Rules limit) (least : Nat) (c : Cursor)
    (inside : c.remaining ≤ limit.remaining) : Outcome true c Expression :=
  (rules.operand c inside).andThen fun left d less =>
    rules.operators least c.span left d (Cursor.lt_of_lt_of_le less inside)

/-- A conditional expression, or its test alone. -/
def conditional (rules : Rules limit) (c : Cursor) (inside : c.remaining ≤ limit.remaining) :
    Outcome true c Expression :=
  (rules.binaryFrom 1 c inside).andThen fun test c₁ less₁ =>
    match c₁.mark? .question with
    | none => .ok test
    | some past =>
      have inside₁ := Cursor.lt_of_lt_of_le less₁ inside
      (past.go ((rules.assignment past.rest (past.lt_of_lt inside₁)).andThen
        fun consequent c₂ less₂ =>
        (c₂.expectMark .colon).andThen fun _ c₃ less₃ =>
          have inside₂ := past.after_lt less₂ (Cursor.le_of_lt inside₁)
          (rules.assignment c₃ (Cursor.lt_trans less₃ inside₂)).andThen fun alternative c₄ _ =>
            (.ok (c₄.expressionFrom c.span (.conditional test consequent alternative)) :
              Outcome false c₄ Expression))).lax

/-- The value after the sign of an assignment, or the target alone. -/
def assignedValue (rules : Rules limit) (start : Span) (target : Expression) (c : Cursor)
    (inside : c.remaining < limit.remaining) : Outcome false c Expression :=
  (c.optional fun _ => c.seesCompoundAssignment).bind fun _ d _ =>
    match d.mark? .eq with
    | none => .ok target
    | some past =>
      have := past.less
      (past.go ((rules.assignment past.rest (by omega)).andThen fun value e _ =>
        .ok (e.expressionFrom start (.binary target value)))).lax

/-- An expression without a comma at its top. -/
def assignmentFrom (rules : Rules limit) (c : Cursor) (inside : c.remaining ≤ limit.remaining) :
    Outcome true c Expression :=
  match c.name? "async" with
  | some past =>
    if Lookahead.startsArrow past.rest.ahead then
      past.go (rules.arrowFunction c.span past.rest (past.le_of_le inside))
    else if Lookahead.startsArrow c.ahead then rules.arrowFunction c.span c inside
    else
      (rules.conditional c inside).andThen fun target d less =>
        rules.assignedValue c.span target d (Cursor.lt_of_lt_of_le less inside)
  | none =>
    if Lookahead.startsArrow c.ahead then rules.arrowFunction c.span c inside
    else
      (rules.conditional c inside).andThen fun target d less =>
        rules.assignedValue c.span target d (Cursor.lt_of_lt_of_le less inside)

/-- The further parts of an expression, after commas. -/
def sequence (rules : Rules limit) (start : Span) (left : Expression) (c : Cursor)
    (inside : c.remaining < limit.remaining) : Outcome false c Expression :=
  match c.mark? .comma with
  | none => .ok left
  | some past =>
    have := past.less
    have atMost := Cursor.le_of_lt inside
    (past.go ((rules.assignment past.rest (past.lt_of_lt inside)).andThen fun right d less =>
      sequence rules start (d.expressionFrom start (.binary left right)) d
        (past.after_lt less atMost))).lax
termination_by c.remaining
decreasing_by omega

/-- An expression. -/
def expressionWhole (rules : Rules limit) (c : Cursor)
    (inside : c.remaining ≤ limit.remaining) : Outcome true c Expression :=
  (rules.assignmentFrom c inside).andThen fun first d less =>
    rules.sequence c.span first d (Cursor.lt_of_lt_of_le less inside)

end Rules

/-! ## The knot -/

/-- The recursive rules at every cursor with fewer tokens ahead. -/
def Rules.all (limit : Cursor) : Rules limit :=
  { assignment := fun c _ => (all c).assignmentFrom c (Nat.le_refl _)
    expression := fun c _ => (all c).expressionWhole c (Nat.le_refl _)
    binary := fun least c _ => (all c).binaryFrom least c (Nat.le_refl _)
    unary := fun c _ => (all c).operand c (Nat.le_refl _)
    construction := fun c _ => (all c).newExpression c (Nat.le_refl _)
    type := fun c _ => (all c).fullType c (Nat.le_refl _)
    typeOperand := fun c _ => (all c).operandType c (Nat.le_refl _) }
termination_by limit.remaining
decreasing_by all_goals assumption

namespace Cursor

/-- The expression at a cursor, up to a comma. -/
def assignment (c : Cursor) : Outcome true c Expression :=
  (Rules.all c).assignmentFrom c (Nat.le_refl _)

/-- The expression at a cursor. -/
def expression (c : Cursor) : Outcome true c Expression :=
  (Rules.all c).expressionWhole c (Nat.le_refl _)

/-- The type at a cursor. -/
def type (c : Cursor) : Outcome true c TypeExpression :=
  (Rules.all c).fullType c (Nat.le_refl _)

end Cursor

end InjectionCheck
