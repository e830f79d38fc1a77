import InjectionCheck.Grammar.Words

/-!
# Recursion between rules

Expressions contain types, types contain parameters, and parameters contain
expressions. A rule that needs one of the recursive rules further on takes them as
an argument: `Rules limit` holds them for every cursor with fewer tokens ahead than
`limit`. So each rule is an ordinary definition, and the knot is tied in one place.
-/

set_option autoImplicit false

namespace InjectionCheck

/-- The recursive rules, at cursors with fewer tokens ahead than a given one. -/
structure Rules (limit : Cursor) where
  /-- An expression without a comma at its top. -/
  assignment : (c : Cursor) → c.remaining < limit.remaining → Outcome true c Expression
  /-- An expression. -/
  expression : (c : Cursor) → c.remaining < limit.remaining → Outcome true c Expression
  /-- Operands joined by operators that bind at least as tightly as a number says. -/
  binary : Nat → (c : Cursor) → c.remaining < limit.remaining → Outcome true c Expression
  /-- An operand with the operators in front of it. -/
  unary : (c : Cursor) → c.remaining < limit.remaining → Outcome true c Expression
  /-- The construction of an object. -/
  construction : (c : Cursor) → c.remaining < limit.remaining → Outcome true c Expression
  /-- A type. -/
  type : (c : Cursor) → c.remaining < limit.remaining → Outcome true c TypeExpression
  /-- A type with the operators in front of it. -/
  typeOperand : (c : Cursor) → c.remaining < limit.remaining → Outcome true c TypeExpression

namespace Rules

variable {limit : Cursor} {α : Type}

/-- Elements with commas between them, up to and past a closing mark. The comma
after the last element is optional. `missing` may add to the error that the closing
mark is missing. -/
def elements (opening : Opening) (closing : Mark) (missing : ParseError → ParseError)
    (element : (c : Cursor) → c.remaining < limit.remaining → Outcome true c α)
    (earlier : List α) (c : Cursor) (inside : c.remaining < limit.remaining) :
    Outcome true c (List α) :=
  match c.mark? closing with
  | some past => past.go (.ok earlier.reverse)
  | none =>
    if c.atEnd then .fail (.unclosed opening closing c.span)
    else
      (element c inside).andThen fun value d less =>
        match d.mark? .comma with
        | some past =>
          have := past.less
          have behind := Cursor.lt_trans less inside
          past.go (elements opening closing missing element (value :: earlier) past.rest
            (past.lt_of_lt behind))
        | none =>
          (d.expectMark closing).mapError missing |>.map fun _ => (value :: earlier).reverse
termination_by c.remaining
decreasing_by omega

/-- An expression, or all elements of one. -/
def spreadable (rules : Rules limit) (c : Cursor) (inside : c.remaining < limit.remaining) :
    Outcome true c Expression :=
  match c.mark? .ellipsis with
  | some past =>
    have := past.less
    past.go ((rules.assignment past.rest (by omega)).andThen fun operand d _ =>
      .ok ⟨.spread operand, d.spanFrom past.token.span⟩)
  | none => rules.assignment c inside

/-- The arguments of a call, in parentheses. -/
def arguments (rules : Rules limit) (c : Cursor) (inside : c.remaining ≤ limit.remaining) :
    Outcome true c (List Expression) :=
  (c.expectMark .lparen).andThen fun opened d _ =>
    let opening : Opening := ⟨.lparen, opened.span⟩
    elements opening .rparen (.inside opening) rules.spreadable [] d (by omega)

/-- The arguments of a call, if there are any. -/
def optionalArguments (rules : Rules limit) (c : Cursor)
    (inside : c.remaining ≤ limit.remaining) : Outcome false c (List Expression) :=
  if c.seesMark .lparen then (rules.arguments c inside).lax else .ok []

/-! ## Decorators -/

/-- The last part of a name with points in it, whose first part is passed. -/
def lastPart (name : String) (c : Cursor) : Outcome false c String :=
  match c.mark? .dot with
  | some past =>
    have := past.less
    (past.go (past.rest.properName.andThen fun part d _ => lastPart part.name d)).lax
  | none => .ok name
termination_by c.remaining
decreasing_by omega

/-- A decorator after its sign. -/
def decoratorAfter (rules : Rules limit) (sign : Span) (c : Cursor)
    (inside : c.remaining ≤ limit.remaining) : Outcome true c Decorator :=
  c.expectName.andThen fun first d _ =>
    (lastPart first.name d).bind fun name e _ =>
      e.skipAnglesIfAny.bind fun _ f _ =>
        (rules.optionalArguments f (by omega)).bind fun arguments g _ =>
          (.ok ⟨name, arguments, g.spanFrom sign⟩ : Outcome false g Decorator)

/-- The decorators in front of a class, member or parameter. -/
def decorators (rules : Rules limit) (earlier : List Decorator) (c : Cursor)
    (inside : c.remaining ≤ limit.remaining) : Outcome false c (List Decorator) :=
  match c.mark? .at with
  | some past =>
    have := past.less
    (past.go ((rules.decoratorAfter past.token.span past.rest (by omega)).andThen
      fun decorator d _ => decorators rules (decorator :: earlier) d (by omega))).lax
  | none => .ok earlier.reverse
termination_by c.remaining
decreasing_by omega

end Rules

/-! ## Modifiers -/

/-- The words in front of a member or parameter, as far as they matter. -/
structure Modifiers where
  access : Option Access
  isStatic : Bool
  readonly : Bool
deriving DecidableEq, Repr, Inhabited

namespace Modifiers

/-- No word in front. -/
def none : Modifiers := ⟨.none, false, false⟩

/-- The modifiers after one more word, if the word is a modifier. -/
def add? (modifiers : Modifiers) : String → Option Modifiers
  | "public" => some { modifiers with access := some .public_ }
  | "protected" => some { modifiers with access := some .protected_ }
  | "private" => some { modifiers with access := some .private_ }
  | "static" => some { modifiers with isStatic := true }
  | "readonly" => some { modifiers with readonly := true }
  | "abstract" | "override" | "declare" | "async" | "accessor" => some modifiers
  | _ => .none

end Modifiers

namespace Cursor

/-- Passes the words in front of a member or parameter. -/
def modifiers (earlier : Modifiers) (c : Cursor) : Outcome false c Modifiers :=
  match c.next? with
  | some past =>
    match past.token.kind with
    | .name word =>
      if c.modifies then
        match earlier.add? word with
        | some later => (past.go (modifiers later past.rest)).lax
        | none => .ok earlier
      else .ok earlier
    | _ => .ok earlier
  | none => .ok earlier
termination_by c.remaining
decreasing_by exact past.less

end Cursor

/-! ## Parameters -/

namespace Rules

variable {limit : Cursor}

/-- What a parameter binds: a name, or nothing that has a name. -/
def parameterName (c : Cursor) : Outcome true c String :=
  match c.next? with
  | some past =>
    match past.token.kind with
    | .name text => past.go (.ok text)
    | .keyword .this_ => past.go (.ok "")
    | .mark .lbrace | .mark .lbracket => c.skipGroup.map fun _ => ""
    | _ => .fail (c.expected .identifier)
  | none => .fail (c.expected .identifier)

/-- A type after a colon, if there is one. -/
def ascription (rules : Rules limit) (c : Cursor) (inside : c.remaining < limit.remaining) :
    Outcome false c (Option TypeExpression) :=
  match c.mark? .colon with
  | some past =>
    have := past.less
    ((past.go (rules.type past.rest (by omega))).map some).lax
  | none => .ok none

/-- A value after an equals sign, if there is one. -/
def initial (rules : Rules limit) (c : Cursor) (inside : c.remaining < limit.remaining) :
    Outcome false c (Option Expression) :=
  match c.mark? .eq with
  | some past =>
    have := past.less
    ((past.go (rules.assignment past.rest (by omega))).map some).lax
  | none => .ok none

/-- A parameter. -/
def parameter (rules : Rules limit) (c : Cursor) (inside : c.remaining < limit.remaining) :
    Outcome true c Parameter :=
  (rules.decorators [] c (by omega)).bind fun decorators c₁ _ =>
    (c₁.modifiers .none).bind fun modifiers c₂ _ =>
      (c₂.optionalMark .ellipsis).bind fun rest c₃ _ =>
        (parameterName c₃).andThen fun name c₄ _ =>
          (c₄.optionalMark .question).bind fun optional c₅ _ =>
            (rules.ascription c₅ (by omega)).bind fun type c₆ _ =>
              (rules.initial c₆ (by omega)).bind fun value c₇ _ =>
                (.ok
                  { decorators
                    access := modifiers.access
                    readonly := modifiers.readonly
                    name
                    optional := optional || rest
                    type
                    hasDefault := value.isSome
                    span := c₇.spanFrom c.span } : Outcome false c₇ Parameter)

/-- Parameters in parentheses. -/
def parameters (rules : Rules limit) (c : Cursor) (inside : c.remaining ≤ limit.remaining) :
    Outcome true c (List Parameter) :=
  (c.expectMark .lparen).andThen fun opened d _ =>
    let opening : Opening := ⟨.lparen, opened.span⟩
    elements opening .rparen (.inside opening) rules.parameter [] d (by omega)

end Rules

end InjectionCheck
