import InjectionCheck.Grammar.Outcome

/-!
# Bracketed groups

Bodies and other parts that the checker does not look at are passed as bracketed
groups. `skipGroup` passes a group in which all three kinds of brackets are
balanced, and `skipAngles` a group in angle brackets, inside which bracketed groups
are passed as a whole.

Before a rule is chosen the tokens ahead are looked through without passing them:
`closeIndex?` finds where a group closes, counting brackets of every kind alike, and
`angleCloseIndex?` finds where angle brackets close.
-/

set_option autoImplicit false

namespace InjectionCheck

namespace Cursor

/-! ## Passing a group -/

/-- Passes tokens until all of the given brackets are closed, the last opened
first. The outermost one was opened by the given opening. -/
def closeAll (opening : Opening) (outer : Bracket) :
    (brackets : List Bracket) → (c : Cursor) → Outcome false c Unit
  | [], _ => .ok ()
  | innermost :: others, c =>
    match c.next? with
    | none => .fail (.unclosed opening outer.closing c.span)
    | some past =>
      match past.token.kind.opens? with
      | some bracket =>
        (past.go (closeAll opening outer (bracket :: innermost :: others) past.rest)).lax
      | none =>
        match past.token.kind.closes? with
        | some bracket =>
          if bracket = innermost then (past.go (closeAll opening outer others past.rest)).lax
          else .fail (c.expected (.token (some (.mark innermost.closing))))
        | none => (past.go (closeAll opening outer (innermost :: others) past.rest)).lax
termination_by _ c => c.remaining
decreasing_by all_goals exact past.less

/-- Passes the rest of a group whose bracket was opened by the given token, and
gives the span of the whole group. -/
def restOfGroup (bracket : Bracket) (opened : Span) (c : Cursor) : Outcome false c Span :=
  (closeAll ⟨bracket.opening, opened⟩ bracket [bracket] c).bind fun _ d _ =>
    .ok (d.spanFrom opened)

/-- Passes a bracketed group and gives its span. -/
def skipGroup (c : Cursor) : Outcome true c Span :=
  match c.next? with
  | none => .fail (c.expected .openBracket)
  | some past =>
    match past.token.kind.opens? with
    | some bracket => past.go (restOfGroup bracket past.token.span past.rest)
    | none => .fail (c.expected .openBracket)

/-- Passes tokens until `depth` angle brackets are closed. -/
def closeAngles (opening : Opening) : (depth : Nat) → (c : Cursor) → Outcome false c Unit
  | 0, _ => .ok ()
  | depth + 1, c =>
    match c.next? with
    | none => .fail (.unclosed opening .gt c.span)
    | some past =>
      match past.token.kind.opens? with
      | some bracket =>
        (past.go ((restOfGroup bracket past.token.span past.rest).bind fun _ d _ =>
          closeAngles opening (depth + 1) d)).lax
      | none =>
        if past.token.kind = .mark .lt then
          (past.go (closeAngles opening (depth + 2) past.rest)).lax
        else if past.token.kind = .mark .gt then
          (past.go (closeAngles opening depth past.rest)).lax
        else (past.go (closeAngles opening (depth + 1) past.rest)).lax
termination_by _ c => c.remaining
decreasing_by
  all_goals have := past.less
  all_goals omega

/-- Passes a group in angle brackets. -/
def skipAngles (c : Cursor) : Outcome true c Unit :=
  (c.expectMark .lt).andThen fun opened d _ => closeAngles ⟨.lt, opened.span⟩ 1 d

/-- Passes a group in angle brackets if one is next. -/
def skipAnglesIfAny (c : Cursor) : Outcome false c Unit :=
  if c.seesMark .lt then c.skipAngles.lax else .ok ()

end Cursor

/-! ## Looking ahead -/

namespace Lookahead

/-- The distance to the token that closes the group that the first token opens:
the first token at which as many brackets are closed as opened. -/
def closeIndex? (tokens : List Token) : Option Nat :=
  go tokens 0 0
where
  /-- Brackets that are open, and tokens that are passed. -/
  go : List Token → (depth passed : Nat) → Option Nat
    | [], _, _ => none
    | token :: rest, depth, passed =>
      if token.kind.opens?.isSome then go rest (depth + 1) (passed + 1)
      else if token.kind.closes?.isSome then
        match depth with
        | 0 => none
        | 1 => some passed
        | depth + 2 => go rest (depth + 1) (passed + 1)
      else go rest depth (passed + 1)

/-- The distance to the token that closes the angle bracket that the first token
opens. Bracketed groups on the way are passed as a whole, and a semicolon ends the
search. -/
def angleCloseIndex? (tokens : List Token) : Option Nat :=
  go tokens 0 0
where
  /-- Angle brackets that are open, and tokens that are passed. -/
  go : List Token → (depth passed : Nat) → Option Nat
    | [], _, _ => none
    | token :: rest, depth, passed =>
      match token.kind with
      | .mark .lt => go rest (depth + 1) (passed + 1)
      | .mark .gt =>
        match depth with
        | 0 | 1 => some passed
        | depth + 2 => go rest (depth + 1) (passed + 1)
      | .mark .lparen | .mark .lbracket | .mark .lbrace =>
        match closeIndex? (token :: rest) with
        | some index => go (rest.drop index) depth (passed + index + 1)
        | none => none
      | .mark .semicolon => none
      | _ => go rest depth (passed + 1)
  termination_by tokens => tokens.length
  decreasing_by all_goals simp only [List.length_cons, List.length_drop]; omega

/-- The kind of a token at a distance. -/
def kindAt? (tokens : List Token) (distance : Nat) : Option Kind :=
  (tokens[distance]?).map Token.kind

/-- Whether a return type is followed by an arrow, and not by something that ends
an expression. -/
def ascriptionThenArrow : List Token → Bool
  | [] => false
  | token :: rest =>
    match token.kind with
    | .mark .arrow => true
    | .mark .lparen | .mark .lbracket | .mark .lbrace =>
      match closeIndex? (token :: rest) with
      | some index => ascriptionThenArrow (rest.drop index)
      | none => false
    | .mark .lt =>
      match angleCloseIndex? (token :: rest) with
      | some index => ascriptionThenArrow (rest.drop index)
      | none => false
    | .mark .comma | .mark .semicolon | .mark .rparen | .mark .rbracket | .mark .rbrace
    | .mark .eq => false
    | _ => ascriptionThenArrow rest
termination_by tokens => tokens.length
decreasing_by all_goals simp only [List.length_cons, List.length_drop]; omega

/-- Whether a group is followed by an arrow, possibly after a return type. -/
def groupThenArrow (tokens : List Token) : Bool :=
  match closeIndex? tokens with
  | none => false
  | some index =>
    match tokens.drop (index + 1) with
    | ⟨.mark .arrow, _⟩ :: _ => true
    | ⟨.mark .colon, _⟩ :: rest => ascriptionThenArrow rest
    | _ => false

/-- Whether an arrow function starts here. -/
def startsArrow (tokens : List Token) : Bool :=
  match tokens with
  | ⟨.name _, _⟩ :: ⟨.mark .arrow, _⟩ :: _ => true
  | ⟨.mark .lparen, _⟩ :: _ => groupThenArrow tokens
  | ⟨.mark .lt, _⟩ :: _ =>
    match angleCloseIndex? tokens with
    | some index =>
      kindAt? tokens (index + 1) = some (.mark .lparen) && groupThenArrow (tokens.drop (index + 1))
    | none => false
  | _ => false

/-- Whether a group that starts here is directly followed by an arrow. -/
def startsFunctionType (tokens : List Token) : Bool :=
  match closeIndex? tokens with
  | some index => kindAt? tokens (index + 1) = some (.mark .arrow)
  | none => false

/-- Whether a question mark follows before the type around it ends: then `extends`
before these tokens starts the branches of a conditional type. -/
def reachesQuestion : List Token → Bool
  | [] => false
  | token :: rest =>
    match token.kind with
    | .mark .question => true
    | .mark .lparen | .mark .lbracket | .mark .lbrace =>
      match closeIndex? (token :: rest) with
      | some index => reachesQuestion (rest.drop index)
      | none => false
    | .mark .rparen | .mark .rbracket | .mark .rbrace | .mark .comma | .mark .gt
    | .mark .semicolon | .mark .colon => false
    | _ => reachesQuestion rest
termination_by tokens => tokens.length
decreasing_by all_goals simp only [List.length_cons, List.length_drop]; omega

/-- The tokens after a sign in front of a mapped type. -/
def afterSign : List Token → List Token
  | ⟨.mark .plus, _⟩ :: rest | ⟨.mark .minus, _⟩ :: rest => rest
  | tokens => tokens

/-- The tokens after the word `readonly`. -/
def afterReadonly : List Token → List Token
  | ⟨.name "readonly", _⟩ :: rest => rest
  | tokens => tokens

/-- Whether a brace starts a mapped type: behind it, after an optional sign and an
optional `readonly`, comes a square bracket with a name and `in`. -/
def startsMappedType (tokens : List Token) : Bool :=
  match afterReadonly (afterSign (tokens.drop 1)) with
  | ⟨.mark .lbracket, _⟩ :: ⟨.name _, _⟩ :: ⟨.name "in", _⟩ :: _ => true
  | _ => false

end Lookahead

end InjectionCheck
