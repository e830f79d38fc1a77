import InjectionCheck.Grammar.Groups

/-!
# Names, modifiers and statements

What names a member or property, which words in front of a member modify it, and
how a statement is passed that the checker does not look at.
-/

set_option autoImplicit false

namespace InjectionCheck

/-- What a token names as a property: names, strings and reserved words name
something, and a number names nothing that is looked up. -/
def Kind.propertyName? : Kind → Option (Option String)
  | .name text | .string text => some (some text)
  | .number => some none
  | .keyword word => some (some word.text)
  | _ => none

/-- Whether a token can begin a top-level declaration. -/
def Kind.startsItem : Kind → Bool
  | .keyword .import_ | .keyword .export_ | .keyword .const_ | .keyword .let_ | .keyword .var_
  | .keyword .class_ | .keyword .interface_ | .keyword .function_ | .keyword .enum_
  | .mark .at => true
  | _ => false

/-- Whether a token after a word shows that the word is a name of its own and not a
modifier of what follows. -/
def Kind.endsName : Kind → Bool
  | .mark .lparen | .mark .colon | .mark .question | .mark .bang | .mark .eq
  | .mark .semicolon | .mark .comma | .mark .lt | .mark .rbrace | .mark .rparen => true
  | _ => false

namespace Cursor

/-- The name of a property, when it names something, and its span. -/
structure PropertyName where
  name : Option String
  span : Span
deriving DecidableEq, Repr

/-- Passes what names a property. -/
def propertyName (c : Cursor) : Outcome true c PropertyName :=
  match c.next? with
  | some past =>
    match past.token.kind.propertyName? with
    | some name => past.go (.ok ⟨name, past.token.span⟩)
    | none => .fail (c.expected .identifier)
  | none => .fail (c.expected .identifier)

/-- Passes what names a property; a number will not do. -/
def properName (c : Cursor) : Outcome true c NameUse :=
  c.propertyName.andThen fun property d _ =>
    match property.name with
    | some name => (Outcome.ok ⟨name, property.span⟩ : Outcome false d NameUse)
    | none => .fail (.expected .identifier (some .number) property.span)

/-- Whether a token at a distance can name a property. -/
def namesProperty (c : Cursor) (distance : Nat) : Bool :=
  (c.peek? distance).any fun kind => kind.propertyName?.isSome

/-- Whether the next token modifies what follows it, if it is a name at all. -/
def modifies (c : Cursor) : Bool := (c.peek? 1).any fun kind => !kind.endsName

/-- Passes a given word if it modifies what follows, and says whether it does. -/
def optionalModifier (c : Cursor) (word : String) : Outcome false c Bool :=
  if c.modifies then c.optional (· = .name word) else .ok false

/-- Passes a semicolon if one is next. -/
def optionalSemicolon (c : Cursor) : Outcome false c Unit :=
  (c.optionalMark .semicolon).map fun _ => ()

/-- Passes the rest of a statement: past a semicolon, or up to the next
declaration. -/
def restOfStatement (c : Cursor) : Outcome false c Unit :=
  match c.next? with
  | none => .ok ()
  | some past =>
    let kind := past.token.kind
    if kind = .mark .semicolon then (past.go (.ok ())).lax
    else if kind.startsItem then .ok ()
    else
      match kind.opens? with
      | some bracket =>
        (past.go ((restOfGroup bracket past.token.span past.rest).bind fun _ d _ =>
          restOfStatement d)).lax
      | none =>
        if kind.closes?.isSome then .fail (c.expected .statement)
        else (past.go (restOfStatement past.rest)).lax
termination_by c.remaining
decreasing_by
  all_goals have := past.less
  all_goals omega

/-- Passes a statement, of which the first token is passed in any case. -/
def Past.skipStatement {c : Cursor} (past : c.Past) : Outcome true c Unit :=
  match past.token.kind.opens? with
  | some bracket =>
    past.go ((restOfGroup bracket past.token.span past.rest).bind fun _ d _ =>
      d.restOfStatement)
  | none =>
    if past.token.kind.closes?.isSome then .fail (c.expected .statement)
    else past.go past.rest.restOfStatement

end Cursor

end InjectionCheck
