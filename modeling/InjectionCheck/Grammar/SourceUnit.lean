import InjectionCheck.Grammar.Items
import InjectionCheck.Token.Scanner

/-!
# Whole files

The items of a file are read statement by statement. After a statement that does
not parse, tokens are passed up to where a declaration may start, so that one error
does not hide the items after it.
-/

set_option autoImplicit false

namespace InjectionCheck

namespace Cursor

/-- Passes tokens up to where a declaration may start: past a semicolon, or up to a
token that can begin one. Bracketed groups are passed as a whole. -/
def skipToItem (c : Cursor) : c.Further :=
  match c.next? with
  | none => ⟨c, .refl c⟩
  | some past =>
    have := past.less
    if past.token.kind.startsItem then ⟨c, .refl c⟩
    else if past.token.kind = .mark .semicolon then ⟨past.rest, past.reaches⟩
    else
      match past.token.kind.opens? with
      | some bracket =>
        let group := restOfGroup bracket past.token.span past.rest
        have := (restOfGroup bracket past.token.span past.rest).reaches.remaining_le
        let further := skipToItem group.rest
        ⟨further.val, past.reaches.trans (group.reaches.trans further.property)⟩
      | none =>
        let further := skipToItem past.rest
        ⟨further.val, past.reaches.trans further.property⟩
termination_by c.remaining
decreasing_by all_goals omega

/-- Where a file goes on after a statement that started at `past` and stopped at `c`
without success: at least one token is passed. -/
def recoverItem {start : Cursor} (past : start.Past) (c : Cursor) (reaches : start.Reaches c) :
    { d : Cursor // start.Reaches d ∧ d.remaining < start.remaining } :=
  have := past.less
  if same : c.remaining = start.remaining then
    let further := skipToItem past.rest
    have := further.property.remaining_le
    ⟨further.val, past.reaches.trans further.property, by omega⟩
  else
    let further := skipToItem c
    have := further.property.remaining_le
    have := reaches.remaining_le
    ⟨further.val, reaches.trans further.property, by omega⟩

end Cursor

/-- What a file declares, and the errors of its grammar. -/
structure SourceUnit where
  items : List Item
  /-- The errors, by the place at which they start. -/
  errors : List ParseError

namespace SourceUnit

/-- The items and errors after a cursor, in order. -/
def after (c : Cursor) : List Item × List ParseError :=
  match c.next? with
  | none => ([], [])
  | some past =>
    let statement := past.item
    match statement.outcome with
    | ⟨⟨.ok value, d⟩, _, moved, _⟩ =>
      have : d.remaining < c.remaining := moved rfl ⟨value, rfl⟩
      let (items, errors) := after d
      (statement.items ++ items, statement.errors ++ errors)
    | ⟨⟨.error error, d⟩, reaches, _, _⟩ =>
      let recovered := Cursor.recoverItem past d reaches
      have := recovered.property.2
      let (items, errors) := after recovered.val
      (statement.items ++ items, statement.errors ++ error :: errors)
termination_by c.remaining
decreasing_by all_goals assumption

/-- What the tokens of a file declare. Errors that start at the same place keep
their order. -/
def ofTokens (list : TokenList) : SourceUnit :=
  let (items, errors) := after (.start list.tokens list.stop)
  ⟨items, errors.mergeSort fun first second => first.span.start ≤ second.span.start⟩

end SourceUnit

end InjectionCheck
