import InjectionCheck.Grammar.Cursor
import InjectionCheck.Grammar.ParseError
import InjectionCheck.Tree.Basic

/-!
# What a rule of the grammar does

A rule starts at a cursor. It gives a value or an error, and the cursor at which it
stopped. The type of an outcome says that the rule only moved forward, and, for a
rule that has to pass a token before it succeeds, that it did so. Rules recurse on
the number of tokens ahead, and these two facts are why they end.

A rule may also go on from an error. Then it records the error, and whatever comes
after it, success or failure, the error stays recorded (`Outcome.errors`).

`bind` and `andThen` let one rule follow another. The second rule is told how many
tokens are left at most, and runs only if the first one succeeded. `tried` takes a
rule back that failed: the cursor, and not what the rule recorded.
-/

set_option autoImplicit false

namespace InjectionCheck

/-- The result of a rule and the cursor at which it stopped. -/
structure Stopped (α : Type) where
  result : Except ParseError α
  rest : Cursor

/-- Whether a rule succeeded. -/
def Stopped.succeeded {α : Type} (stopped : Stopped α) : Prop :=
  ∃ value, stopped.result = .ok value

/-- What a rule did that started at a cursor: it moved forward, and if `moves` is
set, it passed a token if it succeeded. -/
structure Outcome (moves : Bool) (c : Cursor) (α : Type) where
  stopped : Stopped α
  forward : c.Reaches stopped.rest
  moved : moves = true → stopped.succeeded → stopped.rest.remaining < c.remaining
  /-- The errors that the rule recorded, in order. -/
  errors : List ParseError

namespace Outcome

variable {α β : Type} {moves : Bool} {c : Cursor}

/-- The result of a rule. -/
def result (outcome : Outcome moves c α) : Except ParseError α := outcome.stopped.result

/-- The cursor at which a rule stopped. -/
def rest (outcome : Outcome moves c α) : Cursor := outcome.stopped.rest

theorem reaches (outcome : Outcome moves c α) : c.Reaches outcome.rest := outcome.forward

/-- A rule that has to pass a token leaves fewer when it succeeds. -/
theorem rest_remaining_lt (outcome : Outcome true c α) {value : α}
    (succeeded : outcome.result = .ok value) : outcome.rest.remaining < c.remaining :=
  outcome.moved rfl ⟨value, succeeded⟩

/-- The rule that passes nothing and gives a value. -/
@[inline] def ok (value : α) : Outcome false c α :=
  ⟨⟨.ok value, c⟩, .refl c, by simp, []⟩

/-- The rule that fails where it has got to. -/
@[inline] def failed {d : Cursor} (error : ParseError) (reaches : c.Reaches d) :
    Outcome moves c α :=
  ⟨⟨.error error, d⟩, reaches, fun _ ⟨_, same⟩ => (nomatch same), []⟩

/-- The rule that fails where it stands. -/
@[inline] def fail (error : ParseError) : Outcome moves c α := failed error (.refl c)

/-- The same rule, after some errors that have been recorded. -/
@[inline] def recording (earlier : List ParseError) (outcome : Outcome moves c α) :
    Outcome moves c α :=
  { outcome with errors := earlier ++ outcome.errors }

/-- A rule that has to pass a token and gives a value has passed one. -/
theorem less_of_moved {value : α} {d : Cursor}
    (moved : true = true → (Stopped.mk (.ok value) d).succeeded → d.remaining < c.remaining) :
    d.remaining < c.remaining :=
  moved rfl ⟨value, rfl⟩

/-- A rule that may pass a token is one that need not. -/
@[inline] def lax (outcome : Outcome moves c α) : Outcome false c α :=
  ⟨outcome.stopped, outcome.reaches, by simp, outcome.errors⟩

/-- The outcome of a rule, seen from a cursor before the one at which it started. -/
@[inline] def seenFrom {d : Cursor} (outcome : Outcome moves d α) (reaches : c.Reaches d)
    (less : d.remaining < c.remaining) : Outcome true c α :=
  ⟨outcome.stopped, reaches.trans outcome.reaches,
    fun _ _ => Nat.lt_of_le_of_lt outcome.reaches.remaining_le less, outcome.errors⟩

/-- The outcome of a rule, seen from a cursor that reaches the one at which it
started. -/
@[inline] def following {d : Cursor} (outcome : Outcome moves d α) (reaches : c.Reaches d) :
    Outcome moves c α :=
  ⟨outcome.stopped, reaches.trans outcome.reaches, fun moved succeeded =>
    Nat.lt_of_lt_of_le (outcome.moved moved succeeded) reaches.remaining_le, outcome.errors⟩

/-- Goes on after a rule if it succeeded, and otherwise from where it started. The
errors that it recorded stay in both cases. -/
@[inline] def tried (outcome : Outcome moves c α)
    (next : (value : α) → (d : Cursor) → c.Reaches d → d.remaining ≤ c.remaining →
      Outcome false c β)
    (otherwise : Outcome false c β) : Outcome false c β :=
  match outcome with
  | ⟨⟨.ok value, d⟩, reaches, _, errors⟩ =>
    (next value d reaches reaches.remaining_le).recording errors
  | ⟨⟨.error _, _⟩, _, _, errors⟩ => otherwise.recording errors

/-- One rule after another. -/
@[inline] def bind (outcome : Outcome false c α)
    (next : (value : α) → (d : Cursor) → d.remaining ≤ c.remaining → Outcome moves d β) :
    Outcome moves c β :=
  match outcome with
  | ⟨⟨.ok value, d⟩, reaches, _, errors⟩ =>
    ((next value d reaches.remaining_le).following reaches).recording errors
  | ⟨⟨.error error, _⟩, reaches, _, errors⟩ => (failed error reaches).recording errors

/-- One rule after another that passed a token. -/
@[inline] def andThen (outcome : Outcome true c α)
    (next : (value : α) → (d : Cursor) → d.remaining < c.remaining → Outcome moves d β) :
    Outcome true c β :=
  match outcome with
  | ⟨⟨.ok value, d⟩, reaches, moved, errors⟩ =>
    have less := less_of_moved moved
    ((next value d less).seenFrom reaches less).recording errors
  | ⟨⟨.error error, _⟩, reaches, _, errors⟩ => (failed error reaches).recording errors

/-- The same rule with another value. -/
@[inline] def map (change : α → β) (outcome : Outcome moves c α) : Outcome moves c β :=
  match outcome with
  | ⟨⟨.ok value, d⟩, reaches, moved, errors⟩ =>
    ⟨⟨.ok (change value), d⟩, reaches, fun set _ => moved set ⟨value, rfl⟩, errors⟩
  | ⟨⟨.error error, _⟩, reaches, _, errors⟩ => (failed error reaches).recording errors

/-- The same rule with a value that may depend on where the rule stopped. -/
@[inline] def mapAt (change : α → Cursor → β) (outcome : Outcome moves c α) :
    Outcome moves c β :=
  match outcome with
  | ⟨⟨.ok value, d⟩, reaches, moved, errors⟩ =>
    ⟨⟨.ok (change value d), d⟩, reaches, fun set _ => moved set ⟨value, rfl⟩, errors⟩
  | ⟨⟨.error error, _⟩, reaches, _, errors⟩ => (failed error reaches).recording errors

/-- The same rule with another error. -/
@[inline] def mapError (change : ParseError → ParseError) (outcome : Outcome moves c α) :
    Outcome moves c α :=
  match outcome with
  | ⟨⟨.ok value, d⟩, reaches, moved, errors⟩ => ⟨⟨.ok value, d⟩, reaches, moved, errors⟩
  | ⟨⟨.error error, _⟩, reaches, _, errors⟩ => (failed (change error) reaches).recording errors

end Outcome

namespace Cursor

variable {α : Type} {moves : Bool}

/-- A rule that goes on past the next token. -/
@[inline] def Past.go {c : Cursor} (past : c.Past) (outcome : Outcome moves past.rest α) :
    Outcome true c α :=
  outcome.seenFrom past.reaches past.less

/-- The error that something was expected at the cursor. -/
def expected (c : Cursor) (what : Expectation) : ParseError :=
  .expected what c.kind? c.span

/-- Passes a token of a kind. -/
def expect (c : Cursor) (kind : Kind) : Outcome true c Token :=
  match c.next? with
  | some past =>
    if past.token.kind.agrees kind then past.go (.ok past.token)
    else .fail (c.expected (.token kind))
  | none => .fail (c.expected (.token kind))

/-- Passes nothing at the end of the file. -/
def expectEnd (c : Cursor) : Outcome false c Unit :=
  if c.atEnd then .ok () else .fail (c.expected (.token none))

/-- Passes a mark. -/
def expectMark (c : Cursor) (mark : Mark) : Outcome true c Token := c.expect (.mark mark)

/-- Passes a reserved word. -/
def expectKeyword (c : Cursor) (word : Keyword) : Outcome true c Token :=
  c.expect (.keyword word)

/-- Passes a name. -/
def expectName (c : Cursor) : Outcome true c NameUse :=
  match c.next? with
  | some past =>
    match past.token.kind with
    | .name text => past.go (.ok ⟨text, past.token.span⟩)
    | _ => .fail (c.expected .identifier)
  | none => .fail (c.expected .identifier)

/-- The next token with the cursor past it, if it satisfies a test. -/
def nextIf? (c : Cursor) (test : Kind → Bool) : Option c.Past :=
  match c.next? with
  | some past => if test past.token.kind then some past else none
  | none => none

/-- The next token with the cursor past it, if it is a mark. -/
def mark? (c : Cursor) (mark : Mark) : Option c.Past := c.nextIf? (· = .mark mark)

/-- The next token with the cursor past it, if it is a reserved word. -/
def keyword? (c : Cursor) (word : Keyword) : Option c.Past := c.nextIf? (· = .keyword word)

/-- The next token with the cursor past it, if it is a given name. -/
def name? (c : Cursor) (text : String) : Option c.Past := c.nextIf? (· = .name text)

/-- Passes the next token if it satisfies a test, and says whether it did. -/
def optional (c : Cursor) (test : Kind → Bool) : Outcome false c Bool :=
  match c.nextIf? test with
  | some past => (past.go (.ok true)).lax
  | none => .ok false

/-- Passes a mark if it is next, and says whether it was. -/
def optionalMark (c : Cursor) (mark : Mark) : Outcome false c Bool :=
  c.optional (· = .mark mark)

end Cursor

end InjectionCheck
