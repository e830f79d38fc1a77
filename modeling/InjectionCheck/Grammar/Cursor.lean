import InjectionCheck.Token.Kind

/-!
# A place among the tokens

A cursor stands between the tokens that are passed and the tokens ahead. It only
moves forward: `Reaches` says that one cursor comes from another by passing some of
the tokens ahead. A rule of the grammar takes a cursor and gives one that it
reaches, and the number of tokens ahead is what rules recurse on.
-/

set_option autoImplicit false

namespace InjectionCheck

/-- A place among the tokens of a file. -/
structure Cursor where
  /-- The tokens that are passed, the last one first. -/
  behind : List Token
  /-- The tokens that are not passed. -/
  ahead : List Token
  /-- The empty span at the end of the file. -/
  stop : Span
deriving DecidableEq, Repr

namespace Cursor

/-- The cursor before the first token. -/
def start (tokens : List Token) (stop : Span) : Cursor := ⟨[], tokens, stop⟩

/-- The number of tokens that are not passed. -/
def remaining (c : Cursor) : Nat := c.ahead.length

/-- The number of tokens that are passed. -/
def position (c : Cursor) : Nat := c.behind.length

/-- The cursor with a given number of tokens behind it, among the same tokens. -/
def moveTo (c : Cursor) (position : Nat) : Cursor :=
  let all := c.behind.reverse ++ c.ahead
  ⟨(all.take position).reverse, all.drop position, c.stop⟩

/-- Whether all tokens are passed. -/
def atEnd (c : Cursor) : Bool := c.ahead.isEmpty

/-- The kind of the next token. -/
def kind? (c : Cursor) : Option Kind := c.ahead.head?.map Token.kind

/-- The kind of a token further ahead; the next token is at distance zero. -/
def peek? (c : Cursor) (distance : Nat) : Option Kind :=
  (c.ahead[distance]?).map Token.kind

/-- The span of the next token, or the end of the file. -/
def span (c : Cursor) : Span := (c.ahead.head?.map Token.span).getD c.stop

/-- The span of the last token that is passed, or the start of the file. -/
def previousSpan (c : Cursor) : Span := (c.behind.head?.map Token.span).getD .origin

/-- The span from the start of another to the end of the last token passed. -/
def spanFrom (c : Cursor) (first : Span) : Span := first.merge c.previousSpan

/-- Whether the next token is of a kind, up to the text of a name or string. -/
def sees (c : Cursor) (kind : Kind) : Bool := c.kind?.any kind.agrees

/-- Whether the next token is a mark. -/
def seesMark (c : Cursor) (mark : Mark) : Bool := c.kind? = some (.mark mark)

/-- Whether the next token is a name. -/
def seesSomeName (c : Cursor) : Bool :=
  match c.kind? with
  | some (.name _) => true
  | _ => false

/-- Whether the next token is a given name. -/
def seesName (c : Cursor) (text : String) : Bool := c.kind? = some (.name text)

/-- The cursor past the next token; at the end it stays. -/
def advance (c : Cursor) : Cursor :=
  match c.ahead with
  | [] => c
  | token :: rest => ⟨token :: c.behind, rest, c.stop⟩

/-! ## Moving forward -/

/-- The second cursor comes from the first by passing some of the tokens ahead. -/
def Reaches (c d : Cursor) : Prop :=
  ∃ passed, c.ahead = passed ++ d.ahead ∧ d.behind = passed.reverse ++ c.behind ∧
    d.stop = c.stop

theorem Reaches.refl (c : Cursor) : c.Reaches c := ⟨[], rfl, rfl, rfl⟩

theorem Reaches.trans {c d e : Cursor} (first : c.Reaches d) (second : d.Reaches e) :
    c.Reaches e := by
  obtain ⟨passed, ahead, behind, stop⟩ := first
  obtain ⟨further, ahead', behind', stop'⟩ := second
  exact ⟨passed ++ further, by rw [ahead, ahead', List.append_assoc],
    by rw [behind', behind, List.reverse_append, List.append_assoc], stop'.trans stop⟩

/-- Moving forward never adds tokens ahead. -/
theorem Reaches.remaining_le {c d : Cursor} (reaches : c.Reaches d) :
    d.remaining ≤ c.remaining := by
  obtain ⟨passed, ahead, _, _⟩ := reaches
  simp [remaining, ahead]

theorem reaches_advance (c : Cursor) : c.Reaches c.advance := by
  unfold advance
  split
  · exact .refl c
  · next token rest ahead => exact ⟨[token], ahead, rfl, rfl⟩

/-- The next token, and the cursor past it. -/
structure Past (c : Cursor) where
  token : Token
  /-- The cursor past the token. -/
  rest : Cursor
  less : rest.remaining < c.remaining
  reaches : c.Reaches rest

/-- The next token with the cursor past it, unless all tokens are passed. -/
def next? (c : Cursor) : Option c.Past :=
  match ahead : c.ahead with
  | [] => none
  | token :: rest =>
    some
      { token
        rest := ⟨token :: c.behind, rest, c.stop⟩
        less := by simp [remaining, ahead]
        reaches := ⟨[token], ahead, rfl, rfl⟩ }

/-! ## Tokens ahead

What a rule shows when it goes on at another cursor, where `limit` is the cursor whose
tokens bound the rules further on. -/

section TokensAhead

variable {c d e limit : Cursor}

/-- A cursor has as many tokens ahead as itself. -/
theorem le_self (c : Cursor) : c.remaining ≤ c.remaining := Nat.le_refl _

theorem le_of_lt (less : c.remaining < limit.remaining) : c.remaining ≤ limit.remaining :=
  Nat.le_of_lt less

theorem le_trans (first : d.remaining ≤ c.remaining) (inside : c.remaining ≤ limit.remaining) :
    d.remaining ≤ limit.remaining :=
  Nat.le_trans first inside

theorem lt_trans (first : d.remaining < c.remaining) (inside : c.remaining < limit.remaining) :
    d.remaining < limit.remaining :=
  Nat.lt_trans first inside

theorem lt_of_lt_of_le (first : d.remaining < c.remaining)
    (inside : c.remaining ≤ limit.remaining) : d.remaining < limit.remaining :=
  Nat.lt_of_lt_of_le first inside

/-- Past a token there are fewer tokens ahead than a bound on those before it. -/
theorem Past.lt_of_le (past : c.Past) (inside : c.remaining ≤ limit.remaining) :
    past.rest.remaining < limit.remaining :=
  Nat.lt_of_lt_of_le past.less inside

theorem Past.lt_of_lt (past : c.Past) (inside : c.remaining < limit.remaining) :
    past.rest.remaining < limit.remaining :=
  past.lt_of_le (le_of_lt inside)

theorem Past.le_of_le (past : c.Past) (inside : c.remaining ≤ limit.remaining) :
    past.rest.remaining ≤ limit.remaining :=
  le_of_lt (past.lt_of_le inside)

/-- What comes after a token has fewer tokens ahead, too. -/
theorem Past.after_lt_of_le (past : c.Past) (further : d.remaining ≤ past.rest.remaining)
    (inside : c.remaining ≤ limit.remaining) : d.remaining < limit.remaining :=
  Nat.lt_of_le_of_lt further (past.lt_of_le inside)

theorem Past.after_lt (past : c.Past) (further : d.remaining < past.rest.remaining)
    (inside : c.remaining ≤ limit.remaining) : d.remaining < limit.remaining :=
  past.after_lt_of_le (le_of_lt further) inside

end TokensAhead

end Cursor

end InjectionCheck
