import InjectionCheck.Grammar.Items
import InjectionCheck.Proofs.NestedGroups
import InjectionCheck.Proofs.Unplaced
import Mathlib.Data.List.Forall2

/-!
# Rules beside each other

The tokens of a file are revised between two braces: what stands there is replaced by other
tokens in which brackets are well nested. The file and its revision are read beside each other
(`Revision`). Two cursors are abreast if the tokens ahead are of the same kinds up to the brace
that opens, and from there on differ as the revision says.

As long as a rule stays in front of that brace, it does in the revision what it does in the file:
it stops at a cursor that is abreast, with the same value or error, spans aside. What a rule does
that passes the brace is left open (`Outcome.Abreast`).
-/

set_option autoImplicit false

namespace InjectionCheck

/-! ## Trees and errors, spans aside -/

/-- An error, spans aside. -/
def ParseError.unplaced (error : ParseError) : ParseError :=
  ⟨error.complaint, .origin, error.opening.map fun opening => ⟨opening.mark, .origin⟩⟩

theorem Expression.unplacedAll_eq_map (expressions : List Expression) :
    unplacedAll expressions = expressions.map unplaced := by
  induction expressions with
  | nil => rfl
  | cons first others ih => rw [unplacedAll, ih, List.map_cons]

theorem Property.unplacedAll_eq_map (properties : List Property) :
    unplacedAll properties = properties.map unplaced := by
  induction properties with
  | nil => rfl
  | cons first others ih => rw [unplacedAll, ih, List.map_cons]

theorem TypeExpression.unplacedAll_eq_map (types : List TypeExpression) :
    unplacedAll types = types.map unplaced := by
  induction types with
  | nil => rfl
  | cons first others ih => rw [unplacedAll, ih, List.map_cons]

theorem TypeExpression.unplacedIfAny_eq_map (type : Option TypeExpression) :
    unplacedIfAny type = type.map unplaced := by
  cases type <;> rfl

theorem TypeMember.unplacedAll_eq_map (members : List TypeMember) :
    unplacedAll members = members.map unplaced := by
  induction members with
  | nil => rfl
  | cons first others ih => rw [unplacedAll, ih, List.map_cons]

theorem Parameter.unplacedAll_eq_map (parameters : List Parameter) :
    unplacedAll parameters = parameters.map unplaced := by
  induction parameters with
  | nil => rfl
  | cons first others ih => rw [unplacedAll, ih, List.map_cons]

theorem Decorator.unplacedAll_eq_map (decorators : List Decorator) :
    unplacedAll decorators = decorators.map unplaced := by
  induction decorators with
  | nil => rfl
  | cons first others ih => rw [unplacedAll, ih, List.map_cons]

/-! ## Revisions -/

/-- Two lists of tokens are of the same kinds. -/
abbrev SameKinds : List Token → List Token → Prop :=
  List.Forall₂ fun token token' => token'.kind = token.kind

theorem SameKinds.symm {tokens tokens' : List Token} (same : SameKinds tokens tokens') :
    SameKinds tokens' tokens :=
  same.flip.imp fun _ _ => Eq.symm

theorem SameKinds.exists_append {front rest tokens : List Token}
    (same : SameKinds (front ++ rest) tokens) :
    ∃ front' rest', tokens = front' ++ rest' ∧ SameKinds front front' ∧ SameKinds rest rest' := by
  refine ⟨tokens.take front.length, tokens.drop front.length, ?_, ?_, ?_⟩
  · rw [List.take_append_drop]
  · simpa using List.forall₂_take front.length same
  · simpa using List.forall₂_drop front.length same

/-- What is revised at the end of a file: nothing that is left, or first what stands between two
braces. -/
inductive Gap : List Token → List Token → Prop where
  | none : Gap [] []
  | braces {opening closing opening' closing' : Token} {inner inner' rest rest' : List Token}
    (opens : opening.kind = .mark .lbrace) (opens' : opening'.kind = .mark .lbrace)
    (closes : closing.kind = .mark .rbrace) (closes' : closing'.kind = .mark .rbrace)
    (inside : Nested inner) (inside' : Nested inner') (others : SameKinds rest rest') :
    Gap (opening :: (inner ++ closing :: rest)) (opening' :: (inner' ++ closing' :: rest'))

/-- Tokens of the same kinds may stand in front of tokens that vary. -/
theorem Varies.append {front front' tokens tokens' : List Token} (same : SameKinds front front')
    (varies : Varies tokens tokens') : Varies (front ++ tokens) (front' ++ tokens') := by
  induction same with
  | nil => exact varies
  | cons same _ ih => exact .token same ih

theorem Varies.of_sameKinds {tokens tokens' : List Token} (same : SameKinds tokens tokens') :
    Varies tokens tokens' := by
  have varies := Varies.append same .nil
  rwa [List.append_nil, List.append_nil] at varies

theorem Gap.varies {gap gap' : List Token} (shape : Gap gap gap') : Varies gap gap' := by
  cases shape with
  | none => exact .nil
  | braces opens opens' closes closes' inside inside' others =>
      exact .braces opens opens' closes closes' inside inside' (.of_sameKinds others)

/-- The type arguments at a cursor. -/
def Cursor.typeArguments (c : Cursor) : Outcome true c (List TypeExpression) :=
  (Rules.all c).typeArguments c c.le_self

/-- The attempt to read type arguments at a cursor is kept: they parse, and arguments follow. -/
def Cursor.KeepsTypeArguments (c : Cursor) : Prop :=
  (∃ types, c.typeArguments.result = .ok types) ∧ c.typeArguments.rest.seesMark .lparen = true

/-- Two cursors at the same place of two files, before tokens of the same kinds and then certain
other ones. -/
structure Beside (origin origin' : Cursor) (gap gap' : List Token) (c c' : Cursor) : Prop where
  reaches : origin.Reaches c
  reaches' : origin'.Reaches c'
  ahead : ∃ front front', SameKinds front front' ∧ c.ahead = front ++ gap ∧
    c'.ahead = front' ++ gap'

/-- Two files from some cursor on, where the second one revises the first one. -/
structure Revision where
  origin : Cursor
  origin' : Cursor
  /-- The tokens from the brace that opens to the end of the file. -/
  gap : List Token
  gap' : List Token
  shape : Gap gap gap'
  /-- An attempt to read type arguments that passes the brace and is given up is given up in both
  files. -/
  settled : ∀ c c', Beside origin origin' gap gap' c c' →
    c.typeArguments.rest.remaining < gap.length → c'.KeepsTypeArguments → c.KeepsTypeArguments

namespace Revision

/-- The same files, behind the tokens that are revised. -/
def after (r : Revision) : Revision where
  origin := r.origin
  origin' := r.origin'
  gap := []
  gap' := []
  shape := .none
  settled _ _ _ less := absurd less (Nat.not_lt_zero _)

/-- A cursor is past the brace that opens. -/
def Entered (r : Revision) (c : Cursor) : Prop := c.remaining < r.gap.length

/-- Two cursors in front of the brace, before tokens of the same kinds. -/
structure Abreast (r : Revision) (c c' : Cursor) : Prop
  extends Beside r.origin r.origin' r.gap r.gap' c c'

/-- Two spans start at the same place of the two files, in front of the braces or behind them. -/
def SamePlace (r : Revision) (span span' : Span) : Prop :=
  ∃ c c', (r.Abreast c c' ∨ r.after.Abreast c c') ∧ c.span = span ∧ c'.span = span'

/-- Two errors are the same, spans aside, and stand at the same place. -/
structure SameError (r : Revision) (error error' : ParseError) : Prop where
  unplaced : error.unplaced = error'.unplaced
  place : r.SamePlace error.span error'.span

/-- A token is passed in both files. Behind it both cursors are in front of the brace again, or
the token is the brace itself. -/
structure Step (r : Revision) {c c' : Cursor} (past : c.Past) (past' : c'.Past) : Prop where
  isNext : c.next? = some past
  isNext' : c'.next? = some past'
  kind : past'.token.kind = past.token.kind
  place : r.SamePlace past.token.span past'.token.span
  rests : r.Abreast past.rest past'.rest ∨
    past.token.kind = .mark .lbrace ∧ r.Entered past.rest

variable {r : Revision} {c c' d : Cursor}

theorem Entered.mono (entered : r.Entered c) (reaches : c.Reaches d) : r.Entered d :=
  Nat.lt_of_le_of_lt reaches.remaining_le entered

/-- Behind the body there is no brace to pass. -/
theorem not_entered_after : ¬r.after.Entered c := Nat.not_lt_zero _

theorem SamePlace.of_after {span span' : Span} (same : r.after.SamePlace span span') :
    r.SamePlace span span' := by
  obtain ⟨c, c', abreast, place, place'⟩ := same
  exact ⟨c, c', .inr (abreast.elim id id), place, place'⟩

theorem SameError.of_after {error error' : ParseError} (same : r.after.SameError error error') :
    r.SameError error error' :=
  ⟨same.unplaced, same.place.of_after⟩

namespace Step

variable {past : c.Past} {past' : c'.Past}

theorem abreast (step : r.Step past past') (other : past.token.kind ≠ .mark .lbrace) :
    r.Abreast past.rest past'.rest :=
  step.rests.resolve_right fun entered => other entered.1

theorem ahead (step : r.Step past past') : c.ahead = past.token :: past.rest.ahead := by
  have isNext := step.isNext
  obtain ⟨behind, tokens, stop⟩ := c
  cases tokens with
  | nil => cases isNext
  | cons token rest =>
      cases isNext
      rfl

theorem ahead' (step : r.Step past past') : c'.ahead = past'.token :: past'.rest.ahead := by
  have isNext := step.isNext'
  obtain ⟨behind, tokens, stop⟩ := c'
  cases tokens with
  | nil => cases isNext
  | cons token rest =>
      cases isNext
      rfl

theorem kind? (step : r.Step past past') : c.kind? = some past.token.kind := by
  rw [Cursor.kind?, step.ahead]
  rfl

theorem peek?_one (step : r.Step past past') : c.peek? 1 = past.rest.kind? := by
  rw [Cursor.peek?, Cursor.kind?, step.ahead, List.head?_eq_getElem?]
  rfl

end Step

namespace Abreast

theorem varies (abreast : r.Abreast c c') : Varies c.ahead c'.ahead := by
  obtain ⟨front, front', same, ahead, ahead'⟩ := abreast.ahead
  rw [ahead, ahead']
  exact .append same r.shape.varies

variable (abreast : r.Abreast c c')

include abreast

/-- The brace is still ahead, or all that follows the revised tokens is of the same kinds. -/
theorem le_remaining : r.gap.length ≤ c.remaining := by
  obtain ⟨front, front', -, ahead, -⟩ := abreast.ahead
  rw [Cursor.remaining, ahead, List.length_append]
  exact Nat.le_add_left _ _

theorem le_remaining' : r.gap'.length ≤ c'.remaining := by
  obtain ⟨front, front', -, -, ahead'⟩ := abreast.ahead
  rw [Cursor.remaining, ahead', List.length_append]
  exact Nat.le_add_left _ _

/-- Of two places in front of the brace, the further one is the same in both files. -/
theorem remaining_eq_iff {d d' : Cursor} (abreast' : r.Abreast d d') :
    c'.remaining = d'.remaining ↔ c.remaining = d.remaining := by
  obtain ⟨front, front', same, ahead, ahead'⟩ := abreast.ahead
  obtain ⟨other, other', same', more, more'⟩ := abreast'.ahead
  have length := same.length_eq
  have length' := same'.length_eq
  simp only [Cursor.remaining, ahead, ahead', more, more', List.length_append]
  omega

theorem samePlace : r.SamePlace c.span c'.span := ⟨c, c', .inl abreast, rfl, rfl⟩

/-- At two cursors nothing is next, or tokens of one kind. -/
@[elab_as_elim]
theorem next_cases {motive : Option c.Past → Option c'.Past → Prop} (none : motive none none)
    (some : ∀ past past', r.Step past past' → motive (some past) (some past')) :
    motive c.next? c'.next? := by
  have place := abreast.samePlace
  obtain ⟨reaches, reaches', front, front', same, ahead, ahead'⟩ := abreast
  obtain ⟨behind, tokens, stop⟩ := c
  obtain ⟨behind', tokens', stop'⟩ := c'
  obtain ⟨origin, origin', gap, gap', shape, settled⟩ := r
  cases same with
  | nil =>
      cases shape with
      | none =>
          cases (ahead : tokens = [])
          cases (ahead' : tokens' = [])
          exact none
      | @braces opening closing opening' closing' inner inner' rest rest' opens opens' =>
          cases (ahead : tokens = _)
          cases (ahead' : tokens' = _)
          refine some _ _ ⟨rfl, rfl, opens'.trans opens.symm, place, .inr ⟨opens, ?_⟩⟩
          exact Nat.lt_succ_self _
  | @cons token token' others others' first same =>
      cases (ahead : tokens = token :: (others ++ gap))
      cases (ahead' : tokens' = token' :: (others' ++ gap'))
      refine some _ _ ⟨rfl, rfl, first, place, .inl ⟨?_, ?_, others, others', same, rfl, rfl⟩⟩
      · exact reaches.trans (Cursor.reaches_advance _)
      · exact reaches'.trans (Cursor.reaches_advance _)

/-- At two cursors nothing that passes a test is next, or tokens of one kind. -/
@[elab_as_elim]
theorem nextIf_cases {test : Kind → Bool} {motive : Option c.Past → Option c'.Past → Prop}
    (none : motive none none)
    (some : ∀ past past', test past.token.kind = true → r.Step past past' →
      motive (some past) (some past')) :
    motive (c.nextIf? test) (c'.nextIf? test) := by
  unfold Cursor.nextIf?
  refine abreast.next_cases none fun past past' step => ?_
  dsimp only
  rw [step.kind]
  split
  · next passes => exact some past past' passes step
  · exact none

section Words

variable {motive : Option c.Past → Option c'.Past → Prop} (none : motive none none)
  (some : ∀ past past', r.Abreast past.rest past'.rest → motive (some past) (some past'))

include none some

@[elab_as_elim]
theorem mark_cases (mark : Mark) (other : mark ≠ .lbrace) :
    motive (c.mark? mark) (c'.mark? mark) :=
  @nextIf_cases r c c' abreast (· = .mark mark) motive none fun past past' passes step =>
    some past past' (step.abreast (by simp_all))

@[elab_as_elim]
theorem keyword_cases (word : Keyword) : motive (c.keyword? word) (c'.keyword? word) :=
  @nextIf_cases r c c' abreast (· = .keyword word) motive none fun past past' passes step =>
    some past past' (step.abreast (by simp_all))

@[elab_as_elim]
theorem name_cases (text : String) : motive (c.name? text) (c'.name? text) :=
  @nextIf_cases r c c' abreast (· = .name text) motive none fun past past' passes step =>
    some past past' (step.abreast (by simp_all))

end Words

/-- At two cursors nothing is next, or tokens of one kind. -/
theorem next_or : c.next? = none ∧ c'.next? = none ∨
    ∃ (past : c.Past) (past' : c'.Past), r.Step past past' :=
  abreast.next_cases (motive := fun found found' => found = none ∧ found' = none ∨
    ∃ (past : c.Past) (past' : c'.Past), r.Step past past') (.inl ⟨rfl, rfl⟩)
    fun past past' step => .inr ⟨past, past', step⟩

/-- A mark other than the brace is next at both cursors or at none. -/
theorem mark_or (mark : Mark) (other : mark ≠ .lbrace) :
    c.mark? mark = none ∧ c'.mark? mark = none ∨
      ∃ past past', c.mark? mark = some past ∧ c'.mark? mark = some past' ∧
        r.Abreast past.rest past'.rest :=
  abreast.mark_cases (.inl ⟨rfl, rfl⟩) (fun past past' rests => .inr ⟨past, past', rfl, rfl, rests⟩)
    mark other

/-- A token that is next in the file is passed in both. -/
theorem exists_step {past : c.Past} (isNext : c.next? = some past) :
    ∃ past' : c'.Past, r.Step past past' := by
  obtain ⟨none, -⟩ | ⟨first, past', step⟩ := abreast.next_or
  · cases none.symm.trans isNext
  · cases step.isNext.symm.trans isNext
    exact ⟨past', step⟩

/-- A reserved word is next at both cursors or at none. -/
theorem keyword_or (word : Keyword) :
    c.keyword? word = none ∧ c'.keyword? word = none ∨
      ∃ past past', c.keyword? word = some past ∧ c'.keyword? word = some past' ∧
        r.Abreast past.rest past'.rest :=
  abreast.keyword_cases (.inl ⟨rfl, rfl⟩)
    (fun past past' rests => .inr ⟨past, past', rfl, rfl, rests⟩) word

/-! ### What is next -/

theorem kind?_eq : c'.kind? = c.kind? := by
  unfold Cursor.kind?
  obtain ⟨none, none'⟩ | ⟨first, first', rest, rest', isCons, isCons', same, -⟩ :=
    abreast.varies.cons_cases
  · rw [none, none']
  · rw [isCons, isCons', List.head?_cons, List.head?_cons, Option.map_some, Option.map_some, same]

theorem seesMark (mark : Mark) : c'.seesMark mark = c.seesMark mark := by
  rw [Cursor.seesMark, Cursor.seesMark, abreast.kind?_eq]

theorem seesName (text : String) : c'.seesName text = c.seesName text := by
  rw [Cursor.seesName, Cursor.seesName, abreast.kind?_eq]

theorem seesSomeName : c'.seesSomeName = c.seesSomeName := by
  rw [Cursor.seesSomeName, Cursor.seesSomeName, abreast.kind?_eq]

theorem atEnd : c'.atEnd = c.atEnd := by
  unfold Cursor.atEnd
  obtain ⟨none, none'⟩ | ⟨first, first', rest, rest', isCons, isCons', -, -⟩ :=
    abreast.varies.cons_cases
  · rw [none, none']
  · rw [isCons, isCons']
    rfl

/-- The second tokens are of one kind, unless the first ones are braces. -/
theorem peek?_one (other : c.kind? ≠ some (.mark .lbrace)) : c'.peek? 1 = c.peek? 1 := by
  unfold Cursor.peek?
  unfold Cursor.kind? at other
  obtain ⟨none, none'⟩ | ⟨first, first', rest, rest', isCons, isCons', -, others⟩ :=
    abreast.varies.cons_cases
  · rw [none, none']
  rw [isCons] at other ⊢
  rw [isCons']
  obtain ⟨none, none'⟩ | ⟨second, second', _, _, isCons, isCons', same, -⟩ :=
    (others (by simpa using other)).cons_cases
  · rw [none, none']
    rfl
  · rw [isCons, isCons']
    exact congrArg some same

theorem modifies (other : c.kind? ≠ some (.mark .lbrace)) : c'.modifies = c.modifies := by
  rw [Cursor.modifies, Cursor.modifies, abreast.peek?_one other]

theorem namesProperty (other : c.kind? ≠ some (.mark .lbrace)) :
    c'.namesProperty 1 = c.namesProperty 1 := by
  rw [Cursor.namesProperty, Cursor.namesProperty, abreast.peek?_one other]

/-! ### Errors -/

theorem expected (what : Expectation) : r.SameError (c.expected what) (c'.expected what) where
  unplaced := by
    rw [Cursor.expected, Cursor.expected, abreast.kind?_eq]
    rfl
  place := abreast.samePlace

theorem unclosed {opening opening' : Opening} (same : opening.mark = opening'.mark)
    (closing : Mark) :
    r.SameError (.unclosed opening closing c.span) (.unclosed opening' closing c'.span) where
  unplaced := by
    rw [ParseError.unclosed, ParseError.unclosed, same]
    simp [ParseError.unplaced, same]
  place := abreast.samePlace

end Abreast

/-- Errors inside brackets point back at the marks that opened these. -/
theorem SameError.inside {error error' : ParseError} (same : r.SameError error error')
    {opening opening' : Opening} (marks : opening.mark = opening'.mark) :
    r.SameError (.inside opening error) (.inside opening' error') where
  unplaced := by
    have complaint := congrArg ParseError.complaint same.unplaced
    simp only [ParseError.unplaced] at complaint
    simp [ParseError.unplaced, ParseError.inside, marks, complaint]
  place := same.place

/-- The results of two rules: values that are related, or the same error, spans aside. -/
inductive Agree {α : Type} (r : Revision) (agree : α → α → Prop) :
    Except ParseError α → Except ParseError α → Prop where
  | ok {value value' : α} (related : agree value value') : Agree r agree (.ok value) (.ok value')
  | error {error error' : ParseError} (same : r.SameError error error') :
    Agree r agree (.error error) (.error error')

end Revision

/-! ## Rules beside each other -/

/-- A rule passes the brace, or the two rules stop at cursors that are abreast, with values that
are related or with the same error, spans aside. -/
def Outcome.Abreast {α : Type} {moves moves' : Bool} {c c' : Cursor} (r : Revision)
    (agree : α → α → Prop) (outcome : Outcome moves c α) (outcome' : Outcome moves' c' α) : Prop :=
  r.Entered outcome.rest ∨
    r.Abreast outcome.rest outcome'.rest ∧ r.Agree agree outcome.result outcome'.result

/-- Any two values. -/
abbrev Unrelated {α : Type} : α → α → Prop := fun _ _ => True

/-- Values that are the same once they are changed. -/
abbrev SameUnder {α β : Type} (change : α → β) (value value' : α) : Prop :=
  change value = change value'

namespace SameUnder

variable {α β : Type} {change : α → β}

theorem cons {value value' : α} {values values' : List α} (first : SameUnder change value value')
    (others : SameUnder (List.map change) values values') :
    SameUnder (List.map change) (value :: values) (value' :: values') := by
  rw [SameUnder, List.map_cons, List.map_cons, first, others]

theorem append {values values' others others' : List α}
    (first : SameUnder (List.map change) values values')
    (second : SameUnder (List.map change) others others') :
    SameUnder (List.map change) (values ++ others) (values' ++ others') := by
  rw [SameUnder, List.map_append, List.map_append, first, second]

theorem reverse {values values' : List α} (same : SameUnder (List.map change) values values') :
    SameUnder (List.map change) values.reverse values'.reverse := by
  rw [SameUnder, List.map_reverse, List.map_reverse, same]

theorem toList {value value' : Option α} (same : SameUnder (Option.map change) value value') :
    SameUnder (List.map change) value.toList value'.toList := by
  have sameList := congrArg Option.toList same
  rwa [Option.toList_map, Option.toList_map] at sameList

end SameUnder

namespace Outcome.Abreast

section Combinators

variable {α β : Type} {moves : Bool} {r : Revision} {c c' : Cursor} {agree : α → α → Prop}
  {agree' : β → β → Prop}

theorem mono {weaker : α → α → Prop} {outcome : Outcome moves c α} {outcome' : Outcome moves c' α}
    (abreast : Abreast r agree outcome outcome')
    (weaken : ∀ value value', agree value value' → weaker value value') :
    Abreast r weaker outcome outcome' := by
  refine abreast.imp_right fun ⟨rests, results⟩ => ⟨rests, ?_⟩
  generalize outcome.result = result, outcome'.result = result' at results
  cases results with
  | ok related => exact .ok (weaken _ _ related)
  | error same => exact .error same

theorem ok (abreast : r.Abreast c c') {value value' : α} (related : agree value value') :
    Abreast r agree (Outcome.ok value : Outcome false c α)
      (Outcome.ok value' : Outcome false c' α) :=
  .inr ⟨abreast, .ok related⟩

/-- Only what the rules give and where they stop matters. -/
theorem congr {moves₁ moves₁' : Bool} {d d' : Cursor} {outcome : Outcome moves c α}
    {outcome' : Outcome moves c' α} {first : Outcome moves₁ d α} {first' : Outcome moves₁' d' α}
    (abreast : Abreast r agree outcome outcome') (same : first.stopped = outcome.stopped)
    (same' : first'.stopped = outcome'.stopped) : Abreast r agree first first' := by
  obtain ⟨_, _⟩ := outcome
  obtain ⟨_, _⟩ := outcome'
  obtain ⟨_, _⟩ := first
  obtain ⟨_, _⟩ := first'
  cases same
  cases same'
  exact abreast

/-- Two rules that stop at cursors that are abreast and give values that are related. -/
theorem of_stopped {d d' : Cursor} (abreast : r.Abreast d d') {outcome : Outcome moves c α}
    {outcome' : Outcome moves c' α} {value value' : α} (stopped : outcome.stopped = ⟨.ok value, d⟩)
    (stopped' : outcome'.stopped = ⟨.ok value', d'⟩) (related : agree value value') :
    Abreast r agree outcome outcome' := by
  obtain ⟨_, _⟩ := outcome
  obtain ⟨_, _⟩ := outcome'
  cases stopped
  cases stopped'
  exact .inr ⟨abreast, .ok related⟩

theorem fail (abreast : r.Abreast c c') {error error' : ParseError}
    (same : r.SameError error error') :
    Abreast r agree (Outcome.fail error : Outcome moves c α)
      (Outcome.fail error' : Outcome moves c' α) :=
  .inr ⟨abreast, .error same⟩

theorem lax {outcome : Outcome moves c α} {outcome' : Outcome moves c' α}
    (abreast : Abreast r agree outcome outcome') : Abreast r agree outcome.lax outcome'.lax :=
  abreast

theorem go {past : c.Past} {past' : c'.Past} {outcome : Outcome moves past.rest α}
    {outcome' : Outcome moves past'.rest α} (abreast : Abreast r agree outcome outcome') :
    Abreast r agree (past.go outcome) (past'.go outcome') :=
  abreast

/-- Past the brace nothing is asked. -/
theorem step {past : c.Past} {past' : c'.Past} (step : r.Step past past')
    {outcome : Outcome moves past.rest α} {outcome' : Outcome moves past'.rest α}
    (abreast : r.Abreast past.rest past'.rest → Abreast r agree outcome outcome') :
    Abreast r agree (past.go outcome) (past'.go outcome') := by
  obtain front | ⟨-, entered⟩ := step.rests
  · exact abreast front
  · exact .inl (entered.mono outcome.reaches)

theorem bind {outcome : Outcome false c α} {outcome' : Outcome false c' α}
    {next : (value : α) → (d : Cursor) → d.remaining ≤ c.remaining → Outcome moves d β}
    {next' : (value : α) → (d : Cursor) → d.remaining ≤ c'.remaining → Outcome moves d β}
    (first : Abreast r agree outcome outcome')
    (second : ∀ {value value' d d'} atMost atMost', r.Abreast d d' → agree value value' →
      Abreast r agree' (next value d atMost) (next' value' d' atMost')) :
    Abreast r agree' (outcome.bind next) (outcome'.bind next') := by
  obtain entered | ⟨rests, results⟩ := first
  · exact .inl (entered.mono (outcome.reaches_bind next))
  · obtain ⟨⟨result, d⟩, reaches, moved⟩ := outcome
    obtain ⟨⟨result', d'⟩, reaches', moved'⟩ := outcome'
    cases results with
    | ok related => exact second reaches.remaining_le reaches'.remaining_le rests related
    | error same => exact .inr ⟨rests, .error same⟩

theorem andThen {outcome : Outcome true c α} {outcome' : Outcome true c' α}
    {next : (value : α) → (d : Cursor) → d.remaining < c.remaining → Outcome moves d β}
    {next' : (value : α) → (d : Cursor) → d.remaining < c'.remaining → Outcome moves d β}
    (first : Abreast r agree outcome outcome')
    (second : ∀ {value value' d d'} less less', r.Abreast d d' → agree value value' →
      Abreast r agree' (next value d less) (next' value' d' less')) :
    Abreast r agree' (outcome.andThen next) (outcome'.andThen next') := by
  obtain entered | ⟨rests, results⟩ := first
  · exact .inl (entered.mono (outcome.reaches_andThen next))
  · obtain ⟨⟨result, d⟩, reaches, moved⟩ := outcome
    obtain ⟨⟨result', d'⟩, reaches', moved'⟩ := outcome'
    cases results with
    | ok related => exact second (moved rfl ⟨_, rfl⟩) (moved' rfl ⟨_, rfl⟩) rests related
    | error same => exact .inr ⟨rests, .error same⟩

/-- A rule that is seen from where an earlier one started. -/
theorem following {d d' : Cursor} {reaches : c.Reaches d} {reaches' : c'.Reaches d'}
    {outcome : Outcome moves d α} {outcome' : Outcome moves d' α}
    (abreast : Abreast r agree outcome outcome') :
    Abreast r agree (outcome.following reaches) (outcome'.following reaches') :=
  abreast

/-- What an attempt that passes the brace comes to has to be known apart. -/
theorem tried {outcome : Outcome moves c α} {outcome' : Outcome moves c' α}
    {next : (value : α) → (d : Cursor) → c.Reaches d → d.remaining ≤ c.remaining →
      Outcome false c β}
    {next' : (value : α) → (d : Cursor) → c'.Reaches d → d.remaining ≤ c'.remaining →
      Outcome false c' β}
    {otherwise : Outcome false c β} {otherwise' : Outcome false c' β}
    (first : Abreast r agree outcome outcome')
    (passed : r.Entered outcome.rest →
      Abreast r agree' (outcome.tried next otherwise) (outcome'.tried next' otherwise'))
    (second : ∀ {value value' d d'} reaches reaches' atMost atMost', r.Abreast d d' →
      agree value value' →
        Abreast r agree' (next value d reaches atMost) (next' value' d' reaches' atMost'))
    (other : Abreast r agree' otherwise otherwise') :
    Abreast r agree' (outcome.tried next otherwise) (outcome'.tried next' otherwise') := by
  obtain entered | ⟨rests, results⟩ := first
  · exact passed entered
  · obtain ⟨⟨result, d⟩, reaches, moved⟩ := outcome
    obtain ⟨⟨result', d'⟩, reaches', moved'⟩ := outcome'
    cases results with
    | ok related =>
        exact second reaches reaches' reaches.remaining_le reaches'.remaining_le rests related
    | error => exact other

theorem mapAt {change change' : α → Cursor → β} {outcome : Outcome moves c α}
    {outcome' : Outcome moves c' α} (abreast : Abreast r agree outcome outcome')
    (changed : ∀ {value value' d d'}, agree value value' →
      agree' (change value d) (change' value' d')) :
    Abreast r agree' (outcome.mapAt change) (outcome'.mapAt change') := by
  obtain ⟨⟨result, d⟩, reaches, moved⟩ := outcome
  obtain ⟨⟨result', d'⟩, reaches', moved'⟩ := outcome'
  obtain entered | ⟨rests, results⟩ := abreast
  · cases result <;> exact .inl entered
  · cases results with
    | ok related => exact .inr ⟨rests, .ok (changed related)⟩
    | error same => exact .inr ⟨rests, .error same⟩

theorem map {change change' : α → β} {outcome : Outcome moves c α} {outcome' : Outcome moves c' α}
    (abreast : Abreast r agree outcome outcome')
    (changed : ∀ {value value'}, agree value value' → agree' (change value) (change' value')) :
    Abreast r agree' (outcome.map change) (outcome'.map change') :=
  @mapAt α β moves r c c' agree agree' (fun value _ => change value) (fun value _ => change' value)
    outcome outcome' abreast fun related => changed related

theorem mapError {change change' : ParseError → ParseError} {outcome : Outcome moves c α}
    {outcome' : Outcome moves c' α} (abreast : Abreast r agree outcome outcome')
    (changed : ∀ {error error'}, r.SameError error error' →
      r.SameError (change error) (change' error')) :
    Abreast r agree (outcome.mapError change) (outcome'.mapError change') := by
  obtain ⟨⟨result, d⟩, reaches, moved⟩ := outcome
  obtain ⟨⟨result', d'⟩, reaches', moved'⟩ := outcome'
  obtain entered | ⟨rests, results⟩ := abreast
  · cases result <;> exact .inl entered
  · cases results with
    | ok related => exact .inr ⟨rests, .ok related⟩
    | error same => exact .inr ⟨rests, .error (changed same)⟩

theorem ite {condition : Prop} [Decidable condition] {first second : Outcome moves c α}
    {first' second' : Outcome moves c' α}
    (isTrue : condition → Abreast r agree first first')
    (isFalse : ¬condition → Abreast r agree second second') :
    Abreast r agree (if condition then first else second)
      (if condition then first' else second') := by
  split
  · next holds => exact isTrue holds
  · next fails => exact isFalse fails

end Combinators

end Outcome.Abreast

end InjectionCheck
