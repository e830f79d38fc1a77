import InjectionCheck.Proofs.AppendedTokens

/-!
# Words and groups with further tokens behind them

What a rule does that runs with the further tokens of an appendix behind the tokens ahead, compared
with what it does without them (`Outcome.Extends`): shown for each way in which rules are combined,
for the small rules that pass a mark, a name, a word or a group, and for the rules that take the
recursive rules as an argument, given that it holds of those (`Rules.Extend`).
-/

set_option autoImplicit false

namespace InjectionCheck

namespace Appendix

variable (a : Appendix) {c d : Cursor}

/-! ## Cursors with further tokens -/

/-- The same place with the further tokens behind the last one. -/
def extend (c : Cursor) : Cursor := ⟨c.behind, c.ahead ++ a.tail, c.stop⟩

/-- A cursor stands among the first tokens, or behind them at the end. -/
def Within (c : Cursor) : Prop := c.ahead <:+ a.front

/-- A cursor is past the first one of the further tokens. -/
def Entered (c : Cursor) : Prop := c.remaining < a.tail.length

theorem ahead_extend (c : Cursor) : (a.extend c).ahead = c.ahead ++ a.tail := rfl

theorem remaining_extend (c : Cursor) : (a.extend c).remaining = c.remaining + a.tail.length :=
  List.length_append

theorem reaches_extend (reaches : c.Reaches d) : (a.extend c).Reaches (a.extend d) := by
  obtain ⟨passed, ahead, behind, stop⟩ := reaches
  refine ⟨passed, ?_, behind, stop⟩
  rw [extend, ahead, extend, List.append_assoc]

/-- The next token, passed with the further tokens. -/
abbrev past (past : c.Past) : (a.extend c).Past where
  token := past.token
  rest := a.extend past.rest
  less := by
    rw [remaining_extend, remaining_extend]
    exact Nat.add_lt_add_right past.less _
  reaches := a.reaches_extend past.reaches

variable {a}

theorem Entered.of_reaches (entered : a.Entered c) (reaches : c.Reaches d) : a.Entered d :=
  Nat.lt_of_le_of_lt reaches.remaining_le entered

/-- The next token is the same with the further tokens, or all tokens are passed and the first one
of the further tokens is next. -/
@[elab_as_elim]
theorem Within.next_cases (within : a.Within c)
    {motive : Option c.Past → Option (a.extend c).Past → Prop}
    (ended : ∀ past : (a.extend c).Past, c.ahead = [] → past.token.kind = .mark .rparen →
      a.Entered past.rest → motive none (some past))
    (next : ∀ past : c.Past, a.Within past.rest → c.ahead = past.token :: past.rest.ahead →
      motive (some past) (some (a.past past))) :
    motive c.next? (a.extend c).next? := by
  obtain ⟨behind, tokens, stop⟩ := c
  cases tokens with
  | nil => exact ended _ rfl a.closes (Nat.lt_succ_self _)
  | cons token rest => exact next _ ((List.suffix_cons _ _).trans within) rfl

/-- A token that passes a test is the same with the further tokens, unless all tokens are passed
and a closing parenthesis passes the test. -/
@[elab_as_elim]
theorem Within.nextIf_cases {test : Kind → Bool} (within : a.Within c)
    (other : c.ahead ≠ [] ∨ test (.mark .rparen) = false)
    {motive : Option c.Past → Option (a.extend c).Past → Prop} (none : motive none none)
    (some : ∀ past : c.Past, test past.token.kind = true → a.Within past.rest →
      motive (some past) (some (a.past past))) :
    motive (c.nextIf? test) ((a.extend c).nextIf? test) := by
  unfold Cursor.nextIf?
  refine within.next_cases (fun past ended isClosing _ => ?_) fun past within _ => ?_
  · have fails := other.resolve_left (fun next => next ended)
    dsimp only
    rwa [isClosing, fails, if_neg Bool.false_ne_true]
  · dsimp only
    by_cases passes : test past.token.kind = true
    · rw [if_pos passes, if_pos passes]
      exact some past passes within
    · rw [if_neg passes, if_neg passes]
      exact none

section Words

variable (within : a.Within c) {motive : Option c.Past → Option (a.extend c).Past → Prop}
  (none : motive none none)
  (some : ∀ past : c.Past, a.Within past.rest → motive (some past) (some (a.past past)))

include within none some

@[elab_as_elim]
theorem Within.mark_cases (mark : Mark) (other : mark ≠ .rparen) :
    motive (c.mark? mark) ((a.extend c).mark? mark) :=
  @nextIf_cases a c (· = .mark mark) within
    (.inr (decide_eq_false fun same => other (Kind.mark.inj same).symm)) motive none
    fun past _ => some past

/-- Where a token is next, no mark is an exception. -/
@[elab_as_elim]
theorem Within.closing_cases (mark : Mark) (next : c.ahead ≠ []) :
    motive (c.mark? mark) ((a.extend c).mark? mark) :=
  @nextIf_cases a c (· = .mark mark) within (.inl next) motive none fun past _ => some past

@[elab_as_elim]
theorem Within.keyword_cases (word : Keyword) :
    motive (c.keyword? word) ((a.extend c).keyword? word) :=
  @nextIf_cases a c (· = .keyword word) within (.inr (decide_eq_false nofun)) motive none
    fun past _ => some past

@[elab_as_elim]
theorem Within.name_cases (text : String) : motive (c.name? text) ((a.extend c).name? text) :=
  @nextIf_cases a c (· = .name text) within (.inr (decide_eq_false nofun)) motive none
    fun past _ => some past

end Words

/-! ## The tokens at a distance -/

section Distance

variable (a) (c : Cursor)

/-- A test that a closing parenthesis fails gives the same with the further tokens. -/
theorem any_kind?_extend {test : Kind → Bool} (other : test (.mark .rparen) = false) :
    (a.extend c).kind?.any test = c.kind?.any test := by
  obtain ⟨behind, tokens, stop⟩ := c
  cases tokens with
  | nil => simp [Cursor.kind?, extend, tail, a.closes, other]
  | cons token rest => rfl

theorem kind?_extend_iff {kind : Kind} (other : kind ≠ .mark .rparen) :
    (a.extend c).kind? = some kind ↔ c.kind? = some kind := by
  have same := @any_kind?_extend a c (· = kind) (decide_eq_false other.symm)
  rw [Bool.eq_iff_iff, Option.any_eq_true, Option.any_eq_true] at same
  simpa using same

theorem seesMark_extend {mark : Mark} (other : mark ≠ .rparen) :
    (a.extend c).seesMark mark = c.seesMark mark :=
  decide_eq_decide.2 (a.kind?_extend_iff c fun same => other (Kind.mark.inj same))

variable {c} (next : c.ahead ≠ [])

include next

theorem span_extend : (a.extend c).span = c.span := by
  obtain ⟨behind, tokens, stop⟩ := c
  cases tokens with
  | nil => exact absurd rfl next
  | cons token rest => rfl

theorem atEnd_extend : (a.extend c).atEnd = c.atEnd := by
  obtain ⟨behind, tokens, stop⟩ := c
  cases tokens with
  | nil => exact absurd rfl next
  | cons token rest => rfl

/-- The second token is the same, or with the further tokens it is a closing parenthesis. -/
theorem any_peek?_extend {test : Kind → Bool} (other : test (.mark .rparen) = false) :
    ((a.extend c).peek? 1).any test = (c.peek? 1).any test := by
  obtain ⟨behind, tokens, stop⟩ := c
  match tokens with
  | [] => exact absurd rfl next
  | [_] => simp [Cursor.peek?, extend, tail, a.closes, other]
  | _ :: _ :: _ => rfl

theorem peek?_extend_iff {kind : Kind} (other : kind ≠ .mark .rparen) :
    (a.extend c).peek? 1 = some kind ↔ c.peek? 1 = some kind := by
  have same := @any_peek?_extend a c next (· = kind) (decide_eq_false other.symm)
  rw [Bool.eq_iff_iff, Option.any_eq_true, Option.any_eq_true] at same
  simpa using same

end Distance

end Appendix

/-! ## Rules with further tokens -/

/-- With the further tokens behind the tokens ahead, a rule succeeds with the same value at the
same place. If it fails without them, it fails with them or passes some of them. -/
inductive Outcome.Extends {α : Type} {moves moves' : Bool} {c c' : Cursor} (a : Appendix)
    (outcome : Outcome moves c α) (outcome' : Outcome moves' c' α) : Prop where
  | succeeds {value : α} {d : Cursor} (succeeded : outcome.stopped = ⟨.ok value, d⟩)
      (succeeded' : outcome'.stopped = ⟨.ok value, a.extend d⟩) (within : a.Within d) :
      Extends a outcome outcome'
  | fails {error : ParseError} {d : Cursor} (failed : outcome.stopped = ⟨.error error, d⟩)
      (entered : ∀ value d', outcome'.stopped = ⟨.ok value, d'⟩ → a.Entered d') :
      Extends a outcome outcome'

namespace Outcome.Extends

variable {α β : Type} {moves moves' : Bool} {a : Appendix} {c c' d d' : Cursor}
  {error error' : ParseError}

theorem ok {value : α} (within : a.Within c) :
    (Outcome.ok value : Outcome false c α).Extends a
      (Outcome.ok value : Outcome false (a.extend c) α) :=
  .succeeds rfl rfl within

theorem fail : (Outcome.fail error : Outcome moves c α).Extends a
    (Outcome.fail error' : Outcome moves' c' α) :=
  .fails rfl nofun

/-- What goes on past the first one of the further tokens has passed some of them. -/
theorem passed {past : c'.Past} {outcome : Outcome moves' past.rest α}
    (entered : a.Entered past.rest) :
    (Outcome.fail error : Outcome moves c α).Extends a (past.go outcome).lax := by
  refine .fails rfl fun value d' succeeded => entered.of_reaches ?_
  rw [show d' = outcome.rest from (congrArg Stopped.rest succeeded).symm]
  exact outcome.reaches

/-- Where all tokens are passed, a rule that has to pass one fails, or passes some of the further
tokens. -/
theorem of_ended (ended : c.ahead = []) {outcome : Outcome true c α}
    {outcome' : Outcome true (a.extend c) α} : outcome.Extends a outcome' := by
  have remaining : c.remaining = 0 := congrArg List.length ended
  obtain ⟨⟨result, d⟩, reaches, moved⟩ := outcome
  cases result with
  | ok value =>
      have less : d.remaining < c.remaining := less_of_moved moved
      omega
  | error error =>
      refine .fails rfl fun value d' succeeded => ?_
      have less := outcome'.rest_remaining_lt (congrArg Stopped.result succeeded)
      rw [a.remaining_extend, remaining, Nat.zero_add,
        show outcome'.rest = d' from congrArg Stopped.rest succeeded] at less
      exact less

theorem of_next {outcome : Outcome true c α} {outcome' : Outcome true (a.extend c) α}
    (next : c.ahead ≠ [] → outcome.Extends a outcome') : outcome.Extends a outcome' := by
  by_cases ended : c.ahead = []
  · exact of_ended ended
  · exact next ended

section One

variable {outcome : Outcome moves c α} {outcome' : Outcome moves' c' α}

theorem lax (extends_ : outcome.Extends a outcome') : outcome.lax.Extends a outcome'.lax := by
  cases extends_ with
  | succeeds succeeded succeeded' within => exact .succeeds succeeded succeeded' within
  | fails failed entered => exact .fails failed entered

theorem following (extends_ : outcome.Extends a outcome') (reaches : d.Reaches c)
    (reaches' : d'.Reaches c') :
    (outcome.following reaches).Extends a (outcome'.following reaches') := by
  cases extends_ with
  | succeeds succeeded succeeded' within => exact .succeeds succeeded succeeded' within
  | fails failed entered => exact .fails failed entered

theorem seenFrom (extends_ : outcome.Extends a outcome') (reaches : d.Reaches c)
    (reaches' : d'.Reaches c') (less : c.remaining < d.remaining)
    (less' : c'.remaining < d'.remaining) :
    (outcome.seenFrom reaches less).Extends a (outcome'.seenFrom reaches' less') := by
  cases extends_ with
  | succeeds succeeded succeeded' within => exact .succeeds succeeded succeeded' within
  | fails failed entered => exact .fails failed entered

/-- What was recorded before does not matter. -/
theorem recording (extends_ : outcome.Extends a outcome') {earlier earlier' : List ParseError} :
    (outcome.recording earlier).Extends a (outcome'.recording earlier') := by
  cases extends_ with
  | succeeds succeeded succeeded' within => exact .succeeds succeeded succeeded' within
  | fails failed entered => exact .fails failed entered

theorem map {change : α → β} (extends_ : outcome.Extends a outcome') :
    (outcome.map change).Extends a (outcome'.map change) := by
  obtain ⟨⟨result, d⟩, reaches, moved⟩ := outcome
  obtain ⟨⟨result', d'⟩, reaches', moved'⟩ := outcome'
  cases extends_ with
  | succeeds succeeded succeeded' within =>
      cases succeeded
      cases succeeded'
      exact .succeeds rfl rfl within
  | fails failed entered =>
      cases failed
      refine .fails rfl fun value d'' same => ?_
      cases result' with
      | ok value' => cases same; exact entered _ _ rfl
      | error error => cases same

theorem mapError {change change' : ParseError → ParseError}
    (extends_ : outcome.Extends a outcome') :
    (outcome.mapError change).Extends a (outcome'.mapError change') := by
  obtain ⟨⟨result, d⟩, reaches, moved⟩ := outcome
  obtain ⟨⟨result', d'⟩, reaches', moved'⟩ := outcome'
  cases extends_ with
  | succeeds succeeded succeeded' within =>
      cases succeeded
      cases succeeded'
      exact .succeeds rfl rfl within
  | fails failed entered =>
      cases failed
      refine .fails rfl fun value d'' same => ?_
      cases result' with
      | ok value' => cases same; exact entered _ _ rfl
      | error error => cases same

end One

theorem go {past : c.Past} {outcome : Outcome moves past.rest α}
    {outcome' : Outcome moves (a.extend past.rest) α} (extends_ : outcome.Extends a outcome') :
    (past.go outcome).Extends a ((a.past past).go outcome') :=
  extends_.seenFrom _ _ _ _

theorem bind {outcome : Outcome false c α} {outcome' : Outcome false c' α}
    {next : (value : α) → (d : Cursor) → d.remaining ≤ c.remaining → Outcome moves d β}
    {next' : (value : α) → (d : Cursor) → d.remaining ≤ c'.remaining → Outcome moves' d β}
    (first : outcome.Extends a outcome')
    (second : ∀ value d atMost atMost', a.Within d →
      (next value d atMost).Extends a (next' value (a.extend d) atMost')) :
    (outcome.bind next).Extends a (outcome'.bind next') := by
  obtain ⟨⟨result, d⟩, reaches, moved⟩ := outcome
  obtain ⟨⟨result', d'⟩, reaches', moved'⟩ := outcome'
  cases first with
  | succeeds succeeded succeeded' within =>
      cases succeeded
      cases succeeded'
      exact ((second _ _ reaches.remaining_le reaches'.remaining_le within).following reaches
        reaches').recording
  | fails failed entered =>
      cases failed
      refine .fails rfl fun value e same => ?_
      cases result' with
      | ok value' =>
          have further := (next' value' d' reaches'.remaining_le).reaches
          rw [show (next' value' d' reaches'.remaining_le).rest = e from
            congrArg Stopped.rest same] at further
          exact (entered _ _ rfl).of_reaches further
      | error error => cases same

theorem andThen {outcome : Outcome true c α} {outcome' : Outcome true c' α}
    {next : (value : α) → (d : Cursor) → d.remaining < c.remaining → Outcome moves d β}
    {next' : (value : α) → (d : Cursor) → d.remaining < c'.remaining → Outcome moves' d β}
    (first : outcome.Extends a outcome')
    (second : ∀ value d less less', a.Within d →
      (next value d less).Extends a (next' value (a.extend d) less')) :
    (outcome.andThen next).Extends a (outcome'.andThen next') := by
  obtain ⟨⟨result, d⟩, reaches, moved⟩ := outcome
  obtain ⟨⟨result', d'⟩, reaches', moved'⟩ := outcome'
  cases first with
  | succeeds succeeded succeeded' within =>
      cases succeeded
      cases succeeded'
      have less := less_of_moved moved
      have less' := less_of_moved moved'
      exact ((second _ _ less less' within).seenFrom reaches reaches' less less').recording
  | fails failed entered =>
      cases failed
      refine .fails rfl fun value e same => ?_
      cases result' with
      | ok value' =>
          have further := (next' value' d' (less_of_moved moved')).reaches
          rw [show (next' value' d' (less_of_moved moved')).rest = e from
            congrArg Stopped.rest same] at further
          exact (entered _ _ rfl).of_reaches further
      | error error => cases same

/-- A rule that is tried goes on in both runs or is given up in both, if it is given up where it
has passed some of the further tokens. -/
theorem tried {outcome : Outcome moves c α} {outcome' : Outcome moves' c' α}
    {next : (value : α) → (d : Cursor) → c.Reaches d → d.remaining ≤ c.remaining →
      Outcome false c β}
    {next' : (value : α) → (d : Cursor) → c'.Reaches d → d.remaining ≤ c'.remaining →
      Outcome false c' β} {otherwise : Outcome false c β} {otherwise' : Outcome false c' β}
    (first : outcome.Extends a outcome')
    (second : ∀ value d reaches atMost reaches' atMost', a.Within d →
      (next value d reaches atMost).Extends a (next' value (a.extend d) reaches' atMost'))
    (other : otherwise.Extends a otherwise')
    (givenUp : ∀ value d reaches atMost, outcome'.stopped = ⟨.ok value, d⟩ → a.Entered d →
      next' value d reaches atMost = otherwise') :
    (outcome.tried next otherwise).Extends a (outcome'.tried next' otherwise') := by
  obtain ⟨⟨result, d⟩, reaches, moved⟩ := outcome
  obtain ⟨⟨result', d'⟩, reaches', moved'⟩ := outcome'
  cases first with
  | succeeds succeeded succeeded' within =>
      cases succeeded
      cases succeeded'
      exact (second _ _ reaches reaches.remaining_le reaches' reaches'.remaining_le
        within).recording
  | fails failed entered =>
      cases failed
      cases result' with
      | ok value =>
          have same := givenUp value d' reaches' reaches'.remaining_le rfl (entered _ _ rfl)
          exact (same ▸ other : Extends a otherwise _).recording
      | error error => exact other.recording

theorem ite {condition condition' : Prop} [Decidable condition] [Decidable condition']
    (same : condition' ↔ condition) {first second : Outcome moves c α}
    {first' second' : Outcome moves' c' α} (isTrue : condition → first.Extends a first')
    (isFalse : ¬condition → second.Extends a second') :
    (if condition then first else second).Extends a
      (if condition' then first' else second') := by
  by_cases holds : condition
  · rw [if_pos holds, if_pos (same.2 holds)]
    exact isTrue holds
  · rw [if_neg holds, if_neg (mt same.1 holds)]
    exact isFalse holds

end Outcome.Extends

/-! ## Tokens -/

namespace Cursor

/-- Where all tokens are passed, no test is passed that a closing parenthesis fails. -/
theorem nextIf?_at_end {a : Appendix} {c : Cursor} (ended : c.ahead = []) {test : Kind → Bool}
    (other : test (.mark .rparen) = false) :
    c.nextIf? test = none ∧ (a.extend c).nextIf? test = none := by
  obtain ⟨behind, tokens, stop⟩ := c
  cases (ended : tokens = [])
  refine ⟨rfl, ?_⟩
  simp [nextIf?, next?, Appendix.extend, Appendix.tail, a.closes, other]

section Tokens

variable {a : Appendix} {c : Cursor} (within : a.Within c)

include within

theorem extends_expect (kind : Kind) :
    (c.expect kind).Extends a ((a.extend c).expect kind) := by
  unfold expect
  refine within.next_cases (fun _ ended _ _ => .of_ended ended) fun past within _ => ?_
  exact .ite Iff.rfl (fun _ => .go (.ok within)) fun _ => .fail

theorem extends_expectMark (mark : Mark) :
    (c.expectMark mark).Extends a ((a.extend c).expectMark mark) :=
  extends_expect within _

theorem extends_expectKeyword (word : Keyword) :
    (c.expectKeyword word).Extends a ((a.extend c).expectKeyword word) :=
  extends_expect within _

theorem extends_expectName : c.expectName.Extends a (a.extend c).expectName := by
  unfold expectName
  refine within.next_cases (fun _ ended _ _ => .of_ended ended) fun past within _ => ?_
  dsimp only
  split
  · exact .go (.ok within)
  · exact .fail

theorem extends_optional {test : Kind → Bool}
    (other : c.ahead ≠ [] ∨ test (.mark .rparen) = false) :
    (c.optional test).Extends a ((a.extend c).optional test) := by
  unfold optional
  refine within.nextIf_cases other (.ok within) fun past _ within => ?_
  exact .lax (.go (.ok within))

theorem extends_optionalMark {mark : Mark} (other : mark ≠ .rparen) :
    (c.optionalMark mark).Extends a ((a.extend c).optionalMark mark) :=
  extends_optional within (.inr (decide_eq_false fun same => other (Kind.mark.inj same).symm))

theorem extends_optionalSemicolon :
    c.optionalSemicolon.Extends a (a.extend c).optionalSemicolon :=
  .map (extends_optionalMark within (by decide))

/-- A word in front of something else is passed in both runs or in none, although at the end they
look at different tokens. -/
theorem extends_optional_if {test : Kind → Bool} (other : test (.mark .rparen) = false)
    {condition condition' : Prop} [Decidable condition] [Decidable condition']
    (same : c.ahead ≠ [] → (condition' ↔ condition)) :
    (if condition then c.optional test else .ok false).Extends a
      (if condition' then (a.extend c).optional test else .ok false) := by
  by_cases ended : c.ahead = []
  · have none := @nextIf?_at_end a c ended test other
    rw [optional, optional, none.1, none.2, ite_self, ite_self]
    exact .ok within
  · exact .ite (same ended) (fun _ => extends_optional within (.inr other)) fun _ => .ok within

theorem extends_optionalModifier (word : String) :
    (c.optionalModifier word).Extends a ((a.extend c).optionalModifier word) :=
  extends_optional_if within (decide_eq_false nofun) fun next => by
    rw [modifies, modifies, a.any_peek?_extend next rfl]

theorem extends_propertyName : c.propertyName.Extends a (a.extend c).propertyName := by
  unfold propertyName
  refine within.next_cases (fun _ ended _ _ => .of_ended ended) fun past within _ => ?_
  dsimp only
  split
  · exact .go (.ok within)
  · exact .fail

theorem extends_properName : c.properName.Extends a (a.extend c).properName := by
  refine .andThen (extends_propertyName within) fun property d _ _ within => ?_
  split
  · exact .ok within
  · exact .fail

end Tokens

/-! ## Groups -/

theorem extends_closeAll {a : Appendix} (opening : Opening) (outer : Bracket)
    (brackets : List Bracket) {c : Cursor} (within : a.Within c) :
    (closeAll opening outer brackets c).Extends a
      (closeAll opening outer brackets (a.extend c)) := by
  cases brackets with
  | nil =>
      unfold closeAll
      exact .ok within
  | cons innermost others =>
      unfold closeAll
      refine within.next_cases (fun past _ _ entered => ?_) fun past within _ => ?_
      · dsimp only
        split
        · exact .passed entered
        split
        · split
          · exact .passed entered
          · exact .fail
        · exact .passed entered
      · have := past.less
        dsimp only
        split
        · exact .lax (.go (extends_closeAll opening outer _ within))
        split
        · refine .ite Iff.rfl (fun _ => .lax (.go (extends_closeAll opening outer _ within)))
            fun _ => .fail
        · exact .lax (.go (extends_closeAll opening outer _ within))
termination_by c.remaining

theorem extends_restOfGroup {a : Appendix} (bracket : Bracket) (opened : Span) {c : Cursor}
    (within : a.Within c) :
    (restOfGroup bracket opened c).Extends a (restOfGroup bracket opened (a.extend c)) :=
  .bind (extends_closeAll _ _ _ within) fun _ _ _ _ within => .ok within

theorem extends_closeAngles {a : Appendix} (opening : Opening) (depth : Nat) {c : Cursor}
    (within : a.Within c) :
    (closeAngles opening depth c).Extends a (closeAngles opening depth (a.extend c)) := by
  cases depth with
  | zero =>
      unfold closeAngles
      exact .ok within
  | succ depth =>
      unfold closeAngles
      refine within.next_cases (fun past _ _ entered => ?_) fun past within _ => ?_
      · dsimp only
        split
        · exact .passed entered
        split
        · exact .passed entered
        split <;> exact .passed entered
      · have := past.less
        dsimp only
        split
        · refine .lax (.go (.bind (extends_restOfGroup _ _ within) fun _ d atMost _ within => ?_))
          exact extends_closeAngles opening _ within
        · have again (depth : Nat) := extends_closeAngles opening depth within
          exact .ite Iff.rfl (fun _ => .lax (.go (again _))) fun _ =>
            .ite Iff.rfl (fun _ => .lax (.go (again _))) fun _ => .lax (.go (again _))
termination_by c.remaining

section Groups

variable {a : Appendix} {c : Cursor} (within : a.Within c)

include within

theorem extends_skipGroup : c.skipGroup.Extends a (a.extend c).skipGroup := by
  unfold skipGroup
  refine within.next_cases (fun _ ended _ _ => .of_ended ended) fun past within _ => ?_
  dsimp only
  split
  · exact .go (extends_restOfGroup _ _ within)
  · exact .fail

theorem extends_skipAngles : c.skipAngles.Extends a (a.extend c).skipAngles :=
  .andThen (extends_expectMark within _) fun _ _ _ _ within => extends_closeAngles _ _ within

theorem extends_skipAnglesIfAny : c.skipAnglesIfAny.Extends a (a.extend c).skipAnglesIfAny := by
  unfold skipAnglesIfAny
  rw [a.seesMark_extend c (by decide)]
  exact .ite Iff.rfl (fun _ => .lax (extends_skipAngles within)) fun _ => .ok within

end Groups

theorem extends_modifiers {a : Appendix} (earlier : Modifiers) {c : Cursor}
    (within : a.Within c) :
    (c.modifiers earlier).Extends a ((a.extend c).modifiers earlier) := by
  unfold modifiers
  have within' := within
  refine within.next_cases (fun past _ isClosing _ => ?_) fun past within ahead => ?_
  · dsimp only
    rw [isClosing]
    exact .ok within'
  · have := past.less
    dsimp only
    split
    · rw [modifies, modifies, a.any_peek?_extend (by simp [ahead]) rfl]
      refine .ite Iff.rfl (fun _ => ?_) fun _ => .ok within'
      split
      · exact .lax (.go (extends_modifiers _ within))
      · exact .ok within'
    · exact .ok within'
termination_by c.remaining

end Cursor

/-! ## Recursive rules -/

open Cursor Outcome

/-- A rule runs with the further tokens as it runs without them. -/
def Appendix.Extend {α : Type} {limit limit' : Cursor} (a : Appendix)
    (rule : (c : Cursor) → c.remaining < limit.remaining → Outcome true c α)
    (rule' : (c : Cursor) → c.remaining < limit'.remaining → Outcome true c α) : Prop :=
  ∀ {c : Cursor} (inside inside'), a.Within c →
    (rule c inside).Extends a (rule' (a.extend c) inside')

/-- The recursive rules run with the further tokens as they run without them. -/
structure Rules.Extend {limit limit' : Cursor} (a : Appendix) (rules : Rules limit)
    (rules' : Rules limit') : Prop where
  assignment : a.Extend rules.assignment rules'.assignment
  expression : a.Extend rules.expression rules'.expression
  binary (least : Nat) : a.Extend (rules.binary least) (rules'.binary least)
  unary : a.Extend rules.unary rules'.unary
  construction : a.Extend rules.construction rules'.construction
  type : a.Extend rules.type rules'.type
  typeOperand : a.Extend rules.typeOperand rules'.typeOperand

namespace Rules

variable {limit limit' : Cursor} {a : Appendix} {rules : Rules limit} {rules' : Rules limit'}
  {c : Cursor}

theorem extends_elements {α : Type} (opening : Opening) (closing : Mark)
    (missing : ParseError → ParseError)
    {element : (c : Cursor) → c.remaining < limit.remaining → Outcome true c α}
    {element' : (c : Cursor) → c.remaining < limit'.remaining → Outcome true c α}
    (each : a.Extend element element') (earlier : List α) {c : Cursor} (inside inside')
    (within : a.Within c) :
    (elements opening closing missing element earlier c inside).Extends a
      (elements opening closing missing element' earlier (a.extend c) inside') := by
  refine .of_next fun next => ?_
  unfold elements
  refine within.closing_cases ?_ (fun past within => .go (.ok within)) closing next
  refine .ite (by rw [a.atEnd_extend next]) (fun _ => .fail) fun _ => ?_
  refine .andThen (each _ _ within) fun value d less _ within => ?_
  refine within.mark_cases ?_ (fun past within => ?_) .comma (by decide)
  · exact .map (.mapError (extends_expectMark within _))
  · have := past.less
    exact .go (extends_elements opening closing missing each _ _ _ within)
termination_by c.remaining

section Arguments

variable (extends_ : rules.Extend a rules')

include extends_

theorem extends_spreadable : a.Extend rules.spreadable rules'.spreadable := by
  intro c inside inside' within
  unfold spreadable
  refine within.mark_cases ?_ (fun past within => ?_) .ellipsis (by decide)
  · exact extends_.assignment _ _ within
  · exact .go (.andThen (extends_.assignment _ _ within) fun _ _ _ _ within => .ok within)

theorem extends_arguments (inside inside') (within : a.Within c) :
    (rules.arguments c inside).Extends a (rules'.arguments (a.extend c) inside') :=
  .andThen (extends_expectMark within _) fun _ _ _ _ within =>
    extends_elements _ _ _ (extends_spreadable extends_) _ _ _ within

theorem extends_optionalArguments (inside inside') (within : a.Within c) :
    (rules.optionalArguments c inside).Extends a
      (rules'.optionalArguments (a.extend c) inside') := by
  unfold optionalArguments
  rw [a.seesMark_extend c (by decide)]
  exact .ite Iff.rfl (fun _ => .lax (extends_arguments extends_ _ _ within)) fun _ => .ok within

end Arguments

/-! ## Decorators -/

theorem extends_lastPart (name : String) {c : Cursor} (within : a.Within c) :
    (lastPart name c).Extends a (lastPart name (a.extend c)) := by
  unfold lastPart
  refine within.mark_cases (.ok within) (fun past within => ?_) .dot (by decide)
  have := past.less
  exact .lax (.go (.andThen (extends_properName within) fun _ _ _ _ within =>
    extends_lastPart _ within))
termination_by c.remaining

section Decorators

variable (extends_ : rules.Extend a rules')

include extends_

theorem extends_decoratorAfter (sign : Span) (inside inside') (within : a.Within c) :
    (rules.decoratorAfter sign c inside).Extends a
      (rules'.decoratorAfter sign (a.extend c) inside') :=
  .andThen (extends_expectName within) fun _ _ _ _ within =>
    .bind (extends_lastPart _ within) fun _ _ _ _ within =>
      .bind (extends_skipAnglesIfAny within) fun _ _ _ _ within =>
        .bind (extends_optionalArguments extends_ _ _ within) fun _ _ _ _ within => .ok within

theorem extends_decorators (earlier : List Decorator) {c : Cursor} (inside inside')
    (within : a.Within c) :
    (rules.decorators earlier c inside).Extends a
      (rules'.decorators earlier (a.extend c) inside') := by
  unfold decorators
  refine within.mark_cases (.ok within) (fun past within => ?_) .at (by decide)
  have := past.less
  exact .lax (.go (.andThen (extends_decoratorAfter extends_ _ _ _ within)
    fun _ _ _ _ within => extends_decorators _ _ _ within))
termination_by c.remaining

end Decorators

/-! ## Parameters -/

theorem extends_parameterName (within : a.Within c) :
    (parameterName c).Extends a (parameterName (a.extend c)) := by
  unfold parameterName
  have group := extends_skipGroup within
  refine within.next_cases (fun _ ended _ _ => .of_ended ended) fun past within _ => ?_
  dsimp only
  split
  · exact .go (.ok within)
  · exact .go (.ok within)
  · exact .map group
  · exact .map group
  · exact .fail

section Parameters

variable (extends_ : rules.Extend a rules')

include extends_

theorem extends_ascription (inside inside') (within : a.Within c) :
    (rules.ascription c inside).Extends a (rules'.ascription (a.extend c) inside') := by
  unfold ascription
  refine within.mark_cases (.ok within) (fun past within => ?_) .colon (by decide)
  exact .lax (.map (.go (extends_.type _ _ within)))

theorem extends_initial (inside inside') (within : a.Within c) :
    (rules.initial c inside).Extends a (rules'.initial (a.extend c) inside') := by
  unfold initial
  refine within.mark_cases (.ok within) (fun past within => ?_) .eq (by decide)
  exact .lax (.map (.go (extends_.assignment _ _ within)))

theorem extends_parameter : a.Extend rules.parameter rules'.parameter := by
  intro c inside inside' within
  refine .of_next fun next => ?_
  refine .bind (extends_decorators extends_ _ _ _ within) fun decorators c₁ _ _ within => ?_
  refine .bind (extends_modifiers _ within) fun modifiers c₂ _ _ within => ?_
  refine .bind (extends_optionalMark within (by decide)) fun rest c₃ _ _ within => ?_
  refine .andThen (extends_parameterName within) fun name c₄ _ _ within => ?_
  refine .bind (extends_optionalMark within (by decide)) fun optional c₅ _ _ within => ?_
  refine .bind (extends_ascription extends_ _ _ within) fun type c₆ _ _ within => ?_
  refine .bind (extends_initial extends_ _ _ within) fun value c₇ _ _ within => ?_
  rw [a.span_extend next]
  exact .ok within

theorem extends_parameters (inside inside') (within : a.Within c) :
    (rules.parameters c inside).Extends a (rules'.parameters (a.extend c) inside') :=
  .andThen (extends_expectMark within _) fun _ _ _ _ within =>
    extends_elements _ _ _ (extends_parameter extends_) _ _ _ within

end Parameters

end Rules

end InjectionCheck
