import InjectionCheck.Grammar.Items
import Mathlib.Data.List.Forall2

/-!
# Rules at cursors before tokens that are alike

Two sources whose tokens stand at the same places and differ at most in what strings denote
are read in parallel. A rule of the grammar does not look at what a string denotes to find
its way, so it passes the same number of tokens in both (`Outcome.Parallel`), and what it
gives is the same if the tokens that it passed are (`Passed.Same`).
-/

set_option autoImplicit false

namespace InjectionCheck

/-! ## Tokens -/

/-- Tokens at one place that differ at most in what a string denotes. -/
inductive Token.Alike : Token → Token → Prop where
  | same (token : Token) : Alike token token
  | string (content content' : String) (span : Span) :
    Alike ⟨.string content, span⟩ ⟨.string content', span⟩

namespace Token.Alike

variable {token token' : Token}

theorem span_eq (alike : token.Alike token') : token.span = token'.span := by
  cases alike <;> rfl

theorem kind_cases (alike : token.Alike token') :
    token.kind = token'.kind ∨
      ∃ content content', token.kind = .string content ∧ token'.kind = .string content' := by
  cases alike with
  | same token => exact .inl rfl
  | string content content' span => exact .inr ⟨content, content', rfl, rfl⟩

/-- What is the same for all strings is the same for kinds of tokens that are alike. -/
theorem kind_congr (alike : token.Alike token') {α : Type} (look : Kind → α)
    (strings : ∀ content content', look (.string content) = look (.string content')) :
    look token.kind = look token'.kind := by
  cases alike with
  | same token => rfl
  | string content content' span => exact strings content content'

end Token.Alike

/-- Tokens that are passed in two sources, in pairs. -/
abbrev Passed := List (Token × Token)

namespace Passed

/-- The tokens that differ are at some places. -/
def DifferAt (places : List Span) (passed : Passed) : Prop :=
  ∀ pair ∈ passed, pair.1 = pair.2 ∨ pair.1.span ∈ places

variable {places : List Span}

@[simp, grind =]
theorem differAt_nil : DifferAt places [] ↔ True :=
  iff_true_intro (List.forall_mem_nil _)

@[simp, grind =]
theorem differAt_cons {pair : Token × Token} {passed : Passed} :
    DifferAt places (pair :: passed) ↔
      (pair.1 = pair.2 ∨ pair.1.span ∈ places) ∧ DifferAt places passed :=
  List.forall_mem_cons

@[simp, grind =]
theorem differAt_append {first second : Passed} :
    DifferAt places (first ++ second) ↔ DifferAt places first ∧ DifferAt places second :=
  List.forall_mem_append

/-- The passed tokens are the same. -/
abbrev Clear (passed : Passed) : Prop := DifferAt [] passed

/-- Values are the same if the passed tokens are. -/
@[grind =]
def Same {α : Type} (passed : Passed) (value value' : α) : Prop := Clear passed → value = value'

theorem Same.refl {α : Type} (passed : Passed) (value : α) : Same passed value value :=
  fun _ => rfl

/-- Values are the same. -/
@[grind =]
def Equal {α : Type} (_ : Passed) (value value' : α) : Prop := value = value'

end Passed

open Passed

/-! ## Cursors -/

namespace Cursor

/-- Cursors before tokens that are alike. -/
structure Alike (c c' : Cursor) : Prop where
  ahead : List.Forall₂ Token.Alike c.ahead c'.ahead
  previousSpan : c.previousSpan = c'.previousSpan
  stop : c.stop = c'.stop
  sorted : (c.ahead.map (·.span.start)).Pairwise (· < ·)

/-- From two cursors, some tokens are passed up to two others. -/
structure Walk (c c' : Cursor) (passed : Passed) (d d' : Cursor) : Prop where
  ahead : c.ahead = passed.map Prod.fst ++ d.ahead
  ahead' : c'.ahead = passed.map Prod.snd ++ d'.ahead
  behind : d.behind = (passed.map Prod.fst).reverse ++ c.behind
  alike : d.Alike d'

variable {c c' d d' e e' : Cursor}

theorem Walk.refl (alike : c.Alike c') : Walk c c' [] c c' := ⟨rfl, rfl, rfl, alike⟩

theorem Walk.trans {first second : Passed} (walk : Walk c c' first d d')
    (further : Walk d d' second e e') : Walk c c' (first ++ second) e e' := by
  refine ⟨?_, ?_, ?_, further.alike⟩
  · rw [walk.ahead, further.ahead, List.map_append, List.append_assoc]
  · rw [walk.ahead', further.ahead', List.map_append, List.append_assoc]
  · rw [further.behind, walk.behind, List.map_append, List.reverse_append, List.append_assoc]

namespace Alike

variable (alike : c.Alike c')

include alike

theorem span : c.span = c'.span := by
  obtain ⟨ahead, -, stop, -⟩ := alike
  unfold Cursor.span
  generalize c.ahead = tokens, c'.ahead = tokens' at ahead
  cases ahead with
  | nil => simp [stop]
  | cons first _ => simp [first.span_eq]

theorem spanFrom (start : Span) : c.spanFrom start = c'.spanFrom start := by
  rw [Cursor.spanFrom, Cursor.spanFrom, alike.previousSpan]

/-- At two cursors nothing is next, or one token, or two strings. -/
@[elab_as_elim]
theorem next_cases {motive : Option c.Past → Option c'.Past → Prop}
    (none : c.ahead = [] → motive none none)
    (same : ∀ past past', past'.token = past.token →
      Walk c c' [(past.token, past.token)] past.rest past'.rest → motive (some past) (some past'))
    (string : ∀ past past' content content', past.token.kind = .string content →
      past'.token.kind = .string content' → past.token.span = past'.token.span →
      Walk c c' [(past.token, past'.token)] past.rest past'.rest →
        motive (some past) (some past')) :
    motive c.next? c'.next? := by
  obtain ⟨behind, ahead, stop⟩ := c
  obtain ⟨behind', ahead', stop'⟩ := c'
  obtain ⟨tokens, -, atStop, sorted⟩ := alike
  cases tokens with
  | nil => exact none rfl
  | cons first others =>
      cases first with
      | same token =>
          exact same _ _ rfl ⟨rfl, rfl, rfl, others, rfl, atStop, (List.pairwise_cons.1 sorted).2⟩
      | string content content' span =>
          exact string _ _ content content' rfl rfl rfl
            ⟨rfl, rfl, rfl, others, rfl, atStop, (List.pairwise_cons.1 sorted).2⟩

/-- At two cursors nothing that passes a test is next, or one token. -/
@[elab_as_elim]
theorem nextIf_cases {test : Kind → Bool} {motive : Option c.Past → Option c'.Past → Prop}
    (strings : ∀ content, test (.string content) = false) (none : motive none none)
    (some : ∀ past past', past'.token = past.token → test past.token.kind = true →
      Walk c c' [(past.token, past.token)] past.rest past'.rest → motive (some past) (some past')) :
    motive (c.nextIf? test) (c'.nextIf? test) := by
  unfold Cursor.nextIf?
  refine alike.next_cases (fun _ => none) (fun past past' same walk => ?_)
    fun past past' content content' kind kind' _ _ => ?_
  · dsimp only
    rw [same]
    split
    · next passes => exact some past past' same passes walk
    · exact none
  · simpa only [kind, kind', strings, Bool.false_eq_true, if_false] using none

variable {motive : Option c.Past → Option c'.Past → Prop} (none : motive none none)
  (some : ∀ past past', past'.token = past.token →
    Walk c c' [(past.token, past.token)] past.rest past'.rest → motive (some past) (some past'))

include none some

@[elab_as_elim]
theorem mark_cases (mark : Mark) : motive (c.mark? mark) (c'.mark? mark) :=
  @nextIf_cases c c' alike (· = .mark mark) motive (by simp) none fun past past' same _ walk =>
    some past past' same walk

@[elab_as_elim]
theorem keyword_cases (word : Keyword) : motive (c.keyword? word) (c'.keyword? word) :=
  @nextIf_cases c c' alike (· = .keyword word) motive (by simp) none fun past past' same _ walk =>
    some past past' same walk

@[elab_as_elim]
theorem name_cases (text : String) : motive (c.name? text) (c'.name? text) :=
  @nextIf_cases c c' alike (· = .name text) motive (by simp) none fun past past' same _ walk =>
    some past past' same walk

end Alike

end Cursor

open Cursor

/-! ## Rules in parallel -/

/-- Results are alike if both are errors, or both are values that are related. -/
inductive ResultsAlike {α : Type} (relation : α → α → Prop) :
    Except ParseError α → Except ParseError α → Prop where
  | ok {value value' : α} (related : relation value value') :
    ResultsAlike relation (.ok value) (.ok value')
  | error (error error' : ParseError) : ResultsAlike relation (.error error) (.error error')

/-- Two rules pass tokens that are alike, and both fail or both give values that are related. -/
def Outcome.Parallel {α : Type} {moves : Bool} {c c' : Cursor}
    (relation : Passed → α → α → Prop) (outcome : Outcome moves c α)
    (outcome' : Outcome moves c' α) : Prop :=
  ∃ passed, Walk c c' passed outcome.rest outcome'.rest ∧
    ResultsAlike (relation passed) outcome.result outcome'.result

namespace Outcome.Parallel

section Combinators

variable {α β : Type} {moves : Bool} {c c' : Cursor} {relation : Passed → α → α → Prop}
  {relation' : Passed → β → β → Prop}

/-- The second of two relations holds where the first one does. -/
theorem mono {weaker : Passed → α → α → Prop} {outcome : Outcome moves c α}
    {outcome' : Outcome moves c' α} (parallel : Parallel relation outcome outcome')
    (weaken : ∀ passed value value', relation passed value value' → weaker passed value value') :
    Parallel weaker outcome outcome' := by
  obtain ⟨passed, walk, results⟩ := parallel
  refine ⟨passed, walk, ?_⟩
  generalize outcome.result = result, outcome'.result = result' at results
  cases results with
  | ok related => exact .ok (weaken _ _ _ related)
  | error => exact .error _ _

theorem ok (alike : c.Alike c') {value value' : α} (related : relation [] value value') :
    Parallel relation (Outcome.ok value : Outcome false c α) (Outcome.ok value' : Outcome false c' α) :=
  ⟨[], .refl alike, .ok related⟩

theorem fail (alike : c.Alike c') {error error' : ParseError} :
    Parallel relation (Outcome.fail error : Outcome moves c α)
      (Outcome.fail error' : Outcome moves c' α) :=
  ⟨[], .refl alike, .error _ _⟩

theorem lax {outcome : Outcome moves c α} {outcome' : Outcome moves c' α}
    (parallel : Parallel relation outcome outcome') : Parallel relation outcome.lax outcome'.lax :=
  parallel

theorem go {past : c.Past} {past' : c'.Past} {pair : Token × Token}
    (walk : Walk c c' [pair] past.rest past'.rest) {outcome : Outcome moves past.rest α}
    {outcome' : Outcome moves past'.rest α}
    (parallel : Parallel (fun further => relation (pair :: further)) outcome outcome') :
    Parallel relation (past.go outcome) (past'.go outcome') := by
  obtain ⟨further, walk', results⟩ := parallel
  exact ⟨pair :: further, walk.trans walk', results⟩

theorem bind {outcome : Outcome false c α} {outcome' : Outcome false c' α}
    {next : (value : α) → (d : Cursor) → d.remaining ≤ c.remaining → Outcome moves d β}
    {next' : (value : α) → (d : Cursor) → d.remaining ≤ c'.remaining → Outcome moves d β}
    (first : Parallel relation outcome outcome')
    (second : ∀ {passed value value' d d'} atMost atMost', Walk c c' passed d d' →
      relation passed value value' →
        Parallel (fun further => relation' (passed ++ further)) (next value d atMost)
          (next' value' d' atMost')) :
    Parallel relation' (outcome.bind next) (outcome'.bind next') := by
  obtain ⟨⟨result, d⟩, reaches, moved⟩ := outcome
  obtain ⟨⟨result', d'⟩, reaches', moved'⟩ := outcome'
  obtain ⟨passed, walk, results⟩ := first
  cases results with
  | ok related =>
      obtain ⟨further, walk', results⟩ :=
        second reaches.remaining_le reaches'.remaining_le walk related
      exact ⟨passed ++ further, walk.trans walk', results⟩
  | error error error' => exact ⟨passed, walk, .error error error'⟩

theorem andThen {outcome : Outcome true c α} {outcome' : Outcome true c' α}
    {next : (value : α) → (d : Cursor) → d.remaining < c.remaining → Outcome moves d β}
    {next' : (value : α) → (d : Cursor) → d.remaining < c'.remaining → Outcome moves d β}
    (first : Parallel relation outcome outcome')
    (second : ∀ {passed value value' d d'} less less', Walk c c' passed d d' →
      relation passed value value' →
        Parallel (fun further => relation' (passed ++ further)) (next value d less)
          (next' value' d' less')) :
    Parallel relation' (outcome.andThen next) (outcome'.andThen next') := by
  obtain ⟨⟨result, d⟩, reaches, moved⟩ := outcome
  obtain ⟨⟨result', d'⟩, reaches', moved'⟩ := outcome'
  obtain ⟨passed, walk, results⟩ := first
  cases results with
  | @ok value value' related =>
      obtain ⟨further, walk', results⟩ :=
        second (moved rfl ⟨value, rfl⟩) (moved' rfl ⟨value', rfl⟩) walk related
      exact ⟨passed ++ further, walk.trans walk', results⟩
  | error error error' => exact ⟨passed, walk, .error error error'⟩

theorem map {change change' : α → β} {outcome : Outcome moves c α} {outcome' : Outcome moves c' α}
    (parallel : Parallel (fun passed value value' =>
      relation' passed (change value) (change' value')) outcome outcome') :
    Parallel relation' (outcome.map change) (outcome'.map change') := by
  obtain ⟨⟨result, d⟩, reaches, moved⟩ := outcome
  obtain ⟨⟨result', d'⟩, reaches', moved'⟩ := outcome'
  obtain ⟨passed, walk, results⟩ := parallel
  cases results with
  | ok related => exact ⟨passed, walk, .ok related⟩
  | error error error' => exact ⟨passed, walk, .error error error'⟩

theorem mapAt {change change' : α → Cursor → β} {outcome : Outcome moves c α}
    {outcome' : Outcome moves c' α} (parallel : Parallel relation outcome outcome')
    (changed : ∀ {passed value value' d d'}, Walk c c' passed d d' → relation passed value value' →
      relation' passed (change value d) (change' value' d')) :
    Parallel relation' (outcome.mapAt change) (outcome'.mapAt change') := by
  obtain ⟨⟨result, d⟩, reaches, moved⟩ := outcome
  obtain ⟨⟨result', d'⟩, reaches', moved'⟩ := outcome'
  obtain ⟨passed, walk, results⟩ := parallel
  cases results with
  | ok related => exact ⟨passed, walk, .ok (changed walk related)⟩
  | error error error' => exact ⟨passed, walk, .error error error'⟩

theorem mapError {change change' : ParseError → ParseError} {outcome : Outcome moves c α}
    {outcome' : Outcome moves c' α} (parallel : Parallel relation outcome outcome') :
    Parallel relation (outcome.mapError change) (outcome'.mapError change') := by
  obtain ⟨⟨result, d⟩, reaches, moved⟩ := outcome
  obtain ⟨⟨result', d'⟩, reaches', moved'⟩ := outcome'
  obtain ⟨passed, walk, results⟩ := parallel
  cases results with
  | ok related => exact ⟨passed, walk, .ok related⟩
  | error error error' => exact ⟨passed, walk, .error _ _⟩

/-- A rule that is seen from where an earlier one started. -/
theorem following {d d' : Cursor} {passed : Passed} (walk : Walk c c' passed d d')
    {reaches : c.Reaches d} {reaches' : c'.Reaches d'} {outcome : Outcome moves d α}
    {outcome' : Outcome moves d' α}
    (parallel : Parallel (fun further => relation (passed ++ further)) outcome outcome') :
    Parallel relation (outcome.following reaches) (outcome'.following reaches') := by
  obtain ⟨further, walk', results⟩ := parallel
  exact ⟨passed ++ further, walk.trans walk', results⟩

theorem tried {outcome : Outcome moves c α} {outcome' : Outcome moves c' α}
    {next : (value : α) → (d : Cursor) → c.Reaches d → d.remaining ≤ c.remaining →
      Outcome false c β}
    {next' : (value : α) → (d : Cursor) → c'.Reaches d → d.remaining ≤ c'.remaining →
      Outcome false c' β}
    {otherwise : Outcome false c β} {otherwise' : Outcome false c' β}
    (first : Parallel relation outcome outcome')
    (second : ∀ {passed value value' d d'} reaches reaches' atMost atMost',
      Walk c c' passed d d' → relation passed value value' →
        Parallel relation' (next value d reaches atMost) (next' value' d' reaches' atMost'))
    (other : Parallel relation' otherwise otherwise') :
    Parallel relation' (outcome.tried next otherwise) (outcome'.tried next' otherwise') := by
  obtain ⟨⟨result, d⟩, reaches, moved⟩ := outcome
  obtain ⟨⟨result', d'⟩, reaches', moved'⟩ := outcome'
  obtain ⟨passed, walk, results⟩ := first
  cases results with
  | ok related =>
      exact second reaches reaches' reaches.remaining_le reaches'.remaining_le walk related
  | error => exact other

theorem ite {condition : Prop} [Decidable condition] {first second : Outcome moves c α}
    {first' second' : Outcome moves c' α}
    (isTrue : condition → Parallel relation first first')
    (isFalse : ¬condition → Parallel relation second second') :
    Parallel relation (if condition then first else second)
      (if condition then first' else second') := by
  split
  · next holds => exact isTrue holds
  · next fails => exact isFalse fails

end Combinators

end Outcome.Parallel

open Outcome

/-! ## Marks, names and words -/

namespace Cursor

namespace Alike

variable {c c' : Cursor} (alike : c.Alike c') {α : Type}

include alike

/-- What is the same for all strings is the same for the tokens ahead. -/
theorem peek_congr (distance : Nat) (look : Option Kind → α)
    (strings : ∀ content content', look (some (.string content)) = look (some (.string content'))) :
    look (c.peek? distance) = look (c'.peek? distance) := by
  obtain ⟨ahead, -, -, -⟩ := alike
  unfold peek?
  generalize c.ahead = tokens, c'.ahead = tokens' at ahead
  induction ahead generalizing distance with
  | nil => rfl
  | cons first others ih =>
      cases distance with
      | zero => exact first.kind_congr (fun kind => look (some kind)) strings
      | succ distance => exact ih distance

theorem kind_congr (look : Option Kind → α)
    (strings : ∀ content content', look (some (.string content)) = look (some (.string content'))) :
    look c.kind? = look c'.kind? := by
  have same (c : Cursor) : c.kind? = c.peek? 0 := by
    rw [kind?, peek?, List.head?_eq_getElem?]
  rw [same, same]
  exact alike.peek_congr 0 look strings

/-- The next tokens are of one kind, or strings. -/
theorem kind_cases : c.kind? = c'.kind? ∨ ∃ content content',
    c.kind? = some (.string content) ∧ c'.kind? = some (.string content') := by
  obtain ⟨ahead, -, -, -⟩ := alike
  unfold Cursor.kind?
  generalize c.ahead = tokens, c'.ahead = tokens' at ahead
  cases ahead with
  | nil => exact .inl rfl
  | cons first others => simpa using first.kind_cases

theorem kind_eq_iff {kind : Kind} (strings : ∀ content, kind ≠ .string content) :
    c.kind? = some kind ↔ c'.kind? = some kind := by
  have same := alike.kind_congr (fun found => decide (found = some kind)) fun content content' => by
    simp [(strings content).symm, (strings content').symm]
  simpa using same

theorem peek_eq_iff (distance : Nat) {kind : Kind} (strings : ∀ content, kind ≠ .string content) :
    c.peek? distance = some kind ↔ c'.peek? distance = some kind := by
  have same := alike.peek_congr distance (fun found => decide (found = some kind))
    fun content content' => by simp [(strings content).symm, (strings content').symm]
  simpa using same

theorem atEnd : c.atEnd = c'.atEnd := by
  obtain ⟨ahead, -, -, -⟩ := alike
  unfold Cursor.atEnd
  generalize c.ahead = tokens, c'.ahead = tokens' at ahead
  cases ahead <;> rfl

theorem seesMark (mark : Mark) : c.seesMark mark = c'.seesMark mark :=
  alike.kind_congr (fun kind => decide (kind = some (.mark mark))) (by simp)

theorem seesName (text : String) : c.seesName text = c'.seesName text :=
  alike.kind_congr (fun kind => decide (kind = some (.name text))) (by simp)

theorem seesSomeName : c.seesSomeName = c'.seesSomeName := by
  unfold Cursor.seesSomeName
  rcases alike.kind_cases with same | ⟨content, content', kind, kind'⟩
  · rw [same]
  · rw [kind, kind']

theorem modifies : c.modifies = c'.modifies :=
  alike.peek_congr 1 (·.any fun kind : Kind => !kind.endsName) (by simp [Kind.endsName])

theorem namesProperty (distance : Nat) : c.namesProperty distance = c'.namesProperty distance :=
  alike.peek_congr distance (·.any fun kind : Kind => kind.propertyName?.isSome)
    (by simp [Kind.propertyName?])

end Alike

section Tokens

variable {c c' : Cursor} (alike : c.Alike c')

include alike

/-- The token that is expected is the only one that is passed. -/
theorem parallel_expect {kind : Kind}
    (strings : ∀ content, (Kind.string content).agrees kind = false) :
    Parallel (fun passed token token' => token = token' ∧ passed = [(token, token)])
      (c.expect kind) (c'.expect kind) := by
  unfold expect
  refine alike.next_cases (fun _ => .fail alike) (fun past past' same walk => ?_)
    fun past past' content content' kind kind' _ walk => ?_
  · dsimp only
    rw [same]
    exact .ite (fun _ => .go walk (.ok walk.alike ⟨rfl, rfl⟩)) fun _ => .fail alike
  · simp only [kind, kind', strings]
    exact .fail alike

theorem parallel_expectMark (mark : Mark) :
    Parallel Equal (c.expectMark mark) (c'.expectMark mark) :=
  (parallel_expect alike fun _ => rfl).mono fun _ _ _ related => related.1

theorem parallel_expectKeyword (word : Keyword) :
    Parallel Equal (c.expectKeyword word) (c'.expectKeyword word) :=
  (parallel_expect alike fun _ => rfl).mono fun _ _ _ related => related.1

theorem parallel_expectName : Parallel Equal c.expectName c'.expectName := by
  unfold expectName
  refine alike.next_cases (fun _ => .fail alike) (fun past past' same walk => ?_)
    fun past past' content content' kind kind' _ walk => ?_
  · dsimp only
    rw [same]
    split
    · exact .go walk (.ok walk.alike rfl)
    · exact .fail alike
  · simp only [kind, kind']
    exact .fail alike

theorem parallel_optional {test : Kind → Bool}
    (strings : ∀ content, test (.string content) = false) :
    Parallel Equal (c.optional test) (c'.optional test) := by
  unfold optional
  refine alike.nextIf_cases strings (.ok alike rfl) fun past past' same passes walk => ?_
  exact .lax (.go walk (.ok walk.alike rfl))

theorem parallel_optional_const (test : Bool) :
    Parallel Equal (c.optional fun _ => test) (c'.optional fun _ => test) := by
  cases test with
  | false => exact parallel_optional alike fun _ => rfl
  | true =>
      unfold optional nextIf?
      refine alike.next_cases (fun _ => .ok alike rfl) (fun past past' _ walk => ?_)
        fun past past' _ _ _ _ _ walk => ?_
      · exact .lax (.go walk (.ok walk.alike rfl))
      · exact .lax (.go walk (.ok walk.alike rfl))

theorem parallel_optionalMark (mark : Mark) :
    Parallel Equal (c.optionalMark mark) (c'.optionalMark mark) :=
  parallel_optional alike (by simp)

theorem parallel_optionalSemicolon :
    Parallel Equal c.optionalSemicolon c'.optionalSemicolon :=
  .map ((parallel_optionalMark alike .semicolon).mono fun _ _ _ _ => rfl)

theorem parallel_optionalModifier (word : String) :
    Parallel Equal (c.optionalModifier word) (c'.optionalModifier word) := by
  unfold optionalModifier
  rw [alike.modifies]
  exact .ite (fun _ => parallel_optional alike (by simp)) fun _ => .ok alike rfl

/-- What names a property names something in both sources or in none. -/
theorem parallel_propertyName_isSome :
    Parallel (fun passed property property' =>
      Same passed property property' ∧ property.name.isSome = property'.name.isSome)
      c.propertyName c'.propertyName := by
  unfold propertyName
  refine alike.next_cases (fun _ => .fail alike) (fun past past' same walk => ?_)
    fun past past' content content' kind kind' span walk => ?_
  · dsimp only
    rw [same]
    cases past.token.kind.propertyName? with
    | some name => exact .go walk (.ok walk.alike ⟨fun _ => rfl, rfl⟩)
    | none => exact .fail alike
  · simp only [kind, kind', Kind.propertyName?]
    refine .go walk (.ok walk.alike ⟨fun clear => ?_, rfl⟩)
    simp_all

theorem parallel_propertyName : Parallel Same c.propertyName c'.propertyName :=
  (parallel_propertyName_isSome alike).mono fun _ _ _ related => related.1

theorem parallel_properName : Parallel Same c.properName c'.properName := by
  unfold properName
  refine (parallel_propertyName_isSome alike).andThen fun {_ property property' _ _} _ _ walk
    related => ?_
  obtain ⟨same, isSome⟩ := related
  obtain ⟨name, span⟩ := property
  obtain ⟨name', span'⟩ := property'
  cases name with
  | none =>
      cases name' with
      | none => exact .fail walk.alike
      | some name' => cases isSome
  | some name =>
      cases name' with
      | none => cases isSome
      | some name' =>
          refine .ok walk.alike fun clear => ?_
          rw [List.append_nil] at clear
          cases same clear
          rfl

end Tokens

/-! ## Groups -/

theorem parallel_closeAll {c c' : Cursor} (alike : c.Alike c') (opening opening' : Opening)
    (outer : Bracket) (brackets : List Bracket) :
    Parallel Equal (closeAll opening outer brackets c) (closeAll opening' outer brackets c') := by
  cases brackets with
  | nil =>
    unfold closeAll
    exact .ok alike rfl
  | cons innermost others =>
  unfold closeAll
  refine alike.next_cases (fun _ => .fail alike) (fun past past' same walk => ?_)
    fun past past' content content' kind kind' _ walk => ?_
  · dsimp only
    rw [same]
    have := past.less
    have again (brackets : List Bracket) := parallel_closeAll walk.alike opening opening' outer brackets
    cases past.token.kind.opens? with
    | some bracket => exact .lax (.go walk (again _))
    | none =>
    cases past.token.kind.closes? with
    | some bracket => exact .ite (fun _ => .lax (.go walk (again _))) fun _ => .fail alike
    | none => exact .lax (.go walk (again _))
  · have := past.less
    simp only [kind, kind', Kind.opens?, Kind.closes?]
    exact .lax (.go walk (parallel_closeAll walk.alike opening opening' outer _))
termination_by c.remaining

section Groups

variable {c c' : Cursor} (alike : c.Alike c')

include alike

theorem parallel_restOfGroup (bracket : Bracket) (opened : Span) :
    Parallel Equal (restOfGroup bracket opened c) (restOfGroup bracket opened c') := by
  unfold restOfGroup
  refine (parallel_closeAll alike _ _ bracket [bracket]).bind fun _ _ walk _ => ?_
  exact .ok walk.alike (walk.alike.spanFrom opened)

theorem parallel_skipGroup : Parallel Equal c.skipGroup c'.skipGroup := by
  unfold skipGroup
  refine alike.next_cases (fun _ => .fail alike) (fun past past' same walk => ?_)
    fun past past' content content' kind kind' _ walk => ?_
  · dsimp only
    rw [same]
    cases past.token.kind.opens? with
    | some bracket => exact .go walk (parallel_restOfGroup walk.alike bracket _)
    | none => exact .fail alike
  · simp only [kind, kind', Kind.opens?]
    exact .fail alike

end Groups

theorem parallel_closeAngles {c c' : Cursor} (alike : c.Alike c') (opening opening' : Opening)
    (depth : Nat) :
    Parallel Equal (closeAngles opening depth c) (closeAngles opening' depth c') := by
  cases depth with
  | zero =>
    unfold closeAngles
    exact .ok alike rfl
  | succ depth =>
  unfold closeAngles
  refine alike.next_cases (fun _ => .fail alike) (fun past past' same walk => ?_)
    fun past past' content content' kind kind' _ walk => ?_
  · dsimp only
    rw [same]
    have := past.less
    have again (depth : Nat) := parallel_closeAngles walk.alike opening opening' depth
    cases past.token.kind.opens? with
    | some bracket =>
        refine .lax (.go walk ((parallel_restOfGroup walk.alike bracket _).bind
          fun _ _ walk' _ => ?_))
        exact parallel_closeAngles walk'.alike opening opening' _
    | none =>
        refine .ite (fun _ => .lax (.go walk (again _))) fun _ => ?_
        exact .ite (fun _ => .lax (.go walk (again _))) fun _ => .lax (.go walk (again _))
  · have := past.less
    simp only [kind, kind', Kind.opens?, reduceCtorEq, if_false]
    exact .lax (.go walk (parallel_closeAngles walk.alike opening opening' _))
termination_by c.remaining

section Groups

variable {c c' : Cursor} (alike : c.Alike c')

include alike

theorem parallel_skipAngles : Parallel Equal c.skipAngles c'.skipAngles := by
  unfold skipAngles
  refine (parallel_expectMark alike .lt).andThen fun _ _ walk same => ?_
  exact parallel_closeAngles walk.alike _ _ 1

theorem parallel_skipAnglesIfAny : Parallel Equal c.skipAnglesIfAny c'.skipAnglesIfAny := by
  unfold skipAnglesIfAny
  rw [alike.seesMark]
  exact .ite (fun _ => .lax (parallel_skipAngles alike)) fun _ => .ok alike rfl

end Groups

theorem parallel_restOfStatement {c c' : Cursor} (alike : c.Alike c') :
    Parallel Equal c.restOfStatement c'.restOfStatement := by
  unfold restOfStatement
  refine alike.next_cases (fun _ => .ok alike rfl) (fun past past' same walk => ?_)
    fun past past' content content' kind kind' _ walk => ?_
  · dsimp only
    rw [same]
    have := past.less
    refine .ite (fun _ => .lax (.go walk (.ok walk.alike rfl))) fun _ => ?_
    refine .ite (fun _ => .ok alike rfl) fun _ => ?_
    cases past.token.kind.opens? with
    | some bracket =>
        refine .lax (.go walk ((parallel_restOfGroup walk.alike bracket _).bind
          fun _ _ walk' _ => ?_))
        exact parallel_restOfStatement walk'.alike
    | none =>
        refine .ite (fun _ => .fail alike) fun _ => ?_
        exact .lax (.go walk (parallel_restOfStatement walk.alike))
  · have := past.less
    simp only [kind, kind', Kind.startsItem, Kind.opens?, Kind.closes?, reduceCtorEq]
    exact .lax (.go walk (parallel_restOfStatement walk.alike))
termination_by c.remaining

section Statements

variable {c c' : Cursor}

theorem Past.parallel_skipStatement {past : c.Past} {past' : c'.Past} (alike : c.Alike c')
    (token : past.token.Alike past'.token)
    (walk : Walk c c' [(past.token, past'.token)] past.rest past'.rest) :
    Parallel Equal past.skipStatement past'.skipStatement := by
  unfold skipStatement
  rw [← token.kind_congr Kind.opens? fun _ _ => rfl, ← token.kind_congr Kind.closes? fun _ _ => rfl,
    ← token.span_eq]
  cases past.token.kind.opens? with
  | some bracket =>
      refine .go walk ((parallel_restOfGroup walk.alike bracket _).bind fun _ _ walk' _ => ?_)
      exact parallel_restOfStatement walk'.alike
  | none =>
      exact .ite (fun _ => .fail alike) fun _ => .go walk (parallel_restOfStatement walk.alike)

end Statements

end Cursor

end InjectionCheck
