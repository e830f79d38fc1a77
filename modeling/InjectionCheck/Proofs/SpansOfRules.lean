import InjectionCheck.Grammar.Items

/-!
# Where trees and errors stand

What a rule of the grammar gives stands between the token at which the rule starts and the
last token that it passes, each part within the span of the whole (`Expression.Lies` and the
like), and no expression or type is empty. An error and what it points back at stand within
the text (`ParseError.Lies`).

Tokens follow each other in the text (`Cursor.Placed`). A span that starts with the first
token of a rule and ends with the last one that is passed has these two places as its ends
(`Cursor.lies_spanFrom`), so each rule only has to say which tokens its parts come from
(`Outcome.Yields`).
-/

set_option autoImplicit false

namespace InjectionCheck

variable {cuts : Nat → Prop}

/-! ## Spans -/

/-- A span with bytes between two places, which starts and ends at places where a text may
be cut. -/
structure Span.Lies (cuts : Nat → Prop) (low high : Nat) (span : Span) : Prop where
  low_le : low ≤ span.start
  nonempty : span.start < span.stop
  le_high : span.stop ≤ high
  cut_start : cuts span.start
  cut_stop : cuts span.stop

/-- A span up to some place, possibly empty, which starts and ends where a text may be cut. -/
structure Span.Stands (cuts : Nat → Prop) (high : Nat) (span : Span) : Prop where
  ordered : span.start ≤ span.stop
  le_high : span.stop ≤ high
  cut_start : cuts span.start
  cut_stop : cuts span.stop

/-- A span, and what it points back at, up to some place. -/
structure ParseError.Lies (cuts : Nat → Prop) (high : Nat) (error : ParseError) : Prop where
  span : error.span.Stands cuts high
  opening : ∀ opening ∈ error.opening, opening.span.Stands cuts high

section

variable {low low' high high' : Nat} {span : Span}

theorem Span.Lies.mono (lies : span.Lies cuts low high) (lower : low' ≤ low)
    (higher : high ≤ high') : span.Lies cuts low' high' :=
  ⟨Nat.le_trans lower lies.low_le, lies.nonempty, Nat.le_trans lies.le_high higher,
    lies.cut_start, lies.cut_stop⟩

theorem Span.Lies.stands (lies : span.Lies cuts low high) : span.Stands cuts high :=
  ⟨Nat.le_of_lt lies.nonempty, lies.le_high, lies.cut_start, lies.cut_stop⟩

end

/-! ## Trees -/

mutual

/-- The parts of an expression lie between two places. -/
def ExpressionForm.Lies (cuts : Nat → Prop) (low high : Nat) : ExpressionForm → Prop
  | .name _ | .string _ | .template | .number | .boolean _ | .null | .this | .function => True
  | .object properties => Property.LieAll cuts low high properties
  | .array elements => Expression.LieAll cuts low high elements
  | .spread operand => operand.Lies cuts low high
  | .call callee typeArguments arguments =>
    callee.Lies cuts low high ∧ TypeExpression.LieAll cuts low high typeArguments ∧
      Expression.LieAll cuts low high arguments
  | .construct callee arguments =>
    callee.Lies cuts low high ∧ Expression.LieAll cuts low high arguments
  | .member object _ => object.Lies cuts low high
  | .index object index => object.Lies cuts low high ∧ index.Lies cuts low high
  | .unary operand => operand.Lies cuts low high
  | .binary left right => left.Lies cuts low high ∧ right.Lies cuts low high
  | .conditional test consequent alternative =>
    test.Lies cuts low high ∧ consequent.Lies cuts low high ∧ alternative.Lies cuts low high

/-- An expression lies between two places, and its parts within its span. -/
def Expression.Lies (cuts : Nat → Prop) (low high : Nat) : Expression → Prop
  | ⟨form, span⟩ => span.Lies cuts low high ∧ form.Lies cuts span.start span.stop

/-- Expressions lie between two places. -/
def Expression.LieAll (cuts : Nat → Prop) (low high : Nat) : List Expression → Prop
  | [] => True
  | expression :: others =>
    expression.Lies cuts low high ∧ Expression.LieAll cuts low high others

/-- A property lies between two places, and its value within its span. -/
def Property.Lies (cuts : Nat → Prop) (low high : Nat) : Property → Prop
  | ⟨_, value, span⟩ => span.Lies cuts low high ∧ value.Lies cuts span.start span.stop

/-- Properties lie between two places. -/
def Property.LieAll (cuts : Nat → Prop) (low high : Nat) : List Property → Prop
  | [] => True
  | property :: others => property.Lies cuts low high ∧ Property.LieAll cuts low high others

/-- The parts of a type lie between two places. -/
def TypeForm.Lies (cuts : Nat → Prop) (low high : Nat) : TypeForm → Prop
  | .stringLiteral _ | .otherLiteral | .typeOf _ | .unmodelled => True
  | .named _ arguments => TypeExpression.LieAll cuts low high arguments
  | .array element => element.Lies cuts low high
  | .union members | .intersection members | .tuple members =>
    TypeExpression.LieAll cuts low high members
  | .object members => TypeMember.LieAll cuts low high members
  | .function parameters result =>
    Parameter.LieAll cuts low high parameters ∧ result.Lies cuts low high

/-- A type lies between two places, and its parts within its span. -/
def TypeExpression.Lies (cuts : Nat → Prop) (low high : Nat) : TypeExpression → Prop
  | ⟨form, span⟩ => span.Lies cuts low high ∧ form.Lies cuts span.start span.stop

/-- Types lie between two places. -/
def TypeExpression.LieAll (cuts : Nat → Prop) (low high : Nat) : List TypeExpression → Prop
  | [] => True
  | type :: others => type.Lies cuts low high ∧ TypeExpression.LieAll cuts low high others

/-- A type that may be left out lies between two places. -/
def TypeExpression.LiesIfAny (cuts : Nat → Prop) (low high : Nat) : Option TypeExpression → Prop
  | none => True
  | some type => type.Lies cuts low high

/-- A member of a type lies between two places, and its types within its span. -/
def TypeMember.Lies (cuts : Nat → Prop) (low high : Nat) : TypeMember → Prop
  | ⟨_, _, _, kind, span⟩ => span.Lies cuts low high ∧ kind.Lies cuts span.start span.stop

/-- Members of a type lie between two places. -/
def TypeMember.LieAll (cuts : Nat → Prop) (low high : Nat) : List TypeMember → Prop
  | [] => True
  | member :: others => member.Lies cuts low high ∧ TypeMember.LieAll cuts low high others

/-- The types of a property or method lie between two places. -/
def TypeMemberKind.Lies (cuts : Nat → Prop) (low high : Nat) : TypeMemberKind → Prop
  | .property type => TypeExpression.LiesIfAny cuts low high type
  | .method parameters result =>
    Parameter.LieAll cuts low high parameters ∧ TypeExpression.LiesIfAny cuts low high result

/-- A parameter lies between two places, and its parts within its span. -/
def Parameter.Lies (cuts : Nat → Prop) (low high : Nat) : Parameter → Prop
  | ⟨decorators, _, _, _, _, type, _, span⟩ =>
    span.Lies cuts low high ∧ Decorator.LieAll cuts span.start span.stop decorators ∧
      TypeExpression.LiesIfAny cuts span.start span.stop type

/-- Parameters lie between two places. -/
def Parameter.LieAll (cuts : Nat → Prop) (low high : Nat) : List Parameter → Prop
  | [] => True
  | parameter :: others => parameter.Lies cuts low high ∧ Parameter.LieAll cuts low high others

/-- A decorator lies between two places, and its arguments within its span. -/
def Decorator.Lies (cuts : Nat → Prop) (low high : Nat) : Decorator → Prop
  | ⟨_, arguments, span⟩ =>
    span.Lies cuts low high ∧ Expression.LieAll cuts span.start span.stop arguments

/-- Decorators lie between two places. -/
def Decorator.LieAll (cuts : Nat → Prop) (low high : Nat) : List Decorator → Prop
  | [] => True
  | decorator :: others => decorator.Lies cuts low high ∧ Decorator.LieAll cuts low high others

end

/-! ### Wider places -/

section

variable {low low' high high' : Nat}

theorem Expression.Lies.mono {expression : Expression} (lies : expression.Lies cuts low high)
    (lower : low' ≤ low) (higher : high ≤ high') : expression.Lies cuts low' high' := by
  cases expression
  exact ⟨lies.1.mono lower higher, lies.2⟩

theorem Property.Lies.mono {property : Property} (lies : property.Lies cuts low high)
    (lower : low' ≤ low) (higher : high ≤ high') : property.Lies cuts low' high' := by
  cases property
  exact ⟨lies.1.mono lower higher, lies.2⟩

theorem TypeExpression.Lies.mono {type : TypeExpression} (lies : type.Lies cuts low high)
    (lower : low' ≤ low) (higher : high ≤ high') : type.Lies cuts low' high' := by
  cases type
  exact ⟨lies.1.mono lower higher, lies.2⟩

theorem TypeMember.Lies.mono {member : TypeMember} (lies : member.Lies cuts low high)
    (lower : low' ≤ low) (higher : high ≤ high') : member.Lies cuts low' high' := by
  cases member
  exact ⟨lies.1.mono lower higher, lies.2⟩

theorem Parameter.Lies.mono {parameter : Parameter} (lies : parameter.Lies cuts low high)
    (lower : low' ≤ low) (higher : high ≤ high') : parameter.Lies cuts low' high' := by
  cases parameter
  exact ⟨lies.1.mono lower higher, lies.2⟩

theorem Decorator.Lies.mono {decorator : Decorator} (lies : decorator.Lies cuts low high)
    (lower : low' ≤ low) (higher : high ≤ high') : decorator.Lies cuts low' high' := by
  cases decorator
  exact ⟨lies.1.mono lower higher, lies.2⟩

theorem Expression.lieAll_iff {expressions : List Expression} :
    Expression.LieAll cuts low high expressions ↔
      ∀ each ∈ expressions, each.Lies cuts low high := by
  induction expressions with
  | nil => simp [Expression.LieAll]
  | cons first others ih => simp [Expression.LieAll, ih]

theorem Property.lieAll_iff {properties : List Property} :
    Property.LieAll cuts low high properties ↔ ∀ each ∈ properties, each.Lies cuts low high := by
  induction properties with
  | nil => simp [Property.LieAll]
  | cons first others ih => simp [Property.LieAll, ih]

theorem TypeExpression.lieAll_iff {types : List TypeExpression} :
    TypeExpression.LieAll cuts low high types ↔ ∀ each ∈ types, each.Lies cuts low high := by
  induction types with
  | nil => simp [TypeExpression.LieAll]
  | cons first others ih => simp [TypeExpression.LieAll, ih]

theorem TypeExpression.liesIfAny_iff {type : Option TypeExpression} :
    TypeExpression.LiesIfAny cuts low high type ↔ ∀ each ∈ type, each.Lies cuts low high := by
  cases type <;> simp [TypeExpression.LiesIfAny]

theorem TypeMember.lieAll_iff {members : List TypeMember} :
    TypeMember.LieAll cuts low high members ↔ ∀ each ∈ members, each.Lies cuts low high := by
  induction members with
  | nil => simp [TypeMember.LieAll]
  | cons first others ih => simp [TypeMember.LieAll, ih]

theorem Parameter.lieAll_iff {parameters : List Parameter} :
    Parameter.LieAll cuts low high parameters ↔ ∀ each ∈ parameters, each.Lies cuts low high := by
  induction parameters with
  | nil => simp [Parameter.LieAll]
  | cons first others ih => simp [Parameter.LieAll, ih]

theorem Decorator.lieAll_iff {decorators : List Decorator} :
    Decorator.LieAll cuts low high decorators ↔ ∀ each ∈ decorators, each.Lies cuts low high := by
  induction decorators with
  | nil => simp [Decorator.LieAll]
  | cons first others ih => simp [Decorator.LieAll, ih]

/-- The form of a type in a wider span. -/
theorem TypeForm.Lies.mono {form : TypeForm} (lies : form.Lies cuts low high)
    (lower : low' ≤ low) (higher : high ≤ high') : form.Lies cuts low' high' := by
  cases form <;>
    simp only [TypeForm.Lies, TypeExpression.lieAll_iff, TypeMember.lieAll_iff,
      Parameter.lieAll_iff] at lies ⊢
  case named | union | intersection | tuple | object =>
    exact fun each member => (lies each member).mono lower higher
  case array => exact lies.mono lower higher
  case function =>
    exact ⟨fun each member => (lies.1 each member).mono lower higher, lies.2.mono lower higher⟩

/-- The form of a type that lies between two places. -/
theorem TypeExpression.Lies.form {type : TypeExpression} (lies : type.Lies cuts low high) :
    type.form.Lies cuts low high := by
  cases type
  exact lies.2.mono lies.1.low_le lies.1.le_high

theorem Expression.Lies.span {expression : Expression} (lies : expression.Lies cuts low high) :
    expression.span.Lies cuts low high := by
  cases expression
  exact lies.1

end

/-! ## Cursors -/

namespace Cursor

/-- A cursor among tokens that follow each other in a text. -/
structure Placed (cuts : Nat → Prop) (c : Cursor) : Prop where
  tokens : ∀ token ∈ c.behind.reverse ++ c.ahead, token.span.Lies cuts 0 c.stop.start
  apart : (c.behind.reverse ++ c.ahead).Pairwise fun first second =>
    first.span.stop ≤ second.span.start
  stop : c.stop.Stands cuts c.stop.start

/-- From a cursor among the tokens of a text another one is reached. -/
structure Onward (cuts : Nat → Prop) (c d : Cursor) : Prop where
  placed : c.Placed cuts
  reaches : c.Reaches d

/-- From a cursor among the tokens of a text another one is reached past some tokens. -/
structure Beyond (cuts : Nat → Prop) (c d : Cursor) : Prop extends Onward cuts c d where
  passes : d.remaining < c.remaining

/-- A span starts with a token that is passed. -/
structure Opened (cuts : Nat → Prop) (start : Span) (c : Cursor) : Prop where
  nonempty : start.start < start.stop
  cut_start : cuts start.start
  start_le : start.start ≤ c.previousSpan.start
  stop_le : start.stop ≤ c.previousSpan.stop

/-- A span starts with a token that is passed, or it is that of the next token. -/
def Begun (cuts : Nat → Prop) (start : Span) (c : Cursor) : Prop :=
  Opened cuts start c ∨ start = c.span

variable {c d e : Cursor} {start : Span}

theorem Reaches.tokens_eq (reaches : c.Reaches d) :
    d.behind.reverse ++ d.ahead = c.behind.reverse ++ c.ahead := by
  obtain ⟨passed, ahead, behind, -⟩ := reaches
  simp [ahead, behind]

theorem Onward.stop_eq (onward : Onward cuts c d) : d.stop = c.stop := by
  obtain ⟨-, -, -, stop⟩ := onward.reaches
  exact stop

theorem Onward.placed_end (onward : Onward cuts c d) : d.Placed cuts := by
  obtain ⟨tokens, apart, stop⟩ := onward.placed
  exact ⟨by rwa [onward.reaches.tokens_eq, onward.stop_eq], by rwa [onward.reaches.tokens_eq],
    by rwa [onward.stop_eq]⟩

theorem Placed.refl (placed : c.Placed cuts) : Onward cuts c c := ⟨placed, .refl c⟩

theorem Onward.trans (first : Onward cuts c d) (second : Onward cuts d e) : Onward cuts c e :=
  ⟨first.placed, first.reaches.trans second.reaches⟩

theorem Onward.trans_beyond (first : Onward cuts c d) (second : Beyond cuts d e) :
    Beyond cuts c e :=
  ⟨first.trans second.toOnward, Nat.lt_of_lt_of_le second.passes first.reaches.remaining_le⟩

theorem Beyond.trans_onward (first : Beyond cuts c d) (second : Onward cuts d e) :
    Beyond cuts c e :=
  ⟨first.toOnward.trans second, Nat.lt_of_le_of_lt second.reaches.remaining_le first.passes⟩

theorem Beyond.trans (first : Beyond cuts c d) (second : Beyond cuts d e) : Beyond cuts c e :=
  first.trans_onward second.toOnward

/-! ### Places along the way -/

theorem Placed.previousSpan_le (placed : c.Placed cuts) :
    c.previousSpan.start ≤ c.previousSpan.stop ∧ c.previousSpan.stop ≤ c.span.start := by
  obtain ⟨behind, ahead, stop⟩ := c
  obtain ⟨tokens, apart, -⟩ := placed
  simp only [previousSpan, span] at *
  cases behind with
  | nil => exact ⟨Nat.le_refl _, Nat.zero_le _⟩
  | cons last behind =>
      have lies := tokens last (by simp)
      refine ⟨Nat.le_of_lt lies.nonempty, ?_⟩
      cases ahead with
      | nil => exact lies.le_high
      | cons next ahead => exact (List.pairwise_append.1 apart).2.2 last (by simp) next (by simp)

theorem Placed.stands_span (placed : c.Placed cuts) : c.span.Stands cuts c.stop.start := by
  obtain ⟨behind, ahead, stop⟩ := c
  cases ahead with
  | nil => exact placed.stop
  | cons next ahead => exact (placed.tokens next (by simp)).stands

/-- The cursor past the next token. -/
theorem Placed.advance {token : Token} {rest : List Token} (placed : c.Placed cuts)
    (ahead : c.ahead = token :: rest) : Beyond cuts c ⟨token :: c.behind, rest, c.stop⟩ :=
  ⟨⟨placed, [token], ahead, rfl, rfl⟩, by simp [remaining, ahead]⟩

/-- Whatever holds at a cursor and before each token that is passed holds where it started. -/
theorem Onward.ind {motive : Cursor → Prop} (onward : Onward cuts c d) (refl : motive d)
    (step : ∀ c : Cursor, ∀ token rest, c.ahead = token :: rest → c.Placed cuts →
      Onward cuts ⟨token :: c.behind, rest, c.stop⟩ d →
      motive ⟨token :: c.behind, rest, c.stop⟩ → motive c) : motive c := by
  obtain ⟨placed, passed, ahead, behind, stop⟩ := onward
  induction passed generalizing c with
  | nil =>
      obtain ⟨behindC, aheadC, stopC⟩ := c
      obtain ⟨behindD, aheadD, stopD⟩ := d
      simp only [List.nil_append, List.reverse_nil] at ahead behind stop
      subst ahead behind stop
      exact refl
  | cons token passed ih =>
      have advanced := placed.advance ahead
      have reaches : Reaches ⟨token :: c.behind, passed ++ d.ahead, c.stop⟩ d :=
        ⟨passed, rfl, by simpa using behind, stop⟩
      exact step c token _ ahead placed ⟨advanced.placed_end, reaches⟩
        (ih advanced.placed_end rfl (by simpa using behind) stop)

/-- Places do not go back. -/
theorem Onward.le (onward : Onward cuts c d) :
    c.span.start ≤ d.span.start ∧ c.previousSpan.start ≤ d.previousSpan.start ∧
      c.previousSpan.stop ≤ d.previousSpan.stop := by
  refine onward.ind (motive := fun c => c.span.start ≤ d.span.start ∧
      c.previousSpan.start ≤ d.previousSpan.start ∧ c.previousSpan.stop ≤ d.previousSpan.stop)
    ⟨Nat.le_refl _, Nat.le_refl _, Nat.le_refl _⟩ fun c token rest ahead placed onward later => ?_
  have before := placed.previousSpan_le
  have after := (placed.advance ahead).placed_end.previousSpan_le
  have here : c.span = token.span := by simp [Cursor.span, ahead]
  rw [here] at before ⊢
  simp only [previousSpan, List.head?_cons, Option.map_some, Option.getD_some] at *
  omega

theorem Onward.span_start_le (onward : Onward cuts c d) : c.span.start ≤ d.span.start :=
  onward.le.1

theorem Onward.previousSpan_stop_le (onward : Onward cuts c d) :
    c.previousSpan.stop ≤ d.previousSpan.stop :=
  onward.le.2.2

theorem Opened.onward (opened : Opened cuts start c) (onward : Onward cuts c d) :
    Opened cuts start d :=
  ⟨opened.nonempty, opened.cut_start, Nat.le_trans opened.start_le onward.le.2.1,
    Nat.le_trans opened.stop_le onward.le.2.2⟩

/-- A rule that passes tokens starts with the first of them. -/
theorem Beyond.opened (beyond : Beyond cuts c d) : Opened cuts c.span d := by
  have less := beyond.passes
  refine beyond.toOnward.ind (motive := fun c => d.remaining < c.remaining → Opened cuts c.span d)
    (fun less => absurd less (Nat.lt_irrefl _))
    (fun c token rest ahead placed onward _ _ => ?_) less
  have lies := placed.tokens token (by simp [ahead])
  have here : c.span = token.span := by simp [Cursor.span, ahead]
  have opened : Opened cuts c.span ⟨token :: c.behind, rest, c.stop⟩ := by
    rw [here]
    exact ⟨lies.nonempty, lies.cut_start, Nat.le_refl _, Nat.le_refl _⟩
  exact opened.onward onward

theorem Opened.start_le_span (opened : Opened cuts start c) (placed : c.Placed cuts) :
    start.start ≤ c.span.start := by
  have := placed.previousSpan_le
  have := opened.start_le
  omega

theorem Begun.start_le_span (begun : Begun cuts start c) (placed : c.Placed cuts) :
    start.start ≤ c.span.start := by
  rcases begun with opened | rfl
  · exact opened.start_le_span placed
  · exact Nat.le_refl _

/-- What begins before tokens that are passed starts with one that is. -/
theorem Begun.beyond (begun : Begun cuts start c) (beyond : Beyond cuts c d) :
    Opened cuts start d := by
  rcases begun with opened | rfl
  · exact opened.onward beyond.toOnward
  · exact beyond.opened

theorem Onward.eq_or_beyond (onward : Onward cuts c d) : c = d ∨ Beyond cuts c d := by
  obtain ⟨placed, passed, ahead, behind, stop⟩ := onward
  cases passed with
  | nil =>
      obtain ⟨behindC, aheadC, stopC⟩ := c
      obtain ⟨behindD, aheadD, stopD⟩ := d
      simp only [List.nil_append, List.reverse_nil] at ahead behind stop
      exact .inl (by rw [ahead, behind, stop])
  | cons token passed =>
      refine .inr ⟨⟨placed, token :: passed, ahead, behind, stop⟩, ?_⟩
      simp only [remaining, ahead, List.cons_append, List.length_cons, List.length_append]
      omega

theorem Begun.onward (begun : Begun cuts start c) (onward : Onward cuts c d) :
    Begun cuts start d := by
  rcases onward.eq_or_beyond with rfl | beyond
  · exact begun
  · exact .inl (begun.beyond beyond)

theorem Opened.spanFrom_eq (opened : Opened cuts start c) :
    c.spanFrom start = ⟨start.start, c.previousSpan.stop⟩ := by
  simp [spanFrom, Span.merge, opened.start_le, opened.stop_le]

/-- What starts with a token that is passed, and ends with the last one, stands between the
two. -/
theorem Opened.lies_spanFrom (opened : Opened cuts start c) (placed : c.Placed cuts) :
    (c.spanFrom start).Lies cuts start.start c.previousSpan.stop := by
  rw [opened.spanFrom_eq]
  have nonempty := opened.nonempty
  have stop_le := opened.stop_le
  refine ⟨Nat.le_refl _, by dsimp only; omega, Nat.le_refl _, opened.cut_start, ?_⟩
  obtain ⟨behind, ahead, stop⟩ := c
  cases behind with
  | nil => exact absurd stop_le (by simp [previousSpan, Span.origin]; omega)
  | cons last behind => exact (placed.tokens last (by simp)).cut_stop

/-- The first token that is passed lies between the places of a rule. -/
theorem Beyond.lies_span (beyond : Beyond cuts c d) :
    c.span.Lies cuts c.span.start d.previousSpan.stop := by
  have opened := beyond.opened
  obtain ⟨-, -, cut_start, cut_stop⟩ := beyond.placed.stands_span
  exact ⟨Nat.le_refl _, opened.nonempty, opened.stop_le, cut_start, cut_stop⟩

theorem Onward.stands_span (onward : Onward cuts c d) : c.span.Stands cuts d.stop.start := by
  rw [onward.stop_eq]
  exact onward.placed.stands_span

/-- A span up to the end of the text, seen from a later token. -/
theorem Onward.stands {span : Span} (onward : Onward cuts c d)
    (stands : span.Stands cuts c.stop.start) : span.Stands cuts d.stop.start := by
  rwa [onward.stop_eq]

theorem Placed.lies_expected (placed : c.Placed cuts) (what : Expectation) :
    (c.expected what).Lies cuts c.stop.start :=
  ⟨placed.stands_span, by simp [expected, ParseError.expected]⟩

theorem Placed.lies_unclosed (placed : c.Placed cuts) {opening : Opening}
    (opened : opening.span.Stands cuts c.stop.start) (closing : Mark) :
    (ParseError.unclosed opening closing c.span).Lies cuts c.stop.start :=
  ⟨placed.stands_span, by simpa [ParseError.unclosed] using opened⟩

/-- Nothing is next, or a token whose span is that of the cursor. -/
@[elab_as_elim]
theorem Placed.next_cases (placed : c.Placed cuts) {motive : Option c.Past → Prop}
    (none : motive none)
    (some : ∀ past, past.token.span = c.span → Beyond cuts c past.rest → motive (some past)) :
    motive c.next? := by
  obtain ⟨behind, ahead, stop⟩ := c
  cases ahead with
  | nil => exact none
  | cons token rest => exact some _ rfl (placed.advance rfl)

@[elab_as_elim]
theorem Placed.nextIf_cases (placed : c.Placed cuts) {test : Kind → Bool}
    {motive : Option c.Past → Prop} (none : motive none)
    (some : ∀ past, past.token.span = c.span → Beyond cuts c past.rest → motive (some past)) :
    motive (c.nextIf? test) := by
  unfold Cursor.nextIf?
  refine placed.next_cases none fun past span beyond => ?_
  dsimp only
  split
  · exact some past span beyond
  · exact none

section

variable (placed : c.Placed cuts) {motive : Option c.Past → Prop} (none : motive none)
  (some : ∀ past, past.token.span = c.span → Beyond cuts c past.rest → motive (some past))

include placed none some

@[elab_as_elim]
theorem Placed.mark_cases (mark : Mark) : motive (c.mark? mark) :=
  @nextIf_cases cuts c placed (· = .mark mark) motive none some

@[elab_as_elim]
theorem Placed.keyword_cases (word : Keyword) : motive (c.keyword? word) :=
  @nextIf_cases cuts c placed (· = .keyword word) motive none some

@[elab_as_elim]
theorem Placed.name_cases (text : String) : motive (c.name? text) :=
  @nextIf_cases cuts c placed (· = .name text) motive none some

end

end Cursor

open Cursor

attribute [grind →] Onward.span_start_le Onward.previousSpan_stop_le Beyond.toOnward
  Onward.trans Onward.trans_beyond Beyond.trans_onward Beyond.trans Beyond.opened Opened.onward
  Opened.start_le_span Begun.start_le_span Begun.beyond Begun.onward

/-! ## Rules -/

/-- A rule gives good values, or an error that lies in the text, and so do the errors that it
records. -/
structure Outcome.Yields {α : Type} {moves : Bool} {c : Cursor} (cuts : Nat → Prop)
    (good : α → Cursor → Prop) (outcome : Outcome moves c α) : Prop where
  result :
    match outcome.result with
    | .ok value => good value outcome.rest
    | .error error => error.Lies cuts c.stop.start
  errors : ∀ error ∈ outcome.errors, error.Lies cuts c.stop.start

/-- A rule gives any values, or an error that lies in the text. -/
abbrev Outcome.Sound {α : Type} {moves : Bool} {c : Cursor} (cuts : Nat → Prop)
    (outcome : Outcome moves c α) : Prop :=
  outcome.Yields cuts fun _ _ => True

namespace Outcome.Yields

variable {α β : Type} {moves : Bool} {c : Cursor} {good good' : α → Cursor → Prop}
  {after : β → Cursor → Prop}

theorem ok {value : α} (isGood : good value c) :
    Yields cuts good (Outcome.ok value : Outcome false c α) :=
  ⟨isGood, fun _ member => absurd member List.not_mem_nil⟩

theorem failed {d : Cursor} {error : ParseError} {reaches : c.Reaches d}
    (lies : error.Lies cuts c.stop.start) :
    Yields cuts good (Outcome.failed error reaches : Outcome moves c α) :=
  ⟨lies, fun _ member => absurd member List.not_mem_nil⟩

theorem fail {error : ParseError} (lies : error.Lies cuts c.stop.start) :
    Yields cuts good (Outcome.fail error : Outcome moves c α) :=
  failed lies

theorem fail_expected (placed : c.Placed cuts) {what : Expectation} :
    Yields cuts good (Outcome.fail (c.expected what) : Outcome moves c α) :=
  .fail (placed.lies_expected what)

/-- A rule that gives good values does so after errors that lie in the text. -/
theorem recording {outcome : Outcome moves c α} {earlier : List ParseError}
    (gives : Yields cuts good outcome) (lie : ∀ error ∈ earlier, error.Lies cuts c.stop.start) :
    Yields cuts good (outcome.recording earlier) :=
  ⟨gives.result, fun error member =>
    (List.mem_append.1 member).elim (lie error) (gives.errors error)⟩

theorem lax {outcome : Outcome moves c α} (gives : Yields cuts good outcome) :
    Yields cuts good outcome.lax :=
  ⟨gives.result, gives.errors⟩

theorem following {d : Cursor} (onward : Onward cuts c d) (reaches : c.Reaches d)
    {outcome : Outcome moves d α} (gives : Yields cuts good outcome) :
    Yields cuts good (outcome.following reaches) := by
  obtain ⟨isGood, lie⟩ := gives
  rw [onward.stop_eq] at isGood lie
  exact ⟨isGood, lie⟩

theorem seenFrom {d : Cursor} (onward : Onward cuts c d) (reaches : c.Reaches d)
    (less : d.remaining < c.remaining) {outcome : Outcome moves d α}
    (gives : Yields cuts good outcome) :
    Yields cuts good (outcome.seenFrom reaches less) := by
  obtain ⟨isGood, lie⟩ := gives
  rw [onward.stop_eq] at isGood lie
  exact ⟨isGood, lie⟩

theorem go {past : c.Past} (beyond : Beyond cuts c past.rest) {outcome : Outcome moves past.rest α}
    (gives : Yields cuts good outcome) : Yields cuts good (past.go outcome) :=
  seenFrom beyond.toOnward past.reaches past.less gives

theorem mono (placed : c.Placed cuts) {outcome : Outcome moves c α}
    (gives : Yields cuts good outcome)
    (weaken : ∀ value d, Onward cuts c d → good value d → good' value d) :
    Yields cuts good' outcome := by
  obtain ⟨⟨result, rest⟩, reaches, moved, errors⟩ := outcome
  cases result with
  | ok value => exact ⟨weaken value rest ⟨placed, reaches⟩ gives.result, gives.errors⟩
  | error error => exact ⟨gives.result, gives.errors⟩

/-- A rule that has to pass a token has passed one when it gives a value. -/
theorem passing (placed : c.Placed cuts) {outcome : Outcome true c α}
    (gives : Yields cuts good outcome)
    (weaken : ∀ value d, Beyond cuts c d → good value d → good' value d) :
    Yields cuts good' outcome := by
  obtain ⟨⟨result, rest⟩, reaches, moved, errors⟩ := outcome
  cases result with
  | ok value =>
      have beyond : Beyond cuts c rest := ⟨⟨placed, reaches⟩, less_of_moved moved⟩
      exact ⟨weaken value rest beyond gives.result, gives.errors⟩
  | error error => exact ⟨gives.result, gives.errors⟩

theorem sound {outcome : Outcome moves c α} (gives : Yields cuts good outcome) :
    Sound cuts outcome := by
  obtain ⟨⟨result, rest⟩, reaches, moved, errors⟩ := outcome
  cases result with
  | ok value => exact ⟨trivial, gives.errors⟩
  | error error => exact ⟨gives.result, gives.errors⟩

theorem bind (placed : c.Placed cuts) {outcome : Outcome false c α}
    {next : (value : α) → (d : Cursor) → d.remaining ≤ c.remaining → Outcome moves d β}
    (first : Yields cuts good outcome)
    (second : ∀ {value d} atMost, Onward cuts c d → d.Placed cuts → good value d →
      Yields cuts after (next value d atMost)) :
    Yields cuts after (outcome.bind next) := by
  obtain ⟨⟨result, rest⟩, reaches, moved, errors⟩ := outcome
  cases result with
  | ok value =>
      have onward : Onward cuts c rest := ⟨placed, reaches⟩
      have gives := second reaches.remaining_le onward onward.placed_end first.result
      exact (following onward reaches gives).recording first.errors
  | error error => exact (failed first.result).recording first.errors

theorem andThen (placed : c.Placed cuts) {outcome : Outcome true c α}
    {next : (value : α) → (d : Cursor) → d.remaining < c.remaining → Outcome moves d β}
    (first : Yields cuts good outcome)
    (second : ∀ {value d} less, Beyond cuts c d → d.Placed cuts → good value d →
      Yields cuts after (next value d less)) :
    Yields cuts after (outcome.andThen next) := by
  obtain ⟨⟨result, rest⟩, reaches, moved, errors⟩ := outcome
  cases result with
  | ok value =>
      have less := less_of_moved moved
      have beyond : Beyond cuts c rest := ⟨⟨placed, reaches⟩, less⟩
      have gives := second less beyond beyond.placed_end first.result
      exact (seenFrom beyond.toOnward reaches less gives).recording first.errors
  | error error => exact (failed first.result).recording first.errors

theorem mapAt {change : α → Cursor → β} {outcome : Outcome moves c α}
    (gives : Yields cuts (fun value d => after (change value d) d) outcome) :
    Yields cuts after (outcome.mapAt change) := by
  obtain ⟨⟨result, rest⟩, reaches, moved, errors⟩ := outcome
  cases result with
  | ok value => exact ⟨gives.result, gives.errors⟩
  | error error => exact (failed gives.result).recording gives.errors

theorem map {change : α → β} {outcome : Outcome moves c α}
    (gives : Yields cuts (fun value d => after (change value) d) outcome) :
    Yields cuts after (outcome.map change) :=
  @mapAt cuts α β moves c after (fun value _ => change value) outcome gives

theorem mapError {change : ParseError → ParseError} {outcome : Outcome moves c α}
    (gives : Yields cuts good outcome)
    (changed : ∀ error : ParseError, error.Lies cuts c.stop.start →
      (change error).Lies cuts c.stop.start) :
    Yields cuts good (outcome.mapError change) := by
  obtain ⟨⟨result, rest⟩, reaches, moved, errors⟩ := outcome
  cases result with
  | ok value => exact gives
  | error error => exact (failed (changed error gives.result)).recording gives.errors

theorem tried (placed : c.Placed cuts) {outcome : Outcome moves c α}
    {next : (value : α) → (d : Cursor) → c.Reaches d → d.remaining ≤ c.remaining →
      Outcome false c β}
    {otherwise : Outcome false c β} (first : Yields cuts good outcome)
    (second : ∀ {value d} reaches atMost, Onward cuts c d → d.Placed cuts → good value d →
      Yields cuts after (next value d reaches atMost))
    (other : Yields cuts after otherwise) : Yields cuts after (outcome.tried next otherwise) := by
  obtain ⟨⟨result, rest⟩, reaches, moved, errors⟩ := outcome
  cases result with
  | ok value =>
      have onward : Onward cuts c rest := ⟨placed, reaches⟩
      have gives := second reaches reaches.remaining_le onward onward.placed_end first.result
      exact gives.recording first.errors
  | error error => exact other.recording first.errors

theorem ite {condition : Prop} [Decidable condition] {first second : Outcome moves c α}
    (isTrue : condition → Yields cuts good first) (isFalse : ¬condition → Yields cuts good second) :
    Yields cuts good (if condition then first else second) := by
  split
  · next holds => exact isTrue holds
  · next fails => exact isFalse fails

end Outcome.Yields

open Outcome

/-! ## Marks, names and words -/

namespace Cursor

variable {c : Cursor}

section Tokens

variable (placed : c.Placed cuts)

include placed

theorem yields_expect (kind : Kind) :
    Yields cuts (fun token _ => token.span = c.span) (c.expect kind) := by
  unfold expect
  refine placed.next_cases (.fail_expected placed) fun past span beyond => ?_
  exact .ite (fun _ => .go beyond (.ok span)) fun _ => .fail_expected placed

theorem yields_expectMark (mark : Mark) :
    Yields cuts (fun token _ => token.span = c.span) (c.expectMark mark) :=
  yields_expect placed _

theorem yields_expectKeyword (word : Keyword) :
    Yields cuts (fun token _ => token.span = c.span) (c.expectKeyword word) :=
  yields_expect placed _

theorem yields_expectName : Yields cuts (fun name _ => name.span = c.span) c.expectName := by
  unfold expectName
  refine placed.next_cases (.fail_expected placed) fun past span beyond => ?_
  dsimp only
  split
  · exact .go beyond (.ok span)
  · exact .fail_expected placed

theorem sound_optional (test : Kind → Bool) : Sound cuts (c.optional test) := by
  unfold optional
  refine placed.nextIf_cases (.ok trivial) fun past _ beyond => ?_
  exact .lax (.go beyond (.ok trivial))

theorem sound_optionalMark (mark : Mark) : Sound cuts (c.optionalMark mark) :=
  sound_optional placed _

theorem sound_optionalSemicolon : Sound cuts c.optionalSemicolon :=
  .map (sound_optionalMark placed .semicolon)

theorem sound_optionalModifier (word : String) : Sound cuts (c.optionalModifier word) :=
  .ite (fun _ => sound_optional placed _) fun _ => .ok trivial

theorem yields_propertyName :
    Yields cuts (fun property _ => property.span = c.span) c.propertyName := by
  unfold propertyName
  refine placed.next_cases (.fail_expected placed) fun past span beyond => ?_
  dsimp only
  split
  · exact .go beyond (.ok span)
  · exact .fail_expected placed

theorem yields_properName : Yields cuts (fun name _ => name.span = c.span) c.properName := by
  unfold properName
  refine (yields_propertyName placed).andThen placed fun {property d} _ beyond _ span => ?_
  cases property.name with
  | some name => exact .ok span
  | none => exact .fail ⟨span ▸ beyond.stands_span, by simp [ParseError.expected]⟩

end Tokens

/-! ## Groups -/

theorem sound_closeAll {c : Cursor} {opening : Opening} (placed : c.Placed cuts)
    (opened : opening.span.Stands cuts c.stop.start) (outer : Bracket) (brackets : List Bracket) :
    Sound cuts (closeAll opening outer brackets c) := by
  cases brackets with
  | nil =>
    unfold closeAll
    exact .ok trivial
  | cons innermost others =>
    unfold closeAll
    refine placed.next_cases (.fail (placed.lies_unclosed opened _)) fun past _ beyond => ?_
    have := past.less
    have inside : opening.span.Stands cuts past.rest.stop.start := by rwa [beyond.stop_eq]
    have again (brackets : List Bracket) := sound_closeAll beyond.placed_end inside outer brackets
    dsimp only
    cases past.token.kind.opens? with
    | some bracket => exact .lax (.go beyond (again _))
    | none =>
      cases past.token.kind.closes? with
      | some bracket =>
        exact .ite (fun _ => .lax (.go beyond (again _))) fun _ => .fail_expected placed
      | none => exact .lax (.go beyond (again _))
termination_by c.remaining

theorem sound_restOfGroup {opened : Span} (placed : c.Placed cuts)
    (stands : opened.Stands cuts c.stop.start) (bracket : Bracket) :
    Sound cuts (restOfGroup bracket opened c) := by
  unfold restOfGroup
  exact (sound_closeAll placed stands bracket [bracket]).bind placed fun _ _ _ _ => .ok trivial

/-- The rest of a group that the next token opens. -/
theorem sound_restOfGroup_next {past : c.Past} (span : past.token.span = c.span)
    (beyond : Beyond cuts c past.rest) (bracket : Bracket) :
    Sound cuts (restOfGroup bracket past.token.span past.rest) :=
  sound_restOfGroup beyond.placed_end (span ▸ beyond.stands_span) bracket

theorem sound_skipGroup (placed : c.Placed cuts) : Sound cuts c.skipGroup := by
  unfold skipGroup
  refine placed.next_cases (.fail_expected placed) fun past span beyond => ?_
  dsimp only
  split
  · exact .go beyond (sound_restOfGroup_next span beyond _)
  · exact .fail_expected placed

theorem sound_closeAngles {c : Cursor} {opening : Opening} (placed : c.Placed cuts)
    (opened : opening.span.Stands cuts c.stop.start) (depth : Nat) :
    Sound cuts (closeAngles opening depth c) := by
  cases depth with
  | zero =>
    unfold closeAngles
    exact .ok trivial
  | succ depth =>
    unfold closeAngles
    refine placed.next_cases (.fail (placed.lies_unclosed opened _)) fun past span beyond => ?_
    have := past.less
    have inside : opening.span.Stands cuts past.rest.stop.start := by rwa [beyond.stop_eq]
    have again (depth : Nat) := sound_closeAngles beyond.placed_end inside depth
    dsimp only
    split
    · refine .lax (.go beyond ((sound_restOfGroup_next span beyond _).bind beyond.placed_end
        fun atMost onward placed _ => ?_))
      exact sound_closeAngles placed (by rwa [onward.stop_eq]) _
    · refine .ite (fun _ => .lax (.go beyond (again _))) fun _ => ?_
      exact .ite (fun _ => .lax (.go beyond (again _))) fun _ => .lax (.go beyond (again _))
termination_by c.remaining

theorem sound_skipAngles (placed : c.Placed cuts) : Sound cuts c.skipAngles := by
  unfold skipAngles
  refine (yields_expectMark placed .lt).andThen placed fun _ beyond placed span => ?_
  exact sound_closeAngles placed (span ▸ beyond.stands_span) 1

theorem sound_skipAnglesIfAny (placed : c.Placed cuts) : Sound cuts c.skipAnglesIfAny :=
  .ite (fun _ => .lax (sound_skipAngles placed)) fun _ => .ok trivial

/-! ## Statements -/

theorem sound_restOfStatement {c : Cursor} (placed : c.Placed cuts) :
    Sound cuts c.restOfStatement := by
  unfold restOfStatement
  refine placed.next_cases (.ok trivial) fun past span beyond => ?_
  have := past.less
  refine .ite (fun _ => .lax (.go beyond (.ok trivial))) fun _ => ?_
  refine .ite (fun _ => .ok trivial) fun _ => ?_
  split
  · refine .lax (.go beyond ((sound_restOfGroup_next span beyond _).bind beyond.placed_end
      fun atMost _ placed _ => ?_))
    exact sound_restOfStatement placed
  · refine .ite (fun _ => .fail_expected placed) fun _ => ?_
    exact .lax (.go beyond (sound_restOfStatement beyond.placed_end))
termination_by c.remaining

theorem Past.sound_skipStatement {past : c.Past} (span : past.token.span = c.span)
    (beyond : Beyond cuts c past.rest) : Sound cuts past.skipStatement := by
  unfold skipStatement
  split
  · refine .go beyond ((sound_restOfGroup_next span beyond _).bind beyond.placed_end
      fun _ _ placed _ => ?_)
    exact sound_restOfStatement placed
  · refine .ite (fun _ => .fail_expected beyond.placed) fun _ => ?_
    exact .go beyond (sound_restOfStatement beyond.placed_end)

end Cursor

end InjectionCheck
