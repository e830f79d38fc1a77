import InjectionCheck.Proofs.SpansOfRules

/-!
# Where types and parameters stand

The rules of the grammar take the recursive rules as an argument. Here it is shown that what
the rules for types and parameters give stands where it should if this is true of what the
recursive rules give (`Rules.Give`).
-/

set_option autoImplicit false

namespace InjectionCheck

open Cursor Outcome

variable {cuts : Nat → Prop}

/-- An expression lies between the token at which its rule starts and the last one passed. -/
abbrev Expression.From (cuts : Nat → Prop) (c : Cursor) (expression : Expression) (d : Cursor) :
    Prop :=
  expression.Lies cuts c.span.start d.previousSpan.stop

/-- A type lies between the token at which its rule starts and the last one passed. -/
abbrev TypeExpression.From (cuts : Nat → Prop) (c : Cursor) (type : TypeExpression)
    (d : Cursor) : Prop :=
  type.Lies cuts c.span.start d.previousSpan.stop

/-- What the recursive rules give stands where it should. -/
structure Rules.Give (cuts : Nat → Prop) {limit : Cursor} (rules : Rules limit) : Prop where
  assignment : ∀ {c} inside, c.Placed cuts →
    Yields cuts (Expression.From cuts c) (rules.assignment c inside)
  expression : ∀ {c} inside, c.Placed cuts →
    Yields cuts (Expression.From cuts c) (rules.expression c inside)
  binary : ∀ least {c} inside, c.Placed cuts →
    Yields cuts (Expression.From cuts c) (rules.binary least c inside)
  unary : ∀ {c} inside, c.Placed cuts →
    Yields cuts (Expression.From cuts c) (rules.unary c inside)
  construction : ∀ {c} inside, c.Placed cuts →
    Yields cuts (Expression.From cuts c) (rules.construction c inside)
  type : ∀ {c} inside, c.Placed cuts →
    Yields cuts (TypeExpression.From cuts c) (rules.type c inside)
  typeOperand : ∀ {c} inside, c.Placed cuts →
    Yields cuts (TypeExpression.From cuts c) (rules.typeOperand c inside)

namespace Cursor

variable {c d : Cursor} {start : Span}

/-- A type that starts with a token that is passed. -/
theorem Opened.lies_typeFrom (opened : Opened cuts start d) (placed : d.Placed cuts)
    {form : TypeForm} (inner : form.Lies cuts start.start d.previousSpan.stop) :
    (d.typeFrom start form).Lies cuts start.start d.previousSpan.stop := by
  refine ⟨opened.lies_spanFrom placed, ?_⟩
  rwa [opened.spanFrom_eq]

end Cursor

namespace Rules

variable {limit : Cursor} {α : Type}

/-! ## Elements -/

theorem yields_elements (lies : Nat → Nat → α → Prop)
    (mono : ∀ {low low' high high' value}, lies low high value → low' ≤ low → high ≤ high' →
      lies low' high' value)
    {opening : Opening} {closing : Mark} {missing : ParseError → ParseError}
    {element : (c : Cursor) → c.remaining < limit.remaining → Outcome true c α}
    (each : ∀ {c} inside, c.Placed cuts →
      Yields cuts (fun value d => lies c.span.start d.previousSpan.stop value) (element c inside))
    {high : Nat} (opened : opening.span.Stands cuts high)
    (adds : ∀ error : ParseError, error.Lies cuts high → (missing error).Lies cuts high)
    {low : Nat} {earlier : List α} {c : Cursor} (placed : c.Placed cuts)
    (ends : c.stop.start = high) (after : low ≤ c.span.start)
    (before : ∀ value ∈ earlier, lies low c.previousSpan.stop value)
    (inside : c.remaining < limit.remaining) :
    Yields cuts (fun values d => ∀ value ∈ values, lies low d.previousSpan.stop value)
      (elements opening closing missing element earlier c inside) := by
  subst ends
  unfold elements
  refine placed.mark_cases ?_ (fun past _ beyond => ?_) closing
  · refine .ite (fun _ => .fail (placed.lies_unclosed opened _)) fun _ => ?_
    refine (each inside placed).andThen placed fun {value d} less beyond placed' liesHere => ?_
    have stop : d.stop.start = c.stop.start := by rw [beyond.stop_eq]
    have values : ∀ other ∈ value :: earlier, lies low d.previousSpan.stop other := by
      refine List.forall_mem_cons.2 ⟨mono liesHere after (Nat.le_refl _), fun other member => ?_⟩
      exact mono (before other member) (Nat.le_refl _) beyond.previousSpan_stop_le
    refine placed'.mark_cases ?_ (fun past _ comma => ?_) .comma
    · refine .map (.mapError ?_ (by rwa [stop]))
      refine (yields_expectMark placed' closing).mono placed' fun _ e onward _ => ?_
      intro other member
      exact mono (values other (List.mem_reverse.1 member)) (Nat.le_refl _)
        onward.previousSpan_stop_le
    · have := past.less
      refine .go comma (yields_elements lies mono each opened adds comma.placed_end ?_ ?_ ?_ _)
      · rw [comma.stop_eq, stop]
      · exact Nat.le_trans after (beyond.trans comma).span_start_le
      · exact fun other member =>
          mono (values other member) (Nat.le_refl _) comma.previousSpan_stop_le
  · refine .go beyond (.ok fun value member => ?_)
    exact mono (before value (List.mem_reverse.1 member)) (Nat.le_refl _)
      beyond.previousSpan_stop_le
termination_by c.remaining

/-- Elements of a group that the next token opened. -/
theorem yields_group (lies : Nat → Nat → α → Prop)
    (mono : ∀ {low low' high high' value}, lies low high value → low' ≤ low → high ≤ high' →
      lies low' high' value)
    {opening : Opening} {closing : Mark} {missing : ParseError → ParseError}
    {element : (c : Cursor) → c.remaining < limit.remaining → Outcome true c α}
    (each : ∀ {c} inside, c.Placed cuts →
      Yields cuts (fun value d => lies c.span.start d.previousSpan.stop value) (element c inside))
    {c : Cursor} (placed : c.Placed cuts)
    (opened : opening.span.Stands cuts c.stop.start)
    (adds : ∀ {high} {error : ParseError}, opening.span.Stands cuts high → error.Lies cuts high →
      (missing error).Lies cuts high)
    (inside : c.remaining < limit.remaining) :
    Yields cuts (fun values d => ∀ value ∈ values, lies c.span.start d.previousSpan.stop value)
      (elements opening closing missing element [] c inside) :=
  yields_elements lies mono each opened (fun _ lies => adds opened lies) placed rfl (Nat.le_refl _)
    (by simp) inside

theorem lies_inside {opening : Opening} {high : Nat} {error : ParseError}
    (opened : opening.span.Stands cuts high) (lies : error.Lies cuts high) :
    (error.inside opening).Lies cuts high :=
  ⟨lies.span, by simpa [ParseError.inside] using opened⟩

section

variable {rules : Rules limit} (give : rules.Give cuts) {c : Cursor}

include give

theorem yields_spreadable (inside : c.remaining < limit.remaining) (placed : c.Placed cuts) :
    Yields cuts (Expression.From cuts c) (rules.spreadable c inside) := by
  unfold spreadable
  refine placed.mark_cases (give.assignment inside placed) (fun past span beyond => ?_) .ellipsis
  refine .go beyond ((give.assignment _ beyond.placed_end).andThen beyond.placed_end
    fun {operand d} _ further placed lies => .ok ?_)
  have opened := (beyond.trans further).opened
  rw [span]
  refine ⟨opened.lies_spanFrom placed, ?_⟩
  rw [opened.spanFrom_eq]
  exact lies.mono beyond.span_start_le (Nat.le_refl _)

theorem yields_arguments (inside : c.remaining ≤ limit.remaining) (placed : c.Placed cuts) :
    Yields cuts
      (fun arguments d => Expression.LieAll cuts c.span.start d.previousSpan.stop arguments)
      (rules.arguments c inside) := by
  unfold arguments
  refine (yields_expectMark placed .lparen).andThen placed fun {opened d} _ beyond placed span => ?_
  simp only [Expression.lieAll_iff]
  refine (yields_group (Expression.Lies cuts) .mono (yields_spreadable give) placed
    (span ▸ beyond.stands_span) lies_inside _).mono placed fun arguments e _ lies => ?_
  exact fun argument member => (lies argument member).mono beyond.span_start_le (Nat.le_refl _)

theorem yields_optionalArguments (inside : c.remaining ≤ limit.remaining) (placed : c.Placed cuts) :
    Yields cuts
      (fun arguments d => Expression.LieAll cuts c.span.start d.previousSpan.stop arguments)
      (rules.optionalArguments c inside) :=
  .ite (fun _ => .lax (yields_arguments give inside placed)) fun _ => .ok trivial

/-! ## Decorators -/

omit give in
theorem sound_lastPart {c : Cursor} (name : String) (placed : c.Placed cuts) :
    Sound cuts (lastPart name c) := by
  unfold lastPart
  refine placed.mark_cases (.ok trivial) (fun past _ beyond => ?_) .dot
  have := past.less
  refine .lax (.go beyond ((yields_properName beyond.placed_end).andThen beyond.placed_end
    fun _ _ placed _ => ?_))
  exact sound_lastPart _ placed
termination_by c.remaining

theorem yields_decoratorAfter {sign : Span} (opened : Opened cuts sign c)
    (inside : c.remaining ≤ limit.remaining) (placed : c.Placed cuts) :
    Yields cuts (fun decorator d => decorator.Lies cuts sign.start d.previousSpan.stop)
      (rules.decoratorAfter sign c inside) := by
  unfold decoratorAfter
  refine (yields_expectName placed).andThen placed fun {first c₁} _ step₁ placed₁ _ => ?_
  refine (sound_lastPart _ placed₁).bind placed₁ fun {name c₂} _ step₂ placed₂ _ => ?_
  refine (sound_skipAnglesIfAny placed₂).bind placed₂ fun {_ c₃} _ step₃ placed₃ _ => ?_
  refine (yields_optionalArguments give _ placed₃).bind placed₃
    fun {arguments c₄} _ step₄ placed₄ lie => .ok ?_
  have atEnd : Opened cuts sign c₄ := opened.onward (by grind)
  have signBefore : sign.start ≤ c₃.span.start := by
    have := opened.start_le
    have := placed.previousSpan_le
    have := step₁.span_start_le
    grind
  refine ⟨atEnd.lies_spanFrom placed₄, ?_⟩
  rw [atEnd.spanFrom_eq, Expression.lieAll_iff] at *
  exact fun argument member => (lie argument member).mono signBefore (Nat.le_refl _)

theorem yields_decorators {c : Cursor} {low : Nat} {earlier : List Decorator}
    (inside : c.remaining ≤ limit.remaining) (placed : c.Placed cuts) (after : low ≤ c.span.start)
    (before : ∀ each ∈ earlier, each.Lies cuts low c.previousSpan.stop) :
    Yields cuts (fun decorators d => Decorator.LieAll cuts low d.previousSpan.stop decorators)
      (rules.decorators earlier c inside) := by
  unfold decorators
  simp only [Decorator.lieAll_iff]
  refine placed.mark_cases (.ok (by simpa using before)) (fun past span beyond => ?_) .at
  have := past.less
  refine .lax (.go beyond ((yields_decoratorAfter give (span ▸ beyond.opened) _
    beyond.placed_end).andThen beyond.placed_end fun {decorator d} _ further placed lies => ?_))
  simp only [← Decorator.lieAll_iff]
  refine yields_decorators _ placed (by grind) (List.forall_mem_cons.2 ⟨?_, ?_⟩)
  · exact lies.mono (by rwa [span]) (Nat.le_refl _)
  · exact fun each member => (before each member).mono (Nat.le_refl _) (by grind)
termination_by c.remaining

/-! ## Parameters -/

omit give in
theorem sound_modifiers {c : Cursor} (earlier : Modifiers) (placed : c.Placed cuts) :
    Sound cuts (c.modifiers earlier) := by
  unfold Cursor.modifiers
  refine placed.next_cases (.ok trivial) fun past _ beyond => ?_
  have := past.less
  dsimp only
  split
  · refine .ite (fun _ => ?_) fun _ => .ok trivial
    split
    · exact .lax (.go beyond (sound_modifiers _ beyond.placed_end))
    · exact .ok trivial
  · exact .ok trivial
termination_by c.remaining

omit give in
theorem sound_parameterName (placed : c.Placed cuts) : Sound cuts (parameterName c) := by
  unfold parameterName
  refine placed.next_cases (.fail_expected placed) fun past _ beyond => ?_
  dsimp only
  split
  · exact .go beyond (.ok trivial)
  · exact .go beyond (.ok trivial)
  · exact .map (sound_skipGroup placed)
  · exact .map (sound_skipGroup placed)
  · exact .fail_expected placed

theorem yields_ascription (inside : c.remaining < limit.remaining) (placed : c.Placed cuts) :
    Yields cuts (fun type d => TypeExpression.LiesIfAny cuts c.span.start d.previousSpan.stop type)
      (rules.ascription c inside) := by
  unfold ascription
  refine placed.mark_cases (.ok trivial) (fun past _ beyond => ?_) .colon
  refine .lax (.map (.go beyond ((give.type _ beyond.placed_end).mono beyond.placed_end
    fun _ _ _ lies => ?_)))
  exact lies.mono beyond.span_start_le (Nat.le_refl _)

theorem sound_initial (inside : c.remaining < limit.remaining) (placed : c.Placed cuts) :
    Sound cuts (rules.initial c inside) := by
  unfold initial
  refine placed.mark_cases (.ok trivial) (fun past _ beyond => ?_) .eq
  exact .lax (.map (.go beyond (give.assignment _ beyond.placed_end).sound))

theorem yields_parameter (inside : c.remaining < limit.remaining) (placed : c.Placed cuts) :
    Yields cuts (fun parameter d => parameter.Lies cuts c.span.start d.previousSpan.stop)
      (rules.parameter c inside) := by
  unfold parameter
  refine (yields_decorators give _ placed (Nat.le_refl _) (by simp)).bind placed
    fun {decorators c₁} _ step₁ placed₁ decoratorsLie => ?_
  refine (sound_modifiers _ placed₁).bind placed₁ fun {_ c₂} _ step₂ placed₂ _ => ?_
  refine (sound_optionalMark placed₂ _).bind placed₂ fun {_ c₃} _ step₃ placed₃ _ => ?_
  refine (sound_parameterName placed₃).andThen placed₃ fun {_ c₄} _ step₄ placed₄ _ => ?_
  refine (sound_optionalMark placed₄ _).bind placed₄ fun {_ c₅} _ step₅ placed₅ _ => ?_
  refine (yields_ascription give _ placed₅).bind placed₅ fun {_ c₆} _ step₆ placed₆ typeLies => ?_
  refine (sound_initial give _ placed₆).bind placed₆ fun {_ c₇} _ step₇ placed₇ _ => .ok ?_
  have atEnd : Opened cuts c.span c₇ := by grind
  refine ⟨atEnd.lies_spanFrom placed₇, ?_, ?_⟩
  · rw [atEnd.spanFrom_eq, Decorator.lieAll_iff] at *
    exact fun each member => (decoratorsLie each member).mono (Nat.le_refl _) (by grind)
  · rw [atEnd.spanFrom_eq, TypeExpression.liesIfAny_iff] at *
    exact fun type member => (typeLies type member).mono (by grind) (by grind)

theorem yields_parameters (inside : c.remaining ≤ limit.remaining) (placed : c.Placed cuts) :
    Yields cuts
      (fun parameters d => Parameter.LieAll cuts c.span.start d.previousSpan.stop parameters)
      (rules.parameters c inside) := by
  unfold parameters
  refine (yields_expectMark placed .lparen).andThen placed fun _ beyond placed span => ?_
  simp only [Parameter.lieAll_iff]
  refine (yields_group (Parameter.Lies cuts) .mono (yields_parameter give) placed
    (span ▸ beyond.stands_span) lies_inside _).mono placed fun _ e _ lies => ?_
  exact fun parameter member => (lies parameter member).mono beyond.span_start_le (Nat.le_refl _)

/-! ## Qualified names and types of values -/

omit give in
theorem sound_skipQualifiedTail {c : Cursor} (placed : c.Placed cuts) :
    Sound cuts c.skipQualifiedTail := by
  unfold Cursor.skipQualifiedTail
  refine placed.mark_cases (sound_skipAnglesIfAny placed) (fun past _ beyond => ?_) .dot
  have := past.less
  exact .lax (.go beyond ((yields_propertyName beyond.placed_end).andThen beyond.placed_end
    fun _ _ placed _ => sound_skipQualifiedTail placed))
termination_by c.remaining

omit give in
theorem yields_importedType {start : Span} (opened : Opened cuts start c) (placed : c.Placed cuts) :
    Yields cuts (fun type d => type.Lies cuts start.start d.previousSpan.stop)
      (c.importedType start) := by
  unfold Cursor.importedType
  refine (sound_skipGroup placed).andThen placed fun _ step₁ placed _ => ?_
  refine (sound_skipQualifiedTail placed).bind placed fun _ step₂ placed _ => .ok ?_
  exact Opened.lies_typeFrom (by grind) placed trivial

omit give in
theorem yields_valueType {start : Span} (opened : Opened cuts start c) (placed : c.Placed cuts) :
    Yields cuts (fun type d => type.Lies cuts start.start d.previousSpan.stop)
      (c.valueType start) := by
  unfold Cursor.valueType
  refine placed.keyword_cases ?_ (fun past _ beyond => ?_) .import_
  · refine (yields_expectName placed).andThen placed fun _ step₁ placed _ => ?_
    refine .ite (fun _ => ?_) fun _ => ?_
    · refine (sound_skipQualifiedTail placed).bind placed fun _ step₂ placed _ => .ok ?_
      exact Opened.lies_typeFrom (by grind) placed trivial
    · refine (sound_skipAnglesIfAny placed).bind placed fun _ step₂ placed _ => .ok ?_
      exact Opened.lies_typeFrom (by grind) placed trivial
  · exact .go beyond (yields_importedType (by grind) beyond.placed_end)

/-! ## Function types -/

theorem yields_returnType (inside : c.remaining < limit.remaining) (placed : c.Placed cuts) :
    Yields cuts (TypeExpression.From cuts c) (rules.returnType c inside) := by
  unfold returnType
  have whole := give.type inside placed
  refine placed.next_cases whole fun first _ beyond₁ => ?_
  dsimp only
  refine beyond₁.placed_end.next_cases whole fun second _ beyond₂ => ?_
  have placed₂ := beyond₂.placed_end
  dsimp only
  refine .ite (fun _ => ?_) fun _ => .ite (fun _ => ?_) fun _ => whole
  · refine placed₂.name_cases ?_ (fun past _ beyond₃ => ?_) "is"
    · exact .go beyond₁ (.go beyond₂ (.ok (Opened.lies_typeFrom (by grind) placed₂ trivial)))
    · refine .go beyond₁ (.go beyond₂ (.go beyond₃ ((give.type _ beyond₃.placed_end).andThen
        beyond₃.placed_end fun _ beyond₄ placed _ => .ok ?_)))
      exact Opened.lies_typeFrom (by grind) placed trivial
  · refine .go beyond₁ (.go beyond₂ ((give.type _ placed₂).andThen placed₂
      fun _ beyond₃ placed _ => .ok ?_))
    exact Opened.lies_typeFrom (by grind) placed trivial

theorem yields_resultAscription (inside : c.remaining ≤ limit.remaining) (placed : c.Placed cuts) :
    Yields cuts (fun type d => TypeExpression.LiesIfAny cuts c.span.start d.previousSpan.stop type)
      (rules.resultAscription c inside) := by
  unfold resultAscription
  refine placed.mark_cases (.ok trivial) (fun past _ beyond => ?_) .colon
  refine .lax (.map (.go beyond ((yields_returnType give _ beyond.placed_end).mono
    beyond.placed_end fun _ _ _ lies => ?_)))
  exact lies.mono beyond.span_start_le (Nat.le_refl _)

theorem yields_typeArguments (inside : c.remaining ≤ limit.remaining) (placed : c.Placed cuts) :
    Yields cuts
      (fun arguments d => TypeExpression.LieAll cuts c.span.start d.previousSpan.stop arguments)
      (rules.typeArguments c inside) := by
  unfold typeArguments
  refine (yields_expectMark placed .lt).andThen placed fun _ beyond placed span => ?_
  simp only [TypeExpression.lieAll_iff]
  refine (yields_group (TypeExpression.Lies cuts) .mono give.type placed
    (span ▸ beyond.stands_span) (fun _ lies => lies) _).mono placed fun _ e _ lies => ?_
  exact fun argument member => (lies argument member).mono beyond.span_start_le (Nat.le_refl _)

theorem yields_functionType (inside : c.remaining ≤ limit.remaining) (placed : c.Placed cuts) :
    Yields cuts (TypeExpression.From cuts c) (rules.functionType c inside) := by
  unfold functionType
  refine (sound_skipAnglesIfAny placed).bind placed fun {_ c₁} _ step₁ placed₁ _ => ?_
  refine (yields_parameters give _ placed₁).andThen placed₁ fun {_ c₂} _ step₂ placed₂ lie => ?_
  refine (yields_expectMark placed₂ .arrow).andThen placed₂ fun {_ c₃} _ step₃ placed₃ _ => ?_
  refine (yields_returnType give _ placed₃).andThen placed₃
    fun {_ c₄} _ step₄ placed₄ lies => .ok ?_
  refine Opened.lies_typeFrom (by grind) placed₄ ⟨?_, lies.mono (by grind) (Nat.le_refl _)⟩
  rw [Parameter.lieAll_iff] at *
  exact fun parameter member => (lie parameter member).mono (by grind) (by grind)

/-! ## Tuples -/

omit give in
theorem sound_skipElementLabel (placed : c.Placed cuts) : Sound cuts (skipElementLabel c) := by
  unfold skipElementLabel
  refine placed.next_cases (.ok trivial) fun first _ beyond₁ => ?_
  dsimp only
  split
  · refine beyond₁.placed_end.mark_cases ?_ (fun past _ beyond₂ => ?_) .colon
    · refine beyond₁.placed_end.mark_cases (.ok trivial) (fun second _ beyond₂ => ?_) .question
      dsimp only
      refine beyond₂.placed_end.mark_cases (.ok trivial) (fun past _ beyond₃ => ?_) .colon
      exact .lax (.go beyond₁ (.go beyond₂ (.go beyond₃ (.ok trivial))))
    · exact .lax (.go beyond₁ (.go beyond₂ (.ok trivial)))
  · exact .ok trivial

theorem yields_tupleElement (inside : c.remaining < limit.remaining) (placed : c.Placed cuts) :
    Yields cuts (TypeExpression.From cuts c) (rules.tupleElement c inside) := by
  unfold tupleElement
  refine (sound_optionalMark placed _).bind placed fun {_ c₁} _ step₁ placed₁ _ => ?_
  refine (sound_skipElementLabel placed₁).bind placed₁ fun {_ c₂} _ step₂ placed₂ _ => ?_
  refine (give.type _ placed₂).andThen placed₂ fun {_ c₃} _ step₃ placed₃ lies => ?_
  refine (sound_optionalMark placed₃ _).bind placed₃ fun {_ c₄} _ step₄ _ _ => .ok ?_
  exact lies.mono (by grind) (by grind)

theorem yields_tupleType (inside : c.remaining ≤ limit.remaining) (placed : c.Placed cuts) :
    Yields cuts (TypeExpression.From cuts c) (rules.tupleType c inside) := by
  unfold tupleType
  refine (yields_expectMark placed .lbracket).andThen placed fun _ beyond placed₁ span => ?_
  rw [span]
  refine (yields_group (TypeExpression.Lies cuts) .mono (yields_tupleElement give) placed₁
    beyond.stands_span (fun _ lies => lies) _).andThen placed₁ fun _ further placed lies => .ok ?_
  refine Opened.lies_typeFrom (by grind) placed (TypeExpression.lieAll_iff.2 ?_)
  exact fun member among => (lies member among).mono beyond.span_start_le (Nat.le_refl _)

/-! ## Members of interfaces and object types -/

theorem sound_skipSignature (inside : c.remaining ≤ limit.remaining) (placed : c.Placed cuts) :
    Sound cuts (rules.skipSignature c inside) := by
  unfold skipSignature
  refine (sound_skipAnglesIfAny placed).bind placed fun _ _ placed _ => ?_
  refine (yields_parameters give _ placed).andThen placed fun _ _ placed _ => ?_
  exact .map (yields_resultAscription give _ placed).sound

theorem sound_skipComputedMember (inside : c.remaining ≤ limit.remaining) (placed : c.Placed cuts) :
    Sound cuts (rules.skipComputedMember c inside) := by
  unfold skipComputedMember
  refine (sound_skipGroup placed).andThen placed fun _ _ placed _ => ?_
  refine (sound_optionalMark placed _).bind placed fun _ _ placed _ => ?_
  refine .ite (fun _ => .lax (sound_skipSignature give _ placed)) fun _ => ?_
  exact .map (yields_ascription give _ placed).sound

omit give in
theorem sound_skipAccessorWord (placed : c.Placed cuts) : Sound cuts (skipAccessorWord c) := by
  refine .ite (fun _ => ?_) fun _ => .ok trivial
  refine placed.name_cases (.map (sound_optional placed _)) (fun past _ beyond => ?_) "get"
  exact .lax (.go beyond (.ok trivial))

theorem yields_namedTypeMember {start : Span} (begun : Begun cuts start c) (readonly : Bool)
    (inside : c.remaining ≤ limit.remaining) (placed : c.Placed cuts) :
    Yields cuts (fun member d => member.Lies cuts start.start d.previousSpan.stop)
      (rules.namedTypeMember start readonly c inside) := by
  unfold namedTypeMember
  refine (sound_skipAccessorWord placed).bind placed fun {isGetter c₁} _ step₁ placed₁ _ => ?_
  refine (yields_propertyName placed₁).andThen placed₁ fun {property c₂} _ step₂ placed₂ _ => ?_
  refine (sound_optionalMark placed₂ _).bind placed₂ fun {optional c₃} _ step₃ placed₃ _ => ?_
  dsimp only
  refine .ite (fun _ => ?_) fun _ => ?_
  · refine (sound_skipAnglesIfAny placed₃).bind placed₃ fun {_ c₄} _ step₄ placed₄ _ => .lax ?_
    refine (yields_parameters give _ placed₄).andThen placed₄
      fun {parameters c₅} _ step₅ placed₅ lie => ?_
    refine (yields_resultAscription give _ placed₅).bind placed₅
      fun {result c₆} _ step₆ placed₆ resultLies => .ok ?_
    have atEnd : Opened cuts start c₆ := by grind
    refine ⟨atEnd.lies_spanFrom placed₆, ?_⟩
    rw [atEnd.spanFrom_eq]
    rw [Parameter.lieAll_iff] at lie
    rw [TypeExpression.liesIfAny_iff] at resultLies
    have resultLies : ∀ type ∈ result, type.Lies cuts start.start c₆.previousSpan.stop :=
      fun type member => (resultLies type member).mono (by grind) (Nat.le_refl _)
    split
    · exact TypeExpression.liesIfAny_iff.2 resultLies
    · refine ⟨Parameter.lieAll_iff.2 ?_, TypeExpression.liesIfAny_iff.2 resultLies⟩
      exact fun parameter member => (lie parameter member).mono (by grind) (by grind)
  · refine (yields_ascription give _ placed₃).bind placed₃
      fun {type c₄} _ step₄ placed₄ lies => .ok ?_
    have atEnd : Opened cuts start c₄ := by grind
    refine ⟨atEnd.lies_spanFrom placed₄, TypeExpression.liesIfAny_iff.2 ?_⟩
    rw [atEnd.spanFrom_eq]
    rw [TypeExpression.liesIfAny_iff] at lies
    exact fun type member => (lies type member).mono (by grind) (Nat.le_refl _)

theorem yields_typeMember (inside : c.remaining ≤ limit.remaining) (placed : c.Placed cuts) :
    Yields cuts
      (fun member d => ∀ each ∈ member, each.Lies cuts c.span.start d.previousSpan.stop)
      (rules.typeMember c inside) := by
  unfold typeMember
  have named := yields_namedTypeMember give (.inr rfl) false inside placed
  refine .ite (fun _ => .map ((sound_skipSignature give _ placed).mono placed (by simp)))
    fun _ => ?_
  refine placed.keyword_cases ?_ (fun past _ beyond => ?_) .new_
  · refine (sound_optionalModifier placed _).bind placed fun {_ d} _ step placed _ => ?_
    refine .ite (fun _ => .map ((sound_skipComputedMember give _ placed).mono placed (by simp)))
      fun _ => .map ?_
    refine (yields_namedTypeMember give (.onward (.inr rfl) step) _ _ placed).mono placed ?_
    simp
  · refine .ite (fun _ => .go beyond (.map ((sound_skipSignature give _ beyond.placed_end).mono
      beyond.placed_end (by simp)))) fun _ => .map (named.mono placed (by simp))

omit give in
theorem sound_skipSeparators {c : Cursor} (placed : c.Placed cuts) :
    Sound cuts (skipSeparators c) := by
  unfold skipSeparators
  refine placed.nextIf_cases (.ok trivial) fun past _ beyond => ?_
  have := past.less
  exact .lax (.go beyond (sound_skipSeparators beyond.placed_end))
termination_by c.remaining

theorem yields_typeMembersAfter {c : Cursor} {low : Nat} {opening : Opening}
    {earlier : List TypeMember} (opened : opening.span.Stands cuts c.stop.start)
    (after : low ≤ c.span.start)
    (before : ∀ member ∈ earlier, member.Lies cuts low c.previousSpan.stop)
    (inside : c.remaining ≤ limit.remaining) (placed : c.Placed cuts) :
    Yields cuts (fun members d => TypeMember.LieAll cuts low d.previousSpan.stop members)
      (rules.typeMembersAfter opening earlier c inside) := by
  unfold typeMembersAfter
  refine (sound_skipSeparators placed).bind placed fun {_ d} atMost step₁ placed₁ _ => ?_
  refine placed₁.mark_cases ?_ (fun past _ beyond => ?_) .rbrace
  · refine .ite (fun _ => .fail (placed₁.lies_unclosed (step₁.stands opened) _)) fun _ => ?_
    refine (yields_typeMember give _ placed₁).andThen placed₁
      fun {member e} less step₂ placed₂ lies => ?_
    refine .lax (yields_typeMembersAfter (step₂.stands (step₁.stands opened)) (by grind) ?_ _
      placed₂)
    intro each among
    rcases List.mem_append.1 among with here | there
    · exact (lies each (Option.mem_toList.1 here)).mono (by grind) (Nat.le_refl _)
    · exact (before each there).mono (Nat.le_refl _) (by grind)
  · refine .go beyond (.ok (TypeMember.lieAll_iff.2 fun each among => ?_))
    exact (before each (List.mem_reverse.1 among)).mono (Nat.le_refl _) (by grind)
termination_by c.remaining

theorem yields_typeMembers (inside : c.remaining ≤ limit.remaining) (placed : c.Placed cuts) :
    Yields cuts (fun members d => TypeMember.LieAll cuts c.span.start d.previousSpan.stop members)
      (rules.typeMembers c inside) := by
  unfold typeMembers
  refine (yields_expectMark placed .lbrace).andThen placed fun _ beyond placed span => ?_
  exact .lax (yields_typeMembersAfter give (span ▸ beyond.stands_span) beyond.span_start_le
    (by simp) _ placed)

/-! ## Types without operators -/

theorem yields_namedTypeAfter {start : Span} (opened : Opened cuts start c) (name : String)
    (inside : c.remaining ≤ limit.remaining) (placed : c.Placed cuts) :
    Yields cuts (fun type d => type.Lies cuts start.start d.previousSpan.stop)
      (rules.namedTypeAfter start name c inside) := by
  unfold namedTypeAfter
  refine .ite (fun _ => ?_) fun _ => .ite (fun _ => ?_) fun _ => .ok ?_
  · refine (sound_skipQualifiedTail placed).bind placed fun _ step placed _ => .ok ?_
    exact Opened.lies_typeFrom (by grind) placed trivial
  · refine (yields_typeArguments give _ placed).lax.bind placed fun _ step placed' lie => .ok ?_
    refine Opened.lies_typeFrom (by grind) placed' (TypeExpression.lieAll_iff.2 ?_)
    rw [TypeExpression.lieAll_iff] at lie
    exact fun type member => (lie type member).mono (by grind) (Nat.le_refl _)
  · exact opened.lies_typeFrom placed trivial

theorem yields_constructorType {start : Span} (opened : Opened cuts start c)
    (inside : c.remaining ≤ limit.remaining) (placed : c.Placed cuts) :
    Yields cuts (fun type d => type.Lies cuts start.start d.previousSpan.stop)
      (rules.constructorType start c inside) := by
  unfold constructorType
  refine (yields_functionType give _ placed).andThen placed fun _ step placed _ => .ok ?_
  exact Opened.lies_typeFrom (by grind) placed trivial

theorem yields_primaryType (inside : c.remaining ≤ limit.remaining) (placed : c.Placed cuts) :
    Yields cuts (TypeExpression.From cuts c) (rules.primaryType c inside) := by
  unfold primaryType
  refine placed.next_cases (.fail_expected placed) fun past span beyond => ?_
  have placed₁ := beyond.placed_end
  have opened : Opened cuts c.span past.rest := beyond.opened
  have named (name : String) :=
    yields_namedTypeAfter give opened name (past.le_of_le inside) placed₁
  -- A type that is a single token.
  have single (form : TypeForm)
      (trivially : form.Lies cuts c.span.start past.rest.previousSpan.stop) :
      Yields cuts (TypeExpression.From cuts c)
        (past.go (.ok (past.rest.typeFrom c.span form)) : Outcome true c TypeExpression) :=
    .go beyond (.ok (opened.lies_typeFrom placed₁ trivially))
  dsimp only
  rw [span]
  split
  · refine .ite (fun _ => yields_functionType give _ placed) fun _ => ?_
    refine .go beyond ((give.type _ placed₁).andThen placed₁ fun {type d} _ step placed₂ lies => ?_)
    refine .map ((yields_expectMark placed₂ _).mono placed₂ fun _ e onward _ => ?_)
    exact lies.mono (by grind) (by grind)
  · exact yields_functionType give _ placed
  · exact .go beyond (yields_constructorType give opened _ placed₁)
  · refine .ite (fun _ => ?_) fun _ => ?_
    · refine (sound_skipGroup placed).andThen placed fun _ step placed _ => .ok ?_
      exact step.opened.lies_typeFrom placed trivial
    · refine (yields_typeMembers give _ placed).andThen placed fun _ step placed lie => .ok ?_
      exact step.opened.lies_typeFrom placed lie
  · exact yields_tupleType give _ placed
  · exact .go beyond (.ok ⟨beyond.lies_span, trivial⟩)
  · exact .go beyond (.ok ⟨beyond.lies_span, trivial⟩)
  · exact .go beyond (.ok ⟨beyond.lies_span, trivial⟩)
  · exact .go beyond (.ok ⟨beyond.lies_span, trivial⟩)
  · refine placed₁.nextIf_cases (.fail_expected placed) fun number _ further => ?_
    refine .go beyond (.go further (.ok ?_))
    exact Opened.lies_typeFrom (by grind) further.placed_end trivial
  · exact single _ trivial
  · exact single _ trivial
  · exact single _ trivial
  · exact single _ trivial
  · exact .go beyond (yields_valueType opened placed₁)
  · exact .go beyond (yields_importedType opened placed₁)
  · refine placed₁.keyword_cases (.go beyond (named _)) (fun new _ further => ?_) .new_
    exact .go beyond (.go further (yields_constructorType give (by grind) _ further.placed_end))
  · exact .go beyond (named _)
  · exact .fail_expected placed

/-! ## Operators -/

theorem yields_typeSuffixes {c : Cursor} {start : Span} {type : TypeExpression}
    (opened : Opened cuts start c) (lies : type.Lies cuts start.start c.previousSpan.stop)
    (inside : c.remaining < limit.remaining) (placed : c.Placed cuts) :
    Yields cuts (fun type d => type.Lies cuts start.start d.previousSpan.stop)
      (rules.typeSuffixes start type c inside) := by
  unfold typeSuffixes
  refine placed.mark_cases (.ok lies) (fun past _ step₁ => ?_) .lbracket
  have := past.less
  have placed₁ := step₁.placed_end
  dsimp only
  refine placed₁.mark_cases ?_ (fun closed _ step₂ => ?_) .rbracket
  · refine .lax (.go step₁ ((give.type _ placed₁).andThen placed₁
      fun {_ d} _ step₂ placed₂ _ => ?_))
    refine (yields_expectMark placed₂ _).andThen placed₂ fun {_ e} _ step₃ placed₃ _ => ?_
    have atEnd : Opened cuts start e := by grind
    refine yields_typeSuffixes atEnd ?_ _ placed₃
    exact atEnd.lies_typeFrom placed₃ trivial
  · have := closed.less
    have atEnd : Opened cuts start closed.rest := by grind
    refine .lax (.go step₁ (.go step₂ (yields_typeSuffixes atEnd ?_ _ step₂.placed_end)))
    exact atEnd.lies_typeFrom step₂.placed_end (lies.mono (Nat.le_refl _) (by grind))
termination_by c.remaining

theorem yields_suffixedType (inside : c.remaining ≤ limit.remaining) (placed : c.Placed cuts) :
    Yields cuts (TypeExpression.From cuts c) (rules.suffixedType c inside) := by
  unfold suffixedType
  refine (yields_primaryType give _ placed).andThen placed fun _ step placed lies => ?_
  exact yields_typeSuffixes give step.opened lies _ placed

theorem sound_skipConstraint (inside : c.remaining < limit.remaining) (placed : c.Placed cuts) :
    Sound cuts (rules.skipConstraint c inside) := by
  unfold skipConstraint
  refine placed.keyword_cases (.ok trivial) (fun past _ beyond => ?_) .extends_
  refine .ite (fun _ => .ok trivial) fun _ => ?_
  exact .lax (.map (.go beyond (give.typeOperand _ beyond.placed_end).sound))

theorem yields_operandType (inside : c.remaining ≤ limit.remaining) (placed : c.Placed cuts) :
    Yields cuts (TypeExpression.From cuts c) (rules.operandType c inside) := by
  unfold operandType
  have suffixed := yields_suffixedType give inside placed
  refine placed.next_cases suffixed fun past span beyond => ?_
  have placed₁ := beyond.placed_end
  dsimp only
  rw [span]
  split
  · refine .ite (fun _ => ?_) fun _ => suffixed
    refine .go beyond ((give.typeOperand _ placed₁).andThen placed₁ fun _ step placed _ => .ok ?_)
    exact Opened.lies_typeFrom (by grind) placed trivial
  · refine .ite (fun _ => ?_) fun _ => suffixed
    refine .go beyond ((give.typeOperand _ placed₁).mono placed₁ fun _ _ _ lies => ?_)
    exact lies.mono beyond.span_start_le (Nat.le_refl _)
  · refine placed₁.name_cases suffixed (fun symbol _ further => ?_) "symbol"
    refine .go beyond (.go further (.ok ?_))
    exact Opened.lies_typeFrom (by grind) further.placed_end trivial
  · refine placed₁.next_cases suffixed fun second _ further => ?_
    have placed₂ := further.placed_end
    dsimp only
    split
    · refine .go beyond (.go further ((sound_skipConstraint give _ placed₂).bind placed₂
        fun _ step placed _ => .ok ?_))
      exact Opened.lies_typeFrom (by grind) placed trivial
    · exact suffixed
  · exact suffixed

omit give in
theorem yields_furtherMembers {c : Cursor} {sign : Mark} (low : Nat)
    {member : (c : Cursor) → c.remaining ≤ limit.remaining → Outcome true c TypeExpression}
    (each : ∀ {c} inside, c.Placed cuts →
      Yields cuts (TypeExpression.From cuts c) (member c inside))
    {earlier : List TypeExpression} (after : low ≤ c.span.start)
    (before : ∀ type ∈ earlier, type.Lies cuts low c.previousSpan.stop)
    (inside : c.remaining ≤ limit.remaining) (placed : c.Placed cuts) :
    Yields cuts (fun members d => TypeExpression.LieAll cuts low d.previousSpan.stop members)
      (furtherMembers sign member earlier c inside) := by
  unfold furtherMembers
  refine placed.mark_cases ?_ (fun past _ step₁ => ?_) sign
  · exact .ok (TypeExpression.lieAll_iff.2 (by simpa using before))
  · have := past.less
    have placed₁ := step₁.placed_end
    refine .lax (.go step₁ ((each _ placed₁).andThen placed₁
      fun {type d} less step₂ placed₂ lies => ?_))
    refine yields_furtherMembers low each (by grind) (List.forall_mem_cons.2 ⟨?_, ?_⟩) _ placed₂
    · exact lies.mono (by grind) (Nat.le_refl _)
    · exact fun other among => (before other among).mono (Nat.le_refl _) (by grind)
termination_by c.remaining

theorem yields_intersectionType (inside : c.remaining ≤ limit.remaining) (placed : c.Placed cuts) :
    Yields cuts (TypeExpression.From cuts c) (rules.intersectionType c inside) := by
  unfold intersectionType
  refine (sound_optionalMark placed _).bind placed fun {_ d} _ step₁ placed₁ _ => ?_
  refine (yields_operandType give _ placed₁).andThen placed₁
    fun {first e} _ step₂ placed₂ lies => ?_
  have firstLies := lies.mono step₁.span_start_le (Nat.le_refl _)
  refine (yields_furtherMembers c.span.start (yields_operandType give) (by grind)
    (by simpa using firstLies) _ placed₂).bind placed₂ fun {members f} _ step₃ placed₃ lie => .ok ?_
  split
  · exact firstLies.mono (Nat.le_refl _) (by grind)
  · exact Opened.lies_typeFrom (by grind) placed₃ lie

theorem yields_unionType (inside : c.remaining ≤ limit.remaining) (placed : c.Placed cuts) :
    Yields cuts (TypeExpression.From cuts c) (rules.unionType c inside) := by
  unfold unionType
  refine (sound_optionalMark placed _).bind placed fun {leading d} _ step₁ placed₁ _ => ?_
  refine (yields_intersectionType give _ placed₁).andThen placed₁
    fun {first e} _ step₂ placed₂ lies => ?_
  have firstLies := lies.mono step₁.span_start_le (Nat.le_refl _)
  refine (yields_furtherMembers c.span.start (yields_intersectionType give) (by grind)
    (by simpa using firstLies) _ placed₂).bind placed₂ fun {members f} _ step₃ placed₃ lie => .ok ?_
  have atEnd : Opened cuts c.span f := by grind
  have widened := firstLies.mono (Nat.le_refl _) step₃.previousSpan_stop_le
  split
  · split
    · exact atEnd.lies_typeFrom placed₃ widened.form
    · exact widened
  · exact atEnd.lies_typeFrom placed₃ lie

theorem yields_fullType (inside : c.remaining ≤ limit.remaining) (placed : c.Placed cuts) :
    Yields cuts (TypeExpression.From cuts c) (rules.fullType c inside) := by
  unfold fullType
  refine (yields_unionType give _ placed).andThen placed fun {type c₁} _ step₁ placed₁ lies => ?_
  refine placed₁.keyword_cases (.ok lies) (fun past _ step => ?_) .extends_
  have placed' := step.placed_end
  refine .lax (.go step ((yields_unionType give _ placed').andThen placed'
    fun {_ c₂} _ step₂ placed₂ _ => ?_))
  refine (yields_expectMark placed₂ _).andThen placed₂ fun {_ c₃} _ step₃ placed₃ _ => ?_
  refine (give.type _ placed₃).andThen placed₃ fun {_ c₄} _ step₄ placed₄ _ => ?_
  refine (yields_expectMark placed₄ _).andThen placed₄ fun {_ c₅} _ step₅ placed₅ _ => ?_
  refine (give.type _ placed₅).andThen placed₅ fun {_ c₆} _ step₆ placed₆ _ => .ok ?_
  exact Opened.lies_typeFrom (by grind) placed₆ trivial

end

end Rules

end InjectionCheck
