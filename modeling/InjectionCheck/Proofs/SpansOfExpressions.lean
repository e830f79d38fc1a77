import InjectionCheck.Proofs.SpansOfTypes

/-!
# Where expressions stand

The rules for expressions give what stands where it should if the recursive rules do. By
induction on the tokens that are left, this is true of the recursive rules themselves
(`Rules.give_all`).
-/

set_option autoImplicit false

namespace InjectionCheck

open Cursor Outcome

variable {cuts : Nat → Prop}

namespace Cursor

variable {c d : Cursor} {start : Span}

/-- An expression that starts with a token that is passed. -/
theorem Opened.lies_expressionFrom (opened : Opened cuts start d) (placed : d.Placed cuts)
    {form : ExpressionForm} (inner : form.Lies cuts start.start d.previousSpan.stop) :
    (d.expressionFrom start form).Lies cuts start.start d.previousSpan.stop := by
  refine ⟨opened.lies_spanFrom placed, ?_⟩
  rwa [opened.spanFrom_eq]

/-- A property that starts with a token that is passed. -/
theorem Opened.lies_property (opened : Opened cuts start d) (placed : d.Placed cuts)
    {key : PropertyKey} {value : Expression}
    (lies : value.Lies cuts start.start d.previousSpan.stop) :
    (Property.mk key value (d.spanFrom start)).Lies cuts start.start d.previousSpan.stop := by
  refine ⟨opened.lies_spanFrom placed, ?_⟩
  rwa [opened.spanFrom_eq]

theorem Opened.opened_spanFrom (opened : Opened cuts start c) :
    Opened cuts (c.spanFrom start) c := by
  have nonempty := opened.nonempty
  have stop_le := opened.stop_le
  rw [opened.spanFrom_eq]
  exact ⟨by dsimp only; omega, opened.cut_start, opened.start_le, Nat.le_refl _⟩

theorem sound_skipHeritage {c : Cursor} (placed : c.Placed cuts) : Sound cuts c.skipHeritage := by
  unfold skipHeritage
  refine placed.next_cases (.fail_expected placed) fun past _ beyond => ?_
  have := past.less
  dsimp only
  split
  · exact .ok trivial
  · exact .lax ((sound_skipAngles placed).andThen placed fun _ _ placed _ =>
      sound_skipHeritage placed)
  · exact .lax ((sound_skipGroup placed).andThen placed fun _ _ placed _ =>
      sound_skipHeritage placed)
  · exact .lax (.go beyond (sound_skipHeritage beyond.placed_end))
termination_by c.remaining

theorem sound_skipClassTail (placed : c.Placed cuts) : Sound cuts c.skipClassTail := by
  unfold skipClassTail
  exact (sound_skipHeritage placed).bind placed fun _ _ placed _ => .map (sound_skipGroup placed)

end Cursor

namespace Rules

variable {limit : Cursor} {rules : Rules limit} (give : rules.Give cuts) {c : Cursor}
  {start : Span}

include give

/-! ## Functions -/

theorem sound_skipCallableTail (inside : c.remaining ≤ limit.remaining) (placed : c.Placed cuts) :
    Sound cuts (rules.skipCallableTail c inside) := by
  unfold skipCallableTail
  refine (sound_skipAnglesIfAny placed).bind placed fun _ _ placed _ => ?_
  refine (yields_parameters give _ placed).andThen placed fun _ _ placed _ => ?_
  refine (yields_resultAscription give _ placed).bind placed fun _ _ placed _ => ?_
  refine .ite (fun _ => .lax (.map (sound_skipGroup placed))) fun _ => ?_
  exact sound_optionalSemicolon placed

theorem sound_skipFunction (inside : c.remaining ≤ limit.remaining) (placed : c.Placed cuts) :
    Sound cuts (rules.skipFunction c inside) := by
  unfold skipFunction
  refine (yields_expectKeyword placed _).andThen placed fun _ _ placed _ => ?_
  refine (sound_optionalMark placed _).bind placed fun _ _ placed _ => ?_
  refine (sound_optional placed _).bind placed fun _ _ placed _ => ?_
  exact .lax (sound_skipCallableTail give _ placed)

theorem sound_skipArrowHead (inside : c.remaining ≤ limit.remaining) (placed : c.Placed cuts) :
    Sound cuts (rules.skipArrowHead c inside) := by
  unfold skipArrowHead
  refine (sound_skipAnglesIfAny placed).bind placed fun _ _ placed _ => ?_
  refine .ite (fun _ => ?_) fun _ => .map (yields_expectName placed).sound
  refine (sound_skipGroup placed).andThen placed fun _ _ placed _ => ?_
  exact .map (yields_resultAscription give _ placed).sound

theorem yields_arrowFunction (begun : Begun cuts start c) (inside : c.remaining ≤ limit.remaining)
    (placed : c.Placed cuts) :
    Yields cuts (fun arrow d => arrow.Lies cuts start.start d.previousSpan.stop)
      (rules.arrowFunction start c inside) := by
  unfold arrowFunction
  refine (sound_skipArrowHead give _ placed).andThen placed fun {_ d} _ step₁ placed₁ _ => ?_
  refine (yields_expectMark placed₁ _).andThen placed₁ fun {_ e} _ step₂ placed₂ _ => ?_
  refine .ite (fun _ => ?_) fun _ => ?_
  · refine (sound_skipGroup placed₂).andThen placed₂ fun _ step₃ placed₃ _ => .ok ?_
    exact Opened.lies_expressionFrom (by grind) placed₃ trivial
  · refine (give.assignment _ placed₂).andThen placed₂ fun _ step₃ placed₃ _ => .ok ?_
    exact Opened.lies_expressionFrom (by grind) placed₃ trivial

/-! ## Literals -/

theorem yields_propertyValue {keySpan : Span} {key : PropertyKey} {isMethod : Bool}
    (opened : Opened cuts start c) (keyOpened : Opened cuts keySpan c)
    (keyLies : keySpan.Lies cuts start.start c.previousSpan.stop)
    (inside : c.remaining < limit.remaining) (placed : c.Placed cuts) :
    Yields cuts (fun property d => property.Lies cuts start.start d.previousSpan.stop)
      (rules.propertyValue start key keySpan isMethod c inside) := by
  unfold propertyValue
  refine .ite (fun _ => ?_) fun _ => ?_
  · refine (sound_skipCallableTail give _ placed).lax.bind placed
      fun {_ d} _ step placed _ => .ok ?_
    have value : (d.expressionFrom keySpan .function).Lies cuts keySpan.start d.previousSpan.stop :=
      Opened.lies_expressionFrom (by grind) placed trivial
    exact Opened.lies_property (by grind) placed (value.mono keyLies.low_le (Nat.le_refl _))
  · refine placed.mark_cases ?_ (fun past _ beyond => ?_) .colon
    · dsimp only
      split
      · refine (sound_initial give _ placed).bind placed fun {_ d} _ step placed _ => .ok ?_
        refine Opened.lies_property (by grind) placed ⟨?_, trivial⟩
        exact keyLies.mono (Nat.le_refl _) step.previousSpan_stop_le
      · exact .fail_expected placed
      · exact .fail_expected placed
    · refine .lax (.go beyond ((give.assignment _ beyond.placed_end).andThen beyond.placed_end
        fun {value d} _ step placed' lies => .ok ?_))
      refine Opened.lies_property (by grind) placed' (lies.mono ?_ (Nat.le_refl _))
      grind

omit give in
theorem sound_skipMethodWord (placed : c.Placed cuts) : Sound cuts (skipMethodWord c) :=
  .ite (fun _ => sound_optional placed _) fun _ => .ok trivial

theorem yields_propertyKey (inside : c.remaining ≤ limit.remaining) (placed : c.Placed cuts) :
    Yields cuts
      (fun key d => Opened cuts key.2 d ∧ key.2.Lies cuts c.span.start d.previousSpan.stop)
      (rules.propertyKey c inside) := by
  unfold propertyKey
  refine placed.mark_cases (.map ?_) (fun past span beyond => .go beyond ?_) .lbracket
  · refine (yields_propertyName placed).passing placed fun property d beyond span => ?_
    rw [span]
    exact ⟨beyond.opened, beyond.lies_span⟩
  · refine (give.assignment _ beyond.placed_end).andThen beyond.placed_end
      fun {_ d} _ step₁ placed₁ _ => ?_
    refine (yields_expectMark placed₁ _).andThen placed₁ fun {_ e} _ step₂ placed₂ _ => .ok ?_
    have opened : Opened cuts past.token.span e := by grind
    rw [span] at opened ⊢
    exact ⟨opened.opened_spanFrom, opened.lies_spanFrom placed₂⟩

theorem yields_property (inside : c.remaining < limit.remaining) (placed : c.Placed cuts) :
    Yields cuts (fun property d => property.Lies cuts c.span.start d.previousSpan.stop)
      (rules.property c inside) := by
  unfold property
  refine placed.mark_cases ?_ (fun past span beyond => ?_) .ellipsis
  · refine (sound_skipMethodWord placed).bind placed fun {_ c₁} _ step₁ placed₁ _ => ?_
    refine (sound_optionalMark placed₁ _).bind placed₁ fun {_ c₂} _ step₂ placed₂ _ => ?_
    refine (yields_propertyKey give _ placed₂).andThen placed₂
      fun {key c₃} _ step₃ placed₃ lies => ?_
    refine yields_propertyValue give (by grind) lies.1 ?_ _ placed₃
    exact lies.2.mono (by grind) (Nat.le_refl _)
  · refine .go beyond ((give.assignment _ beyond.placed_end).andThen beyond.placed_end
      fun {value d} _ step placed lies => .ok ?_)
    rw [span]
    refine Opened.lies_property (by grind) placed ?_
    exact lies.mono beyond.span_start_le (Nat.le_refl _)

theorem yields_object (inside : c.remaining ≤ limit.remaining) (placed : c.Placed cuts) :
    Yields cuts (Expression.From cuts c) (rules.object c inside) := by
  unfold object
  refine (yields_expectMark placed .lbrace).andThen placed fun _ beyond placed₁ span => ?_
  rw [span]
  refine (yields_group (Property.Lies cuts) .mono (yields_property give) placed₁ beyond.stands_span
    (fun _ lies => lies) _).andThen placed₁ fun _ step placed lie => .ok ?_
  refine Opened.lies_expressionFrom (by grind) placed (Property.lieAll_iff.2 ?_)
  exact fun property member => (lie property member).mono beyond.span_start_le (Nat.le_refl _)

theorem yields_arrayElements {c : Cursor} (low : Nat) {opening : Opening}
    {earlier : List Expression} (opened : opening.span.Stands cuts c.stop.start)
    (after : low ≤ c.span.start)
    (before : ∀ element ∈ earlier, element.Lies cuts low c.previousSpan.stop)
    (inside : c.remaining < limit.remaining) (placed : c.Placed cuts) :
    Yields cuts (fun elements d => Expression.LieAll cuts low d.previousSpan.stop elements)
      (rules.arrayElements opening earlier c inside) := by
  -- The elements up to a closing bracket.
  have closed {elements : List Expression} {d e : Cursor} (onward : Onward cuts d e)
      (lie : ∀ element ∈ elements, element.Lies cuts low d.previousSpan.stop) :
      Expression.LieAll cuts low e.previousSpan.stop elements.reverse := by
    refine Expression.lieAll_iff.2 fun element member => ?_
    exact (lie element (List.mem_reverse.1 member)).mono (Nat.le_refl _) onward.previousSpan_stop_le
  unfold arrayElements
  refine placed.mark_cases ?_ (fun past _ beyond => ?_) .rbracket
  · refine .ite (fun _ => .fail (placed.lies_unclosed opened _)) fun _ => ?_
    refine placed.mark_cases ?_ (fun past _ beyond => ?_) .comma
    · refine (yields_spreadable give _ placed).andThen placed
        fun {element d} less step₁ placed₁ lies => ?_
      have values : ∀ each ∈ element :: earlier, each.Lies cuts low d.previousSpan.stop := by
        refine List.forall_mem_cons.2 ⟨lies.mono after (Nat.le_refl _), fun each member => ?_⟩
        exact (before each member).mono (Nat.le_refl _) step₁.previousSpan_stop_le
      refine placed₁.mark_cases ?_ (fun past _ step₂ => ?_) .rbracket
      · refine .lax ((yields_expectMark placed₁ _).andThen placed₁
          fun {_ e} _ step₂ placed₂ _ => ?_)
        refine yields_arrayElements low (step₂.stands (step₁.stands opened)) (by grind) ?_ _ placed₂
        exact fun each member => (values each member).mono (Nat.le_refl _) (by grind)
      · exact .lax (.go step₂ (.ok (closed step₂.toOnward values)))
    · have := past.less
      refine .go beyond (yields_arrayElements low (beyond.stands opened) (by grind) ?_ _
        beyond.placed_end)
      exact fun each member => (before each member).mono (Nat.le_refl _) (by grind)
  · exact .go beyond (.ok (closed beyond.toOnward before))
termination_by c.remaining

theorem yields_array (inside : c.remaining ≤ limit.remaining) (placed : c.Placed cuts) :
    Yields cuts (Expression.From cuts c) (rules.array c inside) := by
  unfold array
  refine (yields_expectMark placed .lbracket).andThen placed fun _ beyond placed₁ span => ?_
  rw [span]
  refine (yields_arrayElements give c.span.start beyond.stands_span beyond.span_start_le
    (by simp) _ placed₁).andThen placed₁ fun _ step placed lie => .ok ?_
  exact Opened.lies_expressionFrom (by grind) placed lie

/-! ## Operands -/

theorem yields_asyncOrName (opened : Opened cuts start c) (inside : c.remaining ≤ limit.remaining)
    (placed : c.Placed cuts) :
    Yields cuts (fun value d => value.Lies cuts start.start d.previousSpan.stop)
      (rules.asyncOrName start c inside) := by
  unfold asyncOrName
  refine .ite (fun _ => ?_) fun _ => .ok (opened.lies_expressionFrom placed trivial)
  refine (sound_skipFunction give _ placed).lax.bind placed fun _ step placed _ => .ok ?_
  exact Opened.lies_expressionFrom (by grind) placed trivial

theorem yields_classExpression (inside : c.remaining ≤ limit.remaining) (placed : c.Placed cuts) :
    Yields cuts (Expression.From cuts c) (rules.classExpression c inside) := by
  unfold classExpression
  refine (yields_decorators give _ placed (Nat.le_refl _) (by simp)).bind placed
    fun _ step₁ placed₁ _ => ?_
  refine (yields_expectKeyword placed₁ _).andThen placed₁ fun _ step₂ placed₂ _ => ?_
  refine (sound_skipClassTail placed₂).andThen placed₂ fun _ step₃ placed₃ _ => .ok ?_
  exact Opened.lies_expressionFrom (by grind) placed₃ trivial

theorem yields_primary (inside : c.remaining ≤ limit.remaining) (placed : c.Placed cuts) :
    Yields cuts (Expression.From cuts c) (rules.primary c inside) := by
  unfold primary
  refine placed.next_cases (.fail_expected placed) fun past span beyond => ?_
  have placed₁ := beyond.placed_end
  have opened : Opened cuts c.span past.rest := beyond.opened
  -- An operand that is a single token.
  have single (form : ExpressionForm)
      (trivially : form.Lies cuts c.span.start past.rest.previousSpan.stop) :
      Yields cuts (Expression.From cuts c)
        (past.go (.ok (past.rest.expressionFrom c.span form)) : Outcome true c Expression) :=
    .go beyond (.ok (opened.lies_expressionFrom placed₁ trivially))
  dsimp only
  rw [span]
  split
  · exact .go beyond (yields_asyncOrName give opened _ placed₁)
  · exact single _ trivial
  · exact single _ trivial
  · exact single _ trivial
  · exact single _ trivial
  · exact single _ trivial
  · exact single _ trivial
  · exact single _ trivial
  · exact single _ trivial
  · exact single _ trivial
  · refine .go beyond ((give.expression _ placed₁).andThen placed₁
      fun {inner d} _ step₁ placed₂ lies => ?_)
    have stands : c.span.Stands cuts d.stop.start := (beyond.trans step₁).stands_span
    refine .map (.mapError ?_ fun _ => lies_inside stands)
    refine (yields_expectMark placed₂ _).mono placed₂ fun _ e step₂ _ => ?_
    exact lies.mono (by grind) (by grind)
  · exact yields_object give _ placed
  · exact yields_array give _ placed
  · refine (sound_skipFunction give _ placed).andThen placed fun _ step placed _ => .ok ?_
    exact step.opened.lies_expressionFrom placed trivial
  · exact yields_classExpression give _ placed
  · exact yields_classExpression give _ placed
  · exact .fail_expected placed

theorem yields_indexElement (inside : c.remaining < limit.remaining) (placed : c.Placed cuts) :
    Yields cuts (Expression.From cuts c) (rules.indexElement c inside) := by
  unfold indexElement
  refine (give.expression _ placed).andThen placed fun _ step₁ placed lies => .map ?_
  refine (yields_expectMark placed _).mono placed fun _ _ step₂ _ => ?_
  exact lies.mono (Nat.le_refl _) (by grind)

/-! ## Constructions -/

theorem yields_constructedClass {c : Cursor} {callee : Expression} (opened : Opened cuts start c)
    (lies : callee.Lies cuts start.start c.previousSpan.stop)
    (inside : c.remaining < limit.remaining) (placed : c.Placed cuts) :
    Yields cuts (fun callee d => callee.Lies cuts start.start d.previousSpan.stop)
      (rules.constructedClass start callee c inside) := by
  unfold constructedClass
  dsimp only
  refine placed.mark_cases ?_ (fun past _ step₁ => ?_) .dot
  · refine placed.mark_cases (.ok lies) (fun past _ step₁ => ?_) .lbracket
    have := past.less
    have placed₁ := step₁.placed_end
    refine .lax (.go step₁ ((yields_indexElement give _ placed₁).andThen placed₁
      fun {index d} _ step₂ placed₂ indexLies => ?_))
    have atEnd : Opened cuts start d := by grind
    refine yields_constructedClass atEnd ?_ _ placed₂
    refine atEnd.lies_expressionFrom placed₂ ⟨?_, ?_⟩
    · exact lies.mono (Nat.le_refl _) (by grind)
    · exact indexLies.mono (by grind) (Nat.le_refl _)
  · have := past.less
    have placed₁ := step₁.placed_end
    refine .lax (.go step₁ ((yields_propertyName placed₁).andThen placed₁
      fun {_ d} _ step₂ placed₂ _ => ?_))
    have atEnd : Opened cuts start d := by grind
    refine yields_constructedClass atEnd ?_ _ placed₂
    exact atEnd.lies_expressionFrom placed₂ (lies.mono (Nat.le_refl _) (by grind))
termination_by c.remaining

theorem yields_constructionAfter (opened : Opened cuts start c)
    (inside : c.remaining < limit.remaining) (placed : c.Placed cuts) :
    Yields cuts (fun value d => value.Lies cuts start.start d.previousSpan.stop)
      (rules.constructionAfter start c inside) := by
  unfold constructionAfter
  have first : Yields cuts (Expression.From cuts c)
      (if c.kind? = some (.keyword .new_) then rules.construction c inside
        else rules.primary c (Cursor.le_of_lt inside)) :=
    .ite (fun _ => give.construction _ placed) fun _ => yields_primary give _ placed
  refine first.andThen placed fun {_ c₁} _ step₁ placed₁ lies => ?_
  refine (yields_constructedClass give step₁.opened lies _ placed₁).bind placed₁
    fun {callee c₂} _ step₂ placed₂ lies => ?_
  refine (sound_skipAnglesIfAny placed₂).bind placed₂ fun {_ c₃} _ step₃ placed₃ _ => ?_
  refine (yields_optionalArguments give _ placed₃).bind placed₃
    fun {arguments c₄} _ step₄ placed₄ lie => .ok ?_
  rw [Expression.lieAll_iff] at lie
  have before := opened.start_le_span placed
  refine Opened.lies_expressionFrom (by grind) placed₄ ⟨lies.mono before (by grind), ?_⟩
  refine Expression.lieAll_iff.2 fun argument member => ?_
  exact (lie argument member).mono (by grind) (Nat.le_refl _)

theorem yields_newExpression (inside : c.remaining ≤ limit.remaining) (placed : c.Placed cuts) :
    Yields cuts (Expression.From cuts c) (rules.newExpression c inside) := by
  unfold newExpression
  refine (yields_expectKeyword placed _).andThen placed fun {word d} _ step₁ placed₁ span => ?_
  rw [span]
  refine placed₁.mark_cases ?_ (fun past _ step₂ => ?_) .dot
  · exact .lax (yields_constructionAfter give step₁.opened _ placed₁)
  · have placed₂ := step₂.placed_end
    refine .lax (.go step₂ ((yields_propertyName placed₂).andThen placed₂
      fun {_ e} _ step₃ placed₃ _ => .ok ?_))
    have word : c.span.Lies cuts c.span.start e.previousSpan.stop :=
      step₁.lies_span.mono (Nat.le_refl _) (by grind)
    exact Opened.lies_expressionFrom (by grind) placed₃ ⟨word, trivial⟩

/-! ## Suffixes -/

theorem yields_suffixes {c : Cursor} {operand : Expression} (opened : Opened cuts start c)
    (lies : operand.Lies cuts start.start c.previousSpan.stop)
    (inside : c.remaining < limit.remaining) (placed : c.Placed cuts) :
    Yields cuts (fun value d => value.Lies cuts start.start d.previousSpan.stop)
      (rules.suffixes start operand c inside) := by
  unfold suffixes
  refine placed.next_cases (.ok lies) fun past _ step₁ => ?_
  have := past.less
  have placed₁ := step₁.placed_end
  -- What goes on from a later cursor, with a form that the operand is part of.
  have again {d : Cursor} {form : ExpressionForm} (beyond : Beyond cuts c d)
      (behind : d.remaining < limit.remaining)
      (inner : form.Lies cuts start.start d.previousSpan.stop) :
      Yields cuts (fun value d => value.Lies cuts start.start d.previousSpan.stop)
        (rules.suffixes start (d.expressionFrom start form) d behind) := by
    have less := beyond.passes
    have atEnd : Opened cuts start d := opened.onward beyond.toOnward
    exact yields_suffixes atEnd (atEnd.lies_expressionFrom beyond.placed_end inner) _
      beyond.placed_end
  have wider {d : Cursor} (beyond : Beyond cuts c d) :
      operand.Lies cuts start.start d.previousSpan.stop :=
    lies.mono (Nat.le_refl _) beyond.previousSpan_stop_le
  have before := opened.start_le_span placed
  dsimp only
  split
  · refine .lax (.go step₁ ((yields_propertyName placed₁).andThen placed₁
      fun _ step₂ placed₂ _ => ?_))
    exact again (by grind) _ (wider (by grind))
  · refine .ite (fun _ => ?_) fun _ => ?_
    · refine .lax (.go step₁ ((yields_arguments give _ placed₁).andThen placed₁
        fun _ step₂ placed₂ lie => ?_))
      rw [Expression.lieAll_iff] at lie
      refine again (by grind) _ ⟨wider (by grind), trivial, Expression.lieAll_iff.2 ?_⟩
      exact fun argument member => (lie argument member).mono (by grind) (Nat.le_refl _)
    · refine placed₁.mark_cases ?_ (fun opened _ step₂ => ?_) .lbracket
      · refine .lax (.go step₁ ((yields_propertyName placed₁).andThen placed₁
          fun _ step₂ placed₂ _ => ?_))
        exact again (by grind) _ (wider (by grind))
      · have := opened.less
        have placed₂ := step₂.placed_end
        refine .lax (.go step₁ (.go step₂ ((yields_indexElement give _ placed₂).andThen placed₂
          fun _ step₃ placed₃ indexLies => ?_)))
        exact again (by grind) _ ⟨wider (by grind), indexLies.mono (by grind) (Nat.le_refl _)⟩
  · refine .lax (.go step₁ ((yields_indexElement give _ placed₁).andThen placed₁
      fun _ step₂ placed₂ indexLies => ?_))
    exact again (by grind) _ ⟨wider (by grind), indexLies.mono (by grind) (Nat.le_refl _)⟩
  · refine .lax ((yields_arguments give _ placed).andThen placed fun _ step₂ placed₂ lie => ?_)
    rw [Expression.lieAll_iff] at lie
    refine again step₂ _ ⟨wider step₂, trivial, Expression.lieAll_iff.2 ?_⟩
    exact fun argument member => (lie argument member).mono before (Nat.le_refl _)
  · refine .tried placed (yields_typeArguments give _ placed)
      (fun {types d} _ _ step₂ placed₂ typesLie => ?_) (.ok lies)
    refine .ite (fun _ => ?_) fun _ => ?_
    · refine .lax (.following step₂ _ ((yields_arguments give _ placed₂).andThen placed₂
        fun {arguments e} _ step₃ placed₃ lie => ?_))
      rw [TypeExpression.lieAll_iff] at typesLie
      rw [Expression.lieAll_iff] at lie
      refine again (step₂.trans_beyond step₃) _ ⟨wider (by grind), ?_, ?_⟩
      · exact TypeExpression.lieAll_iff.2 fun type member =>
          (typesLie type member).mono before (by grind)
      · exact Expression.lieAll_iff.2 fun argument member =>
          (lie argument member).mono (by grind) (Nat.le_refl _)
    · exact .ok lies
  · refine .lax (.go step₁ (yields_suffixes (by grind) (wider step₁) _ placed₁))
  · exact .lax (.go step₁ (again step₁ _ trivial))
  · exact .ok lies
termination_by c.remaining

theorem yields_suffixed (inside : c.remaining ≤ limit.remaining) (placed : c.Placed cuts) :
    Yields cuts (Expression.From cuts c) (rules.suffixed c inside) := by
  unfold suffixed
  have first : Yields cuts (Expression.From cuts c)
      (if c.kind? = some (.keyword .new_) then rules.newExpression c inside
        else rules.primary c inside) :=
    .ite (fun _ => yields_newExpression give _ placed) fun _ => yields_primary give _ placed
  refine first.andThen placed fun _ step placed lies => ?_
  exact yields_suffixes give step.opened lies _ placed

/-! ## Operators -/

theorem yields_operand (inside : c.remaining ≤ limit.remaining) (placed : c.Placed cuts) :
    Yields cuts (Expression.From cuts c) (rules.operand c inside) := by
  unfold operand
  have suffixed := yields_suffixed give inside placed
  refine placed.next_cases suffixed fun past span step₁ => ?_
  have placed₁ := step₁.placed_end
  dsimp only
  refine .ite (fun _ => ?_) fun _ => .ite (fun _ => ?_) fun _ => suffixed
  · refine .go step₁ ((give.unary _ placed₁).andThen placed₁ fun _ step₂ placed₂ lies => .ok ?_)
    rw [span]
    refine Opened.lies_expressionFrom (by grind) placed₂ ?_
    exact lies.mono step₁.span_start_le (Nat.le_refl _)
  · refine (sound_skipAngles placed).andThen placed fun _ step₂ placed₂ _ => .lax ?_
    refine (give.unary _ placed₂).mono placed₂ fun _ _ _ lies => ?_
    exact lies.mono step₂.span_start_le (Nat.le_refl _)

theorem sound_skipAssertedType (inside : c.remaining < limit.remaining) (placed : c.Placed cuts) :
    Sound cuts (rules.skipAssertedType c inside) := by
  unfold skipAssertedType
  refine placed.keyword_cases (.map (give.type _ placed).sound) (fun past _ beyond => ?_) .const_
  exact .go beyond (.ok trivial)

theorem yields_operators {c : Cursor} {least : Nat} {left : Expression}
    (opened : Opened cuts start c)
    (lies : left.Lies cuts start.start c.previousSpan.stop)
    (inside : c.remaining < limit.remaining) (placed : c.Placed cuts) :
    Yields cuts (fun value d => value.Lies cuts start.start d.previousSpan.stop)
      (rules.operators least start left c inside) := by
  unfold operators
  refine placed.next_cases (.ok lies) fun past _ step₁ => ?_
  have := past.less
  have placed₁ := step₁.placed_end
  have before := opened.start_le_span placed
  dsimp only
  refine .ite (fun _ => ?_) fun _ => ?_
  · refine .lax (.go step₁ ((sound_skipAssertedType give _ placed₁).andThen placed₁
      fun _ step₂ placed₂ _ => ?_))
    exact yields_operators (by grind) (lies.mono (Nat.le_refl _) (by grind)) _ placed₂
  · split
    · exact .ok lies
    · refine .ite (fun _ => .ok lies) fun _ => .lax (.go step₁ ?_)
      have second : Sound cuts (if past.token.kind = .mark .star then past.rest.optionalMark .star
          else .ok false) :=
        .ite (fun _ => sound_optionalMark placed₁ _) fun _ => .ok trivial
      refine second.bind placed₁ fun {_ d} _ step₂ placed₂ _ => .lax ?_
      refine (give.binary _ _ placed₂).andThen placed₂ fun {right e} _ step₃ placed₃ rightLies => ?_
      have atEnd : Opened cuts start e := by grind
      refine yields_operators atEnd ?_ _ placed₃
      refine atEnd.lies_expressionFrom placed₃ ⟨?_, ?_⟩
      · exact lies.mono (Nat.le_refl _) (by grind)
      · exact rightLies.mono (by grind) (Nat.le_refl _)
termination_by c.remaining

theorem yields_binaryFrom (least : Nat) (inside : c.remaining ≤ limit.remaining)
    (placed : c.Placed cuts) :
    Yields cuts (Expression.From cuts c) (rules.binaryFrom least c inside) := by
  unfold binaryFrom
  refine (yields_operand give _ placed).andThen placed fun _ step placed lies => ?_
  exact yields_operators give step.opened lies _ placed

theorem yields_conditional (inside : c.remaining ≤ limit.remaining) (placed : c.Placed cuts) :
    Yields cuts (Expression.From cuts c) (rules.conditional c inside) := by
  unfold conditional
  refine (yields_binaryFrom give 1 _ placed).andThen placed
    fun {test c₁} _ step₁ placed₁ testLies => ?_
  refine placed₁.mark_cases (.ok testLies) (fun past _ step => ?_) .question
  have placed' := step.placed_end
  refine .lax (.go step ((give.assignment _ placed').andThen placed'
    fun {consequent c₂} _ step₂ placed₂ consequentLies => ?_))
  refine (yields_expectMark placed₂ _).andThen placed₂ fun {_ c₃} _ step₃ placed₃ _ => ?_
  refine (give.assignment _ placed₃).andThen placed₃
    fun {alternative c₄} _ step₄ placed₄ alternativeLies => .ok ?_
  refine Opened.lies_expressionFrom (by grind) placed₄ ⟨?_, ?_, ?_⟩
  · exact testLies.mono (Nat.le_refl _) (by grind)
  · exact consequentLies.mono (by grind) (by grind)
  · exact alternativeLies.mono (by grind) (Nat.le_refl _)

theorem yields_assignedValue {target : Expression} (opened : Opened cuts start c)
    (lies : target.Lies cuts start.start c.previousSpan.stop)
    (inside : c.remaining < limit.remaining) (placed : c.Placed cuts) :
    Yields cuts (fun value d => value.Lies cuts start.start d.previousSpan.stop)
      (rules.assignedValue start target c inside) := by
  unfold assignedValue
  refine (sound_optional placed _).bind placed fun {_ d} _ step₁ placed₁ _ => ?_
  refine placed₁.mark_cases ?_ (fun past _ step₂ => ?_) .eq
  · exact .ok (lies.mono (Nat.le_refl _) step₁.previousSpan_stop_le)
  · have placed₂ := step₂.placed_end
    refine .lax (.go step₂ ((give.assignment _ placed₂).andThen placed₂
      fun {value e} _ step₃ placed₃ valueLies => .ok ?_))
    have before := opened.start_le_span placed
    refine Opened.lies_expressionFrom (by grind) placed₃ ⟨?_, ?_⟩
    · exact lies.mono (Nat.le_refl _) (by grind)
    · exact valueLies.mono (by grind) (Nat.le_refl _)

theorem yields_assignmentFrom (inside : c.remaining ≤ limit.remaining) (placed : c.Placed cuts) :
    Yields cuts (Expression.From cuts c) (rules.assignmentFrom c inside) := by
  unfold assignmentFrom
  have arrow := yields_arrowFunction give (.inr rfl) inside placed
  have assigned : Yields cuts (Expression.From cuts c)
      ((rules.conditional c inside).andThen fun target d less =>
        rules.assignedValue c.span target d (Cursor.lt_of_lt_of_le less inside)) := by
    refine (yields_conditional give _ placed).andThen placed fun _ step placed lies => ?_
    exact yields_assignedValue give step.opened lies _ placed
  refine placed.name_cases ?_ (fun past _ beyond => ?_) "async"
  · exact .ite (fun _ => arrow) fun _ => assigned
  · refine .ite (fun _ => ?_) fun _ => .ite (fun _ => arrow) fun _ => assigned
    exact .go beyond (yields_arrowFunction give (.inl beyond.opened) _ beyond.placed_end)

theorem yields_sequence {c : Cursor} {left : Expression} (opened : Opened cuts start c)
    (lies : left.Lies cuts start.start c.previousSpan.stop)
    (inside : c.remaining < limit.remaining) (placed : c.Placed cuts) :
    Yields cuts (fun value d => value.Lies cuts start.start d.previousSpan.stop)
      (rules.sequence start left c inside) := by
  unfold sequence
  refine placed.mark_cases (.ok lies) (fun past _ step₁ => ?_) .comma
  have := past.less
  have placed₁ := step₁.placed_end
  have before := opened.start_le_span placed
  refine .lax (.go step₁ ((give.assignment _ placed₁).andThen placed₁
    fun {right d} _ step₂ placed₂ rightLies => ?_))
  have atEnd : Opened cuts start d := by grind
  refine yields_sequence atEnd ?_ _ placed₂
  refine atEnd.lies_expressionFrom placed₂ ⟨?_, ?_⟩
  · exact lies.mono (Nat.le_refl _) (by grind)
  · exact rightLies.mono (by grind) (Nat.le_refl _)
termination_by c.remaining

theorem yields_expressionWhole (inside : c.remaining ≤ limit.remaining) (placed : c.Placed cuts) :
    Yields cuts (Expression.From cuts c) (rules.expressionWhole c inside) := by
  unfold expressionWhole
  refine (yields_assignmentFrom give _ placed).andThen placed fun _ step placed lies => ?_
  exact yields_sequence give step.opened lies _ placed

/-! ## The knot -/

omit give in
/-- What the rules give stands where it should, at every cursor. -/
theorem give_all (limit : Cursor) : (Rules.all limit).Give cuts := by
  have inner (c : Cursor) (inside : c.remaining < limit.remaining) : (Rules.all c).Give cuts :=
    give_all c
  unfold Rules.all
  constructor
  · exact fun inside placed => yields_assignmentFrom (inner _ inside) (Nat.le_refl _) placed
  · exact fun inside placed => yields_expressionWhole (inner _ inside) (Nat.le_refl _) placed
  · exact fun least _ inside placed =>
      yields_binaryFrom (inner _ inside) least (Nat.le_refl _) placed
  · exact fun inside placed => yields_operand (inner _ inside) (Nat.le_refl _) placed
  · exact fun inside placed => yields_newExpression (inner _ inside) (Nat.le_refl _) placed
  · exact fun inside placed => yields_fullType (inner _ inside) (Nat.le_refl _) placed
  · exact fun inside placed => yields_operandType (inner _ inside) (Nat.le_refl _) placed
termination_by limit.remaining

end Rules

namespace Cursor

variable {c : Cursor}

theorem yields_assignment (placed : c.Placed cuts) :
    Yields cuts (Expression.From cuts c) c.assignment :=
  Rules.yields_assignmentFrom (Rules.give_all c) _ placed

theorem yields_expression (placed : c.Placed cuts) :
    Yields cuts (Expression.From cuts c) c.expression :=
  Rules.yields_expressionWhole (Rules.give_all c) _ placed

theorem yields_type (placed : c.Placed cuts) :
    Yields cuts (TypeExpression.From cuts c) c.type :=
  Rules.yields_fullType (Rules.give_all c) _ placed

end Cursor

end InjectionCheck
