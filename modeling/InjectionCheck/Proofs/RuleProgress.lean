import InjectionCheck.Grammar.Expressions
import InjectionCheck.Proofs.Progress

/-!
# Loops of types and expressions that end

The loops among the rules that call each other: lists of elements, the members of types and the
suffixes and operators of types and expressions. Each is given the recursive rules for fewer
tokens than some bound, and ends whatever these rules do (`EndsAs`).

The rules themselves recur only past a token: to unfold them more often than there are tokens
ahead gives them, whatever stands at the bottom (`Rules.all_ends`).
-/

set_option autoImplicit false

namespace InjectionCheck

/-- A cursor with fewer tokens ahead than a bound. -/
abbrev Cursor.Before (limit : Cursor) : Type := { c : Cursor // c.remaining < limit.remaining }

/-- A cursor with at most as many tokens ahead as a bound. -/
abbrev Cursor.Upto (limit : Cursor) : Type := { c : Cursor // c.remaining ≤ limit.remaining }

namespace Cursor

variable {c d e limit : Cursor}

theorem le_of_lt_of_le (less : e.remaining < d.remaining) (inside : d.remaining ≤ limit.remaining) :
    e.remaining ≤ limit.remaining :=
  le_of_lt (lt_of_lt_of_le less inside)

namespace Past

/-- Past two tokens there are fewer tokens ahead than a bound on those before them. -/
theorem second_lt (past : c.Past) (second : past.rest.Past)
    (inside : c.remaining < limit.remaining) : second.rest.remaining < limit.remaining :=
  second.lt_of_lt (past.lt_of_lt inside)

theorem after_second_lt (past : c.Past) (second : past.rest.Past)
    (less : d.remaining < second.rest.remaining) (inside : c.remaining < limit.remaining) :
    d.remaining < limit.remaining :=
  lt_trans less (past.second_lt second inside)

theorem after_both_lt (past : c.Past) (less : d.remaining < past.rest.remaining)
    (further : e.remaining < d.remaining) (inside : c.remaining < limit.remaining) :
    e.remaining < limit.remaining :=
  lt_trans further (past.after_lt less (le_of_lt inside))

end Past

end Cursor

/-- A loop before a bound ends by the number of tokens ahead. -/
abbrev LoopEndsBefore {State : Type} {result : Cursor → Type} {limit : Cursor}
    (pass : (State → (c : Cursor) → c.remaining < limit.remaining → result c) →
      State → (c : Cursor) → c.remaining < limit.remaining → result c)
    (loop : State → (c : Cursor) → c.remaining < limit.remaining → result c) : Prop :=
  @EndsAs (State × limit.Before) (fun i => result i.2.val) (fun i => i.2.val.remaining)
    (fun next i => pass (fun state c inside => next (state, ⟨c, inside⟩)) i.1 i.2.val i.2.property)
    (fun i => loop i.1 i.2.val i.2.property)

/-- A loop up to a bound ends by the number of tokens ahead. -/
abbrev LoopEndsUpto {State : Type} {result : Cursor → Type} {limit : Cursor}
    (pass : (State → (c : Cursor) → c.remaining ≤ limit.remaining → result c) →
      State → (c : Cursor) → c.remaining ≤ limit.remaining → result c)
    (loop : State → (c : Cursor) → c.remaining ≤ limit.remaining → result c) : Prop :=
  @EndsAs (State × limit.Upto) (fun i => result i.2.val) (fun i => i.2.val.remaining)
    (fun next i => pass (fun state c inside => next (state, ⟨c, inside⟩)) i.1 i.2.val i.2.property)
    (fun i => loop i.1 i.2.val i.2.property)

namespace Rules

variable {limit : Cursor} {α : Type}

/-! ## Lists -/

/-- One turn of `elements`. -/
def elementsPass (opening : Opening) (closing : Mark) (missing : ParseError → ParseError)
    (element : (c : Cursor) → c.remaining < limit.remaining → Outcome true c α)
    (next : List α → (c : Cursor) → c.remaining < limit.remaining → Outcome true c (List α))
    (earlier : List α) (c : Cursor) (inside : c.remaining < limit.remaining) :
    Outcome true c (List α) :=
  match c.mark? closing with
  | some past => past.go (.ok earlier.reverse)
  | none =>
    if c.atEnd then .fail (.unclosed opening closing c.span)
    else
      (element c inside).andThen fun value d less =>
        match d.mark? .comma with
        | some past =>
          past.go (next (value :: earlier) past.rest
            (past.lt_of_lt (Cursor.lt_trans less inside)))
        | none =>
          (d.expectMark closing).mapError missing |>.map fun _ => (value :: earlier).reverse

theorem elements_ends (opening : Opening) (closing : Mark) (missing : ParseError → ParseError)
    (element : (c : Cursor) → c.remaining < limit.remaining → Outcome true c α) :
    LoopEndsBefore (elementsPass opening closing missing element)
      (elements opening closing missing element) := by
  refine .of_advances (fun i => ?_) fun i next next' same => ?_
  · rw [elements.eq_def]
    rfl
  · obtain ⟨earlier, c, inside⟩ := i
    dsimp only [elementsPass]
    cases c.mark? closing with
    | some past => rfl
    | none =>
        refine ite_congr rfl (fun _ => rfl) fun _ => Outcome.andThen_congr fun value d less => ?_
        cases d.mark? .comma with
        | none => rfl
        | some past =>
            exact congrArg past.go
              (same (_, ⟨past.rest, _⟩) (Nat.lt_trans past.less less))

/-! ## Decorators -/

/-- One turn of `lastPart`. -/
def lastPartPass (next : String → (c : Cursor) → Outcome false c String) (name : String)
    (c : Cursor) : Outcome false c String :=
  match c.mark? .dot with
  | some past => (past.go (past.rest.properName.andThen fun part d _ => next part.name d)).lax
  | none => .ok name

theorem lastPart_ends : LoopEnds lastPartPass lastPart := by
  refine .of_advances (fun i => ?_) fun i next next' same => ?_
  · rw [lastPart.eq_def]
    rfl
  · obtain ⟨name, c⟩ := i
    dsimp only [lastPartPass]
    cases c.mark? .dot with
    | none => rfl
    | some past =>
        exact congrArg Outcome.lax (past.go_andThen_congr fun _ d _ => same (_, d))

/-- One turn of `decorators`. -/
def decoratorsPass (rules : Rules limit)
    (next : List Decorator → (c : Cursor) → c.remaining ≤ limit.remaining →
      Outcome false c (List Decorator))
    (earlier : List Decorator) (c : Cursor) (inside : c.remaining ≤ limit.remaining) :
    Outcome false c (List Decorator) :=
  match c.mark? .at with
  | some past =>
    have atMost := past.le_of_le inside
    (past.go ((rules.decoratorAfter past.token.span past.rest atMost).andThen
      fun decorator d less =>
        next (decorator :: earlier) d (Cursor.le_trans (Cursor.le_of_lt less) atMost))).lax
  | none => .ok earlier.reverse

theorem decorators_ends (rules : Rules limit) :
    LoopEndsUpto (decoratorsPass rules) (decorators rules) := by
  refine .of_advances (fun i => ?_) fun i next next' same => ?_
  · rw [decorators.eq_def]
    rfl
  · obtain ⟨earlier, c, inside⟩ := i
    dsimp only [decoratorsPass]
    cases c.mark? .at with
    | none => rfl
    | some past =>
        exact congrArg Outcome.lax (past.go_andThen_congr fun _ d _ => same (_, ⟨d, _⟩))

end Rules

namespace Cursor

/-- One turn of `modifiers`. -/
def modifiersPass (next : Modifiers → (c : Cursor) → Outcome false c Modifiers)
    (earlier : Modifiers) (c : Cursor) : Outcome false c Modifiers :=
  match c.next? with
  | some past =>
    match past.token.kind with
    | .name word =>
      if c.modifies then
        match earlier.add? word with
        | some later => (past.go (next later past.rest)).lax
        | none => .ok earlier
      else .ok earlier
    | _ => .ok earlier
  | none => .ok earlier

theorem modifiers_ends : LoopEnds modifiersPass modifiers := by
  refine .of_advances (fun i => ?_) fun i next next' same => ?_
  · rw [modifiers.eq_def]
    rfl
  · obtain ⟨earlier, c⟩ := i
    dsimp only [modifiersPass]
    cases c.next? with
    | none => rfl
    | some past => simp only [same (_, past.rest) past.less]

/-! ## Types -/

/-- One turn of `skipQualifiedTail`. -/
def skipQualifiedTailPass (next : (c : Cursor) → Outcome false c Unit) (c : Cursor) :
    Outcome false c Unit :=
  match c.mark? .dot with
  | some past => (past.go (past.rest.propertyName.andThen fun _ d _ => next d)).lax
  | none => c.skipAnglesIfAny

theorem skipQualifiedTail_ends : EndsAs remaining skipQualifiedTailPass skipQualifiedTail := by
  refine .of_advances (fun c => ?_) fun c next next' same => ?_
  · rw [skipQualifiedTail.eq_def]
    rfl
  · unfold skipQualifiedTailPass
    cases c.mark? .dot with
    | none => rfl
    | some past =>
        exact congrArg Outcome.lax (past.go_andThen_congr fun _ d _ => same d)

end Cursor

namespace Rules

variable {limit : Cursor}

/-- One turn of `skipSeparators`. -/
def skipSeparatorsPass (next : (c : Cursor) → Outcome false c Unit) (c : Cursor) :
    Outcome false c Unit :=
  match c.nextIf? fun kind => kind = .mark .semicolon || kind = .mark .comma with
  | some past => (past.go (next past.rest)).lax
  | none => .ok ()

theorem skipSeparators_ends : EndsAs Cursor.remaining skipSeparatorsPass skipSeparators := by
  refine .of_advances (fun c => ?_) fun c next next' same => ?_
  · rw [skipSeparators.eq_def]
    rfl
  · unfold skipSeparatorsPass
    cases c.nextIf? fun kind => kind = .mark .semicolon || kind = .mark .comma with
    | none => rfl
    | some past => simp only [same past.rest past.less]

/-- One turn of `typeMembersAfter`. -/
def typeMembersPass (rules : Rules limit) (opening : Opening)
    (next : List TypeMember → (c : Cursor) → c.remaining ≤ limit.remaining →
      Outcome true c (List TypeMember))
    (earlier : List TypeMember) (c : Cursor) (inside : c.remaining ≤ limit.remaining) :
    Outcome true c (List TypeMember) :=
  (skipSeparators c).bind fun _ d atMost =>
    have inside := Cursor.le_trans atMost inside
    match d.mark? .rbrace with
    | some past => past.go (.ok earlier.reverse)
    | none =>
      if d.atEnd then .fail (.unclosed opening .rbrace d.span)
      else
        (rules.typeMember d inside).andThen fun member e less =>
          (next (member.toList ++ earlier) e (Cursor.le_of_lt_of_le less inside)).lax

theorem typeMembersAfter_ends (rules : Rules limit) (opening : Opening) :
    LoopEndsUpto (typeMembersPass rules opening) (typeMembersAfter rules opening) := by
  refine .of_advances (fun i => ?_) fun i next next' same => ?_
  · rw [typeMembersAfter.eq_def]
    rfl
  · obtain ⟨earlier, c, inside⟩ := i
    dsimp only [typeMembersPass]
    refine Outcome.bind_congr fun _ d atMost => ?_
    cases d.mark? .rbrace with
    | some past => rfl
    | none =>
        refine ite_congr rfl (fun _ => rfl) fun _ => Outcome.andThen_congr fun member e less => ?_
        exact congrArg Outcome.lax (same (_, ⟨e, _⟩) (Nat.lt_of_lt_of_le less atMost))

/-- One turn of `typeSuffixes`. -/
def typeSuffixesPass (rules : Rules limit) (start : Span)
    (next : TypeExpression → (c : Cursor) → c.remaining < limit.remaining →
      Outcome false c TypeExpression)
    (type : TypeExpression) (c : Cursor) (inside : c.remaining < limit.remaining) :
    Outcome false c TypeExpression :=
  match c.mark? .lbracket with
  | none => .ok type
  | some past =>
    match past.rest.mark? .rbracket with
    | some closed =>
      (past.go (closed.go (next (closed.rest.typeFrom start (.array type)) closed.rest
        (past.second_lt closed inside)))).lax
    | none =>
      (past.go ((rules.type past.rest (past.lt_of_lt inside)).andThen fun _ d less =>
        (d.expectMark .rbracket).andThen fun _ e further =>
          next (e.typeFrom start .unmodelled) e (past.after_both_lt less further inside))).lax

theorem typeSuffixes_ends (rules : Rules limit) (start : Span) :
    LoopEndsBefore (typeSuffixesPass rules start) (typeSuffixes rules start) := by
  refine .of_advances (fun i => ?_) fun i next next' same => ?_
  · rw [typeSuffixes.eq_def]
    rfl
  · obtain ⟨type, c, inside⟩ := i
    dsimp only [typeSuffixesPass]
    cases c.mark? .lbracket with
    | none => rfl
    | some past =>
        dsimp only
        cases past.rest.mark? .rbracket with
        | some closed =>
            exact congrArg (fun outcome => (past.go (closed.go outcome)).lax)
              (same (_, ⟨closed.rest, _⟩) (Nat.lt_trans closed.less past.less))
        | none =>
            refine congrArg (fun outcome => (past.go outcome).lax) (Outcome.andThen_congr
              fun _ d less => Outcome.andThen_congr fun _ e further => ?_)
            exact same (_, ⟨e, _⟩) (Nat.lt_trans further (Nat.lt_trans less past.less))

/-- One turn of `furtherMembers`. -/
def furtherMembersPass (sign : Mark)
    (member : (c : Cursor) → c.remaining ≤ limit.remaining → Outcome true c TypeExpression)
    (next : List TypeExpression → (c : Cursor) → c.remaining ≤ limit.remaining →
      Outcome false c (List TypeExpression))
    (earlier : List TypeExpression) (c : Cursor) (inside : c.remaining ≤ limit.remaining) :
    Outcome false c (List TypeExpression) :=
  match c.mark? sign with
  | some past =>
    (past.go ((member past.rest (past.le_of_le inside)).andThen fun type d less =>
      next (type :: earlier) d (Cursor.le_of_lt (past.after_lt less inside)))).lax
  | none => .ok earlier.reverse

theorem furtherMembers_ends (sign : Mark)
    (member : (c : Cursor) → c.remaining ≤ limit.remaining → Outcome true c TypeExpression) :
    LoopEndsUpto (furtherMembersPass sign member) (furtherMembers sign member) := by
  refine .of_advances (fun i => ?_) fun i next next' same => ?_
  · rw [furtherMembers.eq_def]
    rfl
  · obtain ⟨earlier, c, inside⟩ := i
    dsimp only [furtherMembersPass]
    cases c.mark? sign with
    | none => rfl
    | some past =>
        exact congrArg Outcome.lax (past.go_andThen_congr fun _ d _ => same (_, ⟨d, _⟩))

end Rules

/-! ## Expressions -/

namespace Cursor

/-- One turn of `skipHeritage`. -/
def skipHeritagePass (next : (c : Cursor) → Outcome false c Unit) (c : Cursor) :
    Outcome false c Unit :=
  match c.next? with
  | none => .fail (c.expected .classBody)
  | some past =>
    match past.token.kind with
    | .mark .lbrace => .ok ()
    | .mark .lt => (c.skipAngles.andThen fun _ d _ => next d).lax
    | .mark .lparen => (c.skipGroup.andThen fun _ d _ => next d).lax
    | _ => (past.go (next past.rest)).lax

theorem skipHeritage_ends : EndsAs remaining skipHeritagePass skipHeritage := by
  refine .of_advances (fun c => ?_) fun c next next' same => ?_
  · rw [skipHeritage.eq_def]
    rfl
  · have angles : (c.skipAngles.andThen fun _ d _ => next d) =
        c.skipAngles.andThen fun _ d _ => next' d := Outcome.andThen_congr fun _ d => same d
    have group : (c.skipGroup.andThen fun _ d _ => next d) =
        c.skipGroup.andThen fun _ d _ => next' d := Outcome.andThen_congr fun _ d => same d
    unfold skipHeritagePass
    cases c.next? with
    | none => rfl
    | some past => simp only [same past.rest past.less, angles, group]

end Cursor

namespace Rules

variable {limit : Cursor}

/-- One turn of `arrayElements`. -/
def arrayElementsPass (rules : Rules limit) (opening : Opening)
    (next : List Expression → (c : Cursor) → c.remaining < limit.remaining →
      Outcome true c (List Expression))
    (earlier : List Expression) (c : Cursor) (inside : c.remaining < limit.remaining) :
    Outcome true c (List Expression) :=
  match c.mark? .rbracket with
  | some past => past.go (.ok earlier.reverse)
  | none =>
    if c.atEnd then .fail (.unclosed opening .rbracket c.span)
    else
      match c.mark? .comma with
      | some past => past.go (next earlier past.rest (past.lt_of_lt inside))
      | none =>
        (rules.spreadable c inside).andThen fun element d less =>
          match d.mark? .rbracket with
          | some past => (past.go (.ok (element :: earlier).reverse)).lax
          | none =>
            ((d.expectMark .comma).andThen fun _ e further =>
              next (element :: earlier) e
                (Cursor.lt_trans further (Cursor.lt_trans less inside))).lax

theorem arrayElements_ends (rules : Rules limit) (opening : Opening) :
    LoopEndsBefore (arrayElementsPass rules opening) (arrayElements rules opening) := by
  refine .of_advances (fun i => ?_) fun i next next' same => ?_
  · rw [arrayElements.eq_def]
    rfl
  · obtain ⟨earlier, c, inside⟩ := i
    dsimp only [arrayElementsPass]
    cases c.mark? .rbracket with
    | some past => rfl
    | none =>
        refine ite_congr rfl (fun _ => rfl) fun _ => ?_
        cases c.mark? .comma with
        | some past => exact congrArg past.go (same (_, ⟨past.rest, _⟩) past.less)
        | none =>
            refine Outcome.andThen_congr fun element d less => ?_
            cases d.mark? .rbracket with
            | some past => rfl
            | none =>
                exact congrArg Outcome.lax (Outcome.andThen_congr fun _ e further =>
                  same (_, ⟨e, _⟩) (Nat.lt_trans further less))

/-- One turn of `constructedClass`. -/
def constructedClassPass (rules : Rules limit) (start : Span)
    (next : Expression → (c : Cursor) → c.remaining < limit.remaining → Outcome false c Expression)
    (callee : Expression) (c : Cursor) (inside : c.remaining < limit.remaining) :
    Outcome false c Expression :=
  have atMost := Cursor.le_of_lt inside
  match c.mark? .dot with
  | some past =>
    (past.go (past.rest.propertyName.andThen fun property d less =>
      next (d.expressionFrom start (.member callee (property.name.getD ""))) d
        (past.after_lt less atMost))).lax
  | none =>
    match c.mark? .lbracket with
    | some past =>
      (past.go ((rules.indexElement past.rest (past.lt_of_lt inside)).andThen
        fun index d less =>
          next (d.expressionFrom start (.index callee index)) d (past.after_lt less atMost))).lax
    | none => .ok callee

theorem constructedClass_ends (rules : Rules limit) (start : Span) :
    LoopEndsBefore (constructedClassPass rules start) (constructedClass rules start) := by
  refine .of_advances (fun i => ?_) fun i next next' same => ?_
  · rw [constructedClass.eq_def]
    rfl
  · obtain ⟨callee, c, inside⟩ := i
    dsimp only [constructedClassPass]
    cases c.mark? .dot with
    | some past =>
        exact congrArg Outcome.lax (past.go_andThen_congr fun _ d _ => same (_, ⟨d, _⟩))
    | none =>
        cases c.mark? .lbracket with
        | some past =>
            exact congrArg Outcome.lax (past.go_andThen_congr fun _ d _ => same (_, ⟨d, _⟩))
        | none => rfl

/-- One turn of `suffixes`. -/
def suffixesPass (rules : Rules limit) (start : Span)
    (next : Expression → (c : Cursor) → c.remaining < limit.remaining → Outcome false c Expression)
    (operand : Expression) (c : Cursor) (inside : c.remaining < limit.remaining) :
    Outcome false c Expression :=
  match c.next? with
  | none => .ok operand
  | some past =>
    have atMost := Cursor.le_of_lt inside
    have behind := past.lt_of_lt inside
    match past.token.kind with
    | .mark .dot =>
      (past.go (past.rest.propertyName.andThen fun property d less =>
        next (d.expressionFrom start (.member operand (property.name.getD ""))) d
          (past.after_lt less atMost))).lax
    | .mark .questionDot =>
      if past.rest.seesMark .lparen then
        (past.go ((rules.arguments past.rest (past.le_of_le atMost)).andThen
          fun arguments d less =>
            next (d.expressionFrom start (.call operand [] arguments)) d
              (past.after_lt less atMost))).lax
      else
        match past.rest.mark? .lbracket with
        | some opened =>
          (past.go (opened.go ((rules.indexElement opened.rest
            (past.second_lt opened inside)).andThen fun index d less =>
              next (d.expressionFrom start (.index operand index)) d
                (past.after_second_lt opened less inside)))).lax
        | none =>
          (past.go (past.rest.propertyName.andThen fun property d less =>
            next (d.expressionFrom start (.member operand (property.name.getD ""))) d
              (past.after_lt less atMost))).lax
    | .mark .lbracket =>
      (past.go ((rules.indexElement past.rest behind).andThen fun index d less =>
        next (d.expressionFrom start (.index operand index)) d (past.after_lt less atMost))).lax
    | .mark .lparen =>
      ((rules.arguments c atMost).andThen fun arguments d less =>
        next (d.expressionFrom start (.call operand [] arguments)) d
          (Cursor.lt_trans less inside)).lax
    | .mark .lt =>
      (rules.typeArguments c atMost).tried
        (fun typeArguments d reaches fewer =>
          have outer := Cursor.le_trans fewer atMost
          if d.seesMark .lparen then
            (((rules.arguments d outer).andThen fun arguments e less =>
              next (e.expressionFrom start (.call operand typeArguments arguments)) e
                (Cursor.lt_of_lt_of_le less outer)).following reaches).lax
          else .ok operand)
        (.ok operand)
    | .mark .bang => (past.go (next operand past.rest behind)).lax
    | .template =>
      (past.go (next (past.rest.expressionFrom start .template) past.rest behind)).lax
    | _ => .ok operand

theorem suffixes_ends (rules : Rules limit) (start : Span) :
    LoopEndsBefore (suffixesPass rules start) (suffixes rules start) := by
  refine .of_advances (fun i => ?_) fun i next next' same => ?_
  · rw [suffixes.eq_def]
    rfl
  · obtain ⟨operand, c, inside⟩ := i
    have behind (value : Expression) (d : Cursor) (fewer : d.remaining < limit.remaining)
        (less : d.remaining < c.remaining) : next (value, ⟨d, fewer⟩) = next' (value, ⟨d, fewer⟩) :=
      same (_, ⟨d, _⟩) less
    dsimp only [suffixesPass]
    cases c.next? with
    | none => rfl
    | some past =>
        dsimp only
        split
        · exact congrArg Outcome.lax (past.go_andThen_congr fun _ d _ => behind _ d _)
        · refine ite_congr rfl (fun _ => ?_) fun _ => ?_
          · exact congrArg Outcome.lax (past.go_andThen_congr fun _ d _ => behind _ d _)
          · cases past.rest.mark? .lbracket with
            | some opened =>
                exact congrArg (fun outcome => (past.go outcome).lax) (opened.go_andThen_congr
                  fun _ d _ less => behind _ d _ (Nat.lt_trans less past.less))
            | none =>
                exact congrArg Outcome.lax (past.go_andThen_congr fun _ d _ => behind _ d _)
        · exact congrArg Outcome.lax (past.go_andThen_congr fun _ d _ => behind _ d _)
        · exact congrArg Outcome.lax (Outcome.andThen_congr fun _ d less => behind _ d _ less)
        · refine Outcome.tried_congr fun typeArguments d reaches fewer => ?_
          refine ite_congr rfl (fun _ => ?_) fun _ => rfl
          exact congrArg (fun outcome => (outcome.following reaches).lax) (Outcome.andThen_congr
            fun _ e less => behind _ e _ (Nat.lt_of_lt_of_le less fewer))
        · rw [behind _ past.rest _ past.less]
        · rw [behind _ past.rest _ past.less]
        · rfl

/-- One turn of `operators`. -/
def operatorsPass (rules : Rules limit) (least : Nat) (start : Span)
    (next : Expression → (c : Cursor) → c.remaining < limit.remaining → Outcome false c Expression)
    (left : Expression) (c : Cursor) (inside : c.remaining < limit.remaining) :
    Outcome false c Expression :=
  match c.next? with
  | none => .ok left
  | some past =>
    have atMost := Cursor.le_of_lt inside
    if past.token.kind = .name "as" ∨ past.token.kind = .name "satisfies" then
      (past.go ((rules.skipAssertedType past.rest (past.lt_of_lt inside)).andThen fun _ d less =>
        next left d (past.after_lt less atMost))).lax
    else
      match c.operatorPrecedence? with
      | none => .ok left
      | some precedence =>
        if precedence < least ∨ c.seesCompoundAssignment then .ok left
        else
          (past.go ((if past.token.kind = .mark .star then past.rest.optionalMark .star
            else .ok false).bind fun _ d fewer =>
              have behind := past.after_lt_of_le fewer atMost
              ((rules.binary (precedence + 1) d behind).andThen fun right e less =>
                next (e.expressionFrom start (.binary left right)) e
                  (Cursor.lt_trans less behind)).lax)).lax

theorem operators_ends (rules : Rules limit) (least : Nat) (start : Span) :
    LoopEndsBefore (operatorsPass rules least start) (operators rules least start) := by
  refine .of_advances (fun i => ?_) fun i next next' same => ?_
  · rw [operators.eq_def]
    rfl
  · obtain ⟨left, c, inside⟩ := i
    dsimp only [operatorsPass]
    cases c.next? with
    | none => rfl
    | some past =>
        refine ite_congr rfl (fun _ => ?_) fun _ => ?_
        · exact congrArg Outcome.lax (past.go_andThen_congr fun _ d _ => same (_, ⟨d, _⟩))
        · cases c.operatorPrecedence? with
          | none => rfl
          | some precedence =>
              refine ite_congr rfl (fun _ => rfl) fun _ => ?_
              refine congrArg (fun outcome => (past.go outcome).lax) (Outcome.bind_congr
                fun _ d fewer => congrArg Outcome.lax (Outcome.andThen_congr fun _ e less => ?_))
              exact same (_, ⟨e, _⟩) (Nat.lt_trans less (Nat.lt_of_le_of_lt fewer past.less))

/-- One turn of `sequence`. -/
def sequencePass (rules : Rules limit) (start : Span)
    (next : Expression → (c : Cursor) → c.remaining < limit.remaining → Outcome false c Expression)
    (left : Expression) (c : Cursor) (inside : c.remaining < limit.remaining) :
    Outcome false c Expression :=
  match c.mark? .comma with
  | none => .ok left
  | some past =>
    (past.go ((rules.assignment past.rest (past.lt_of_lt inside)).andThen fun right d less =>
      next (d.expressionFrom start (.binary left right)) d
        (past.after_lt less (Cursor.le_of_lt inside)))).lax

theorem sequence_ends (rules : Rules limit) (start : Span) :
    LoopEndsBefore (sequencePass rules start) (sequence rules start) := by
  refine .of_advances (fun i => ?_) fun i next next' same => ?_
  · rw [sequence.eq_def]
    rfl
  · obtain ⟨left, c, inside⟩ := i
    dsimp only [sequencePass]
    cases c.mark? .comma with
    | none => rfl
    | some past => exact congrArg Outcome.lax (past.go_andThen_congr fun _ d _ => same (_, ⟨d, _⟩))

/-! ## The recursive rules -/

/-- The recursive rules unfolded once: each starts at its cursor and is given the rules for the
cursors with fewer tokens ahead than that. -/
def unfolded (next : (limit : Cursor) → Rules limit) (limit : Cursor) : Rules limit where
  assignment c _ := (next c).assignmentFrom c c.le_self
  expression c _ := (next c).expressionWhole c c.le_self
  binary least c _ := (next c).binaryFrom least c c.le_self
  unary c _ := (next c).operand c c.le_self
  construction c _ := (next c).newExpression c c.le_self
  type c _ := (next c).fullType c c.le_self
  typeOperand c _ := (next c).operandType c c.le_self

/-- A rule that is entered again has passed a token since. -/
theorem all_ends : EndsAs Cursor.remaining unfolded all := by
  refine .of_advances (fun c => ?_) fun c next next' same => ?_
  · rw [all]
    rfl
  · simp only [unfolded, mk.injEq]
    refine ⟨?_, ?_, ?_, ?_, ?_, ?_, ?_⟩ <;> funext <;> rw [same _ ‹_›]

end Rules

end InjectionCheck
