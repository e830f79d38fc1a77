import InjectionCheck.Proofs.AppendedTypes
import InjectionCheck.Proofs.Successes

/-!
# Expressions with further tokens behind them

The rules for expressions run with the further tokens of an appendix as they run without them. So
do the recursive rules, by induction on the tokens ahead (`Rules.extend_all`).

Type arguments behind an operand are only tried. With the further tokens such an attempt may go on
where it fails without them. Then it ends behind a closing angle bracket among the further tokens,
where no arguments of a call follow, and so it is given up.
-/

set_option autoImplicit false

namespace InjectionCheck

open Appendix Cursor Lookahead Outcome

variable {a : Appendix} {c : Cursor}

/-! ## Operators ahead -/

theorem seesCompoundAssignment_extend (a : Appendix) (c : Cursor) :
    (a.extend c).seesCompoundAssignment = c.seesCompoundAssignment := by
  obtain ⟨behind, tokens, stop⟩ := c
  match tokens with
  | [] =>
      simp [seesCompoundAssignment, Cursor.kind?, Cursor.peek?, Appendix.extend, Appendix.tail,
        a.closes, Kind.precedence?, Mark.precedence?]
  | [_] => simp [seesCompoundAssignment, Cursor.peek?, Appendix.extend, Appendix.tail, a.closes]
  | _ :: _ :: _ => rfl

theorem operatorPrecedence?_extend (a : Appendix) (c : Cursor) :
    (a.extend c).operatorPrecedence? = c.operatorPrecedence? := by
  obtain ⟨behind, tokens, stop⟩ := c
  cases tokens with
  | nil =>
      simp [operatorPrecedence?, Cursor.kind?, Appendix.extend, Appendix.tail, a.closes,
        Kind.precedence?, Mark.precedence?]
  | cons token rest => rfl

theorem seesPrefixOperator_extend (next : c.ahead ≠ []) :
    Rules.seesPrefixOperator (a.extend c) = Rules.seesPrefixOperator c := by
  have behind : ((a.extend c).peek? 1).any (fun kind => !kind.endsOperand) =
      (c.peek? 1).any fun kind => !kind.endsOperand := a.any_peek?_extend next rfl
  have same : (a.extend c).kind? = c.kind? := by
    obtain ⟨_, tokens, _⟩ := c
    cases tokens with
    | nil => exact absurd rfl next
    | cons token rest => rfl
  rw [Rules.seesPrefixOperator, Rules.seesPrefixOperator, same, behind]

/-! ## Type arguments that are tried -/

/-- The last token passed is a mark. -/
def Cursor.IsBehind (c : Cursor) (mark : Mark) : Prop :=
  ∃ token passed, c.behind = token :: passed ∧ token.kind = .mark mark

theorem Cursor.isBehind_of_next? {past : c.Past} {mark : Mark} (isNext : c.next? = some past)
    (isMark : past.token.kind = .mark mark) : past.rest.IsBehind mark := by
  obtain ⟨behind, tokens, stop⟩ := c
  cases tokens with
  | nil => cases isNext
  | cons token rest =>
      cases isNext
      exact ⟨token, behind, rfl, isMark⟩

/-- Elements end behind their closing mark. -/
theorem Rules.isBehind_elements {α : Type} {limit : Cursor} (opening : Opening) (closing : Mark)
    (missing : ParseError → ParseError)
    (element : (c : Cursor) → c.remaining < limit.remaining → Outcome true c α)
    (earlier : List α) {c : Cursor} (inside) :
    (elements opening closing missing element earlier c inside).Ensures fun _ d =>
      d.IsBehind closing := by
  unfold elements
  split
  · next past found =>
      obtain ⟨isNext, isMark⟩ := next?_of_nextIf? found
      exact .go (.ok (isBehind_of_next? isNext (of_decide_eq_true isMark)))
  · refine .ite (fun _ => .fail) fun _ => ?_
    refine (Ensures.always _).andThen fun value d less _ => ?_
    split
    · next past found =>
        have := past.less
        exact .go (isBehind_elements opening closing missing element _ _)
    · refine .map (.mapError .expectMark) fun _ e passed => ?_
      obtain ⟨past, isNext, isMark, rfl⟩ := passed
      exact isBehind_of_next? isNext isMark
termination_by c.remaining

theorem Rules.isBehind_typeArguments {limit : Cursor} (rules : Rules limit) (inside) :
    (rules.typeArguments c inside).Ensures fun _ d => d.IsBehind .gt :=
  .andThen .expectMark fun _ _ _ _ => isBehind_elements _ _ _ _ _ _

/-- What passes some of the further tokens and ends behind a closing angle bracket ends in front of
no arguments. -/
theorem Appendix.seesMark_of_entered {d : Cursor} (within : a.Within c)
    (opens : (a.extend c).seesMark .lt = true) (reaches : (a.extend c).Reaches d)
    (entered : a.Entered d) (behind : d.IsBehind .gt) : d.seesMark .lparen = false := by
  obtain ⟨passed, ahead, isBehind, -⟩ := reaches
  obtain ⟨token, earlier, isLast, closes⟩ := behind
  have less : d.ahead.length < a.tail.length := entered
  obtain ⟨more, rfl, isTail⟩ | ⟨left, -, isLeft⟩ := List.append_eq_append_iff.1 ahead
  case inr =>
    rw [isLeft, List.length_append] at less
    omega
  have ends : token :: d.ahead <:+ a.tail := by
    obtain rfl | ⟨init, last, rfl⟩ := more.eq_nil_or_concat
    · rw [isTail, List.nil_append] at less
      omega
    · simp only [isLast, List.concat_eq_append, List.reverse_append, List.reverse_cons,
        List.reverse_nil, List.nil_append, List.cons_append, List.cons.injEq] at isBehind
      exact ⟨init, by rw [isTail, isBehind.1]; simp⟩
  have ends : token :: d.ahead <:+ a.others := by
    obtain same | ends := List.suffix_cons_iff.1 ends
    · rw [(List.cons.inj same).1, a.closes] at closes
      cases closes
    · exact ends
  obtain noOpening | closesNone := a.settled
  · rw [a.seesMark_extend c (by decide), seesMark, Cursor.kind?] at opens
    obtain ⟨token, isFirst, isOpening⟩ := Option.map_eq_some_iff.1 (of_decide_eq_true opens)
    exact absurd isOpening (noOpening _ (within.subset (List.mem_of_head? isFirst)))
  · have other := (closesNone.of_suffix ends closes).1
    rw [kindAt?, ← List.head?_eq_getElem?] at other
    exact decide_eq_false other

/-! ## Functions -/

namespace Cursor

theorem extends_skipHeritage {c : Cursor} (within : a.Within c) :
    c.skipHeritage.Extends a (a.extend c).skipHeritage := by
  have within' := within
  unfold skipHeritage
  refine within.next_cases (fun past _ isClosing entered => ?_) fun past within _ => ?_
  · dsimp only
    rw [isClosing]
    exact .passed entered
  have := past.less
  dsimp only
  split
  · exact .ok within'
  · exact .lax (.andThen (extends_skipAngles within') fun _ _ _ _ within =>
      extends_skipHeritage within)
  · exact .lax (.andThen (extends_skipGroup within') fun _ _ _ _ within =>
      extends_skipHeritage within)
  · exact .lax (.go (extends_skipHeritage within))
termination_by c.remaining

theorem extends_skipClassTail (within : a.Within c) :
    c.skipClassTail.Extends a (a.extend c).skipClassTail :=
  .bind (extends_skipHeritage within) fun _ _ _ _ within => .map (extends_skipGroup within)

end Cursor

namespace Rules

variable {limit limit' : Cursor} {rules : Rules limit} {rules' : Rules limit'}

section Functions

variable (extends_ : rules.Extend a rules')

include extends_

theorem extends_skipCallableTail (inside inside') (within : a.Within c) :
    (rules.skipCallableTail c inside).Extends a
      (rules'.skipCallableTail (a.extend c) inside') := by
  refine .bind (extends_skipAnglesIfAny within) fun _ c₁ _ _ within => ?_
  refine .andThen (extends_parameters extends_ _ _ within) fun _ c₂ _ _ within => ?_
  refine .bind (extends_resultAscription extends_ _ _ within) fun _ c₃ _ _ within => ?_
  rw [a.seesMark_extend c₃ (by decide)]
  exact .ite Iff.rfl (fun _ => .lax (.map (extends_skipGroup within))) fun _ =>
    extends_optionalSemicolon within

theorem extends_skipFunction (inside inside') (within : a.Within c) :
    (rules.skipFunction c inside).Extends a (rules'.skipFunction (a.extend c) inside') :=
  .andThen (extends_expectKeyword within _) fun _ _ _ _ within =>
    .bind (extends_optionalMark within (by decide)) fun _ _ _ _ within =>
      .bind (extends_optional within (.inr rfl)) fun _ _ _ _ within =>
        .lax (extends_skipCallableTail extends_ _ _ within)

theorem extends_skipArrowHead (inside inside') (within : a.Within c) :
    (rules.skipArrowHead c inside).Extends a (rules'.skipArrowHead (a.extend c) inside') := by
  refine .bind (extends_skipAnglesIfAny within) fun _ d _ _ within => ?_
  rw [a.seesMark_extend d (by decide)]
  refine .ite Iff.rfl (fun _ => ?_) fun _ => .map (extends_expectName within)
  exact .andThen (extends_skipGroup within) fun _ _ _ _ within =>
    .map (extends_resultAscription extends_ _ _ within)

theorem extends_arrowFunction (start : Span) (inside inside') (within : a.Within c) :
    (rules.arrowFunction start c inside).Extends a
      (rules'.arrowFunction start (a.extend c) inside') := by
  refine .andThen (extends_skipArrowHead extends_ _ _ within) fun _ d _ _ within => ?_
  refine .andThen (extends_expectMark within _) fun _ e _ _ within => ?_
  rw [a.seesMark_extend e (by decide)]
  refine .ite Iff.rfl (fun _ => ?_) fun _ => ?_
  · exact .andThen (extends_skipGroup within) fun _ _ _ _ within => .ok within
  · exact .andThen (extends_.assignment _ _ within) fun _ _ _ _ within => .ok within

end Functions

/-! ## Literals -/

section Literals

variable (extends_ : rules.Extend a rules')

include extends_

theorem extends_propertyValue (start : Span) (key : PropertyKey) (keySpan : Span)
    (isMethod : Bool) (inside inside') (within : a.Within c) :
    (rules.propertyValue start key keySpan isMethod c inside).Extends a
      (rules'.propertyValue start key keySpan isMethod (a.extend c) inside') := by
  unfold propertyValue
  rw [startsSignature_extend c]
  refine .ite Iff.rfl (fun _ => ?_) fun _ => ?_
  · exact .bind (.lax (extends_skipCallableTail extends_ _ _ within))
      fun _ _ _ _ within => .ok within
  refine within.mark_cases ?_ (fun past within => ?_) .colon (by decide)
  · dsimp only
    split
    · exact .bind (extends_initial extends_ _ _ within) fun _ _ _ _ within => .ok within
    · exact .fail
    · exact .fail
  · exact .lax (.go (.andThen (extends_.assignment _ _ within) fun _ _ _ _ within => .ok within))

omit extends_ in
theorem extends_skipMethodWord (within : a.Within c) :
    (skipMethodWord c).Extends a (skipMethodWord (a.extend c)) :=
  extends_optional_if within (by simp) fun next => by
    rw [namesProperty, namesProperty, a.any_peek?_extend next rfl, Bool.or_eq_true,
      Bool.or_eq_true, decide_eq_true_iff, decide_eq_true_iff, a.peek?_extend_iff next (by simp)]

theorem extends_propertyKey (inside inside') (within : a.Within c) :
    (rules.propertyKey c inside).Extends a (rules'.propertyKey (a.extend c) inside') := by
  unfold propertyKey
  refine within.mark_cases (.map (extends_propertyName within)) (fun past within => ?_) .lbracket
    (by decide)
  exact .go (.andThen (extends_.assignment _ _ within) fun _ _ _ _ within =>
    .andThen (extends_expectMark within _) fun _ _ _ _ within => .ok within)

theorem extends_property : a.Extend rules.property rules'.property := by
  intro c inside inside' within
  refine .of_next fun next => ?_
  unfold property
  refine within.mark_cases ?_ (fun past within => ?_) .ellipsis (by decide)
  · refine .bind (extends_skipMethodWord within) fun isAccessor c₁ _ _ within => ?_
    refine .bind (extends_optionalMark within (by decide)) fun isGenerator c₂ _ _ within => ?_
    refine .andThen (extends_propertyKey extends_ _ _ within) fun key c₃ _ _ within => ?_
    rw [a.span_extend next]
    exact extends_propertyValue extends_ _ _ _ _ _ _ within
  · exact .go (.andThen (extends_.assignment _ _ within) fun _ _ _ _ within => .ok within)

theorem extends_object (inside inside') (within : a.Within c) :
    (rules.object c inside).Extends a (rules'.object (a.extend c) inside') :=
  .andThen (extends_expectMark within _) fun _ _ _ _ within =>
    .andThen (extends_elements _ _ _ (extends_property extends_) _ _ _ within)
      fun _ _ _ _ within => .ok within

theorem extends_arrayElements (opening : Opening) (earlier : List Expression) {c : Cursor}
    (inside inside') (within : a.Within c) :
    (rules.arrayElements opening earlier c inside).Extends a
      (rules'.arrayElements opening earlier (a.extend c) inside') := by
  refine .of_next fun next => ?_
  unfold arrayElements
  refine within.mark_cases ?_ (fun past within => .go (.ok within)) .rbracket (by decide)
  refine .ite (by rw [a.atEnd_extend next]) (fun _ => .fail) fun _ => ?_
  refine within.mark_cases ?_ (fun past within => ?_) .comma (by decide)
  · refine .andThen (extends_spreadable extends_ _ _ within) fun element d less _ within => ?_
    refine within.mark_cases ?_ (fun past within => .lax (.go (.ok within))) .rbracket (by decide)
    refine .lax (.andThen (extends_expectMark within _) fun _ e further _ within => ?_)
    have : e.remaining < c.remaining := Nat.lt_trans further less
    exact extends_arrayElements _ _ _ _ within
  · have := past.less
    exact .go (extends_arrayElements _ _ _ _ within)
termination_by c.remaining

theorem extends_array (inside inside') (within : a.Within c) :
    (rules.array c inside).Extends a (rules'.array (a.extend c) inside') :=
  .andThen (extends_expectMark within _) fun _ _ _ _ within =>
    .andThen (extends_arrayElements extends_ _ _ _ _ within) fun _ _ _ _ within => .ok within

end Literals

/-! ## Operands -/

section Operands

variable (extends_ : rules.Extend a rules')

include extends_

theorem extends_asyncOrName (start : Span) (inside inside') (within : a.Within c) :
    (rules.asyncOrName start c inside).Extends a
      (rules'.asyncOrName start (a.extend c) inside') :=
  .ite (a.kind?_extend_iff c (by simp))
    (fun _ => .bind (.lax (extends_skipFunction extends_ _ _ within))
      fun _ _ _ _ within => .ok within)
    fun _ => .ok within

theorem extends_classExpression (inside inside') (within : a.Within c) :
    (rules.classExpression c inside).Extends a
      (rules'.classExpression (a.extend c) inside') := by
  refine .of_next fun next => ?_
  refine .bind (extends_decorators extends_ _ _ _ within) fun _ d _ _ within => ?_
  refine .andThen (extends_expectKeyword within _) fun _ e _ _ within => ?_
  refine .andThen (extends_skipClassTail within) fun _ f _ _ within => ?_
  rw [a.span_extend next]
  exact .ok within

theorem extends_primary (inside inside') (within : a.Within c) :
    (rules.primary c inside).Extends a (rules'.primary (a.extend c) inside') := by
  have within' := within
  unfold primary
  refine within.next_cases (fun _ ended _ _ => .of_ended ended) fun past within _ => ?_
  dsimp only
  split
  · exact .go (extends_asyncOrName extends_ _ _ _ within)
  iterate 9
    · exact .go (.ok within)
  · refine .go (.andThen (extends_.expression _ _ within) fun inner d _ _ within => ?_)
    exact .map (.mapError (extends_expectMark within _))
  · exact extends_object extends_ _ _ within'
  · exact extends_array extends_ _ _ within'
  · exact .andThen (extends_skipFunction extends_ _ _ within') fun _ _ _ _ within => .ok within
  · exact extends_classExpression extends_ _ _ within'
  · exact extends_classExpression extends_ _ _ within'
  · exact .fail

theorem extends_indexElement (inside inside') (within : a.Within c) :
    (rules.indexElement c inside).Extends a (rules'.indexElement (a.extend c) inside') :=
  .andThen (extends_.expression _ _ within) fun _ _ _ _ within =>
    .map (extends_expectMark within _)

theorem extends_constructedClass (start : Span) (callee : Expression) {c : Cursor}
    (inside inside') (within : a.Within c) :
    (rules.constructedClass start callee c inside).Extends a
      (rules'.constructedClass start callee (a.extend c) inside') := by
  unfold constructedClass
  dsimp only
  refine within.mark_cases ?_ (fun past within => ?_) .dot (by decide)
  · refine within.mark_cases (.ok within) (fun past within => ?_) .lbracket (by decide)
    have := past.less
    exact .lax (.go (.andThen (extends_indexElement extends_ _ _ within) fun _ d _ _ within =>
      extends_constructedClass _ _ _ _ within))
  · have := past.less
    exact .lax (.go (.andThen (extends_propertyName within) fun _ d _ _ within =>
      extends_constructedClass _ _ _ _ within))
termination_by c.remaining

theorem extends_constructionAfter (start : Span) (inside inside') (within : a.Within c) :
    (rules.constructionAfter start c inside).Extends a
      (rules'.constructionAfter start (a.extend c) inside') := by
  refine .of_next fun next => ?_
  refine .andThen (.ite (a.kind?_extend_iff c (by simp))
    (fun _ => extends_.construction _ _ within) fun _ => extends_primary extends_ _ _ within)
    fun callee c₁ _ _ within => ?_
  rw [a.span_extend next]
  refine .bind (extends_constructedClass extends_ _ _ _ _ within) fun callee c₂ _ _ within => ?_
  refine .bind (extends_skipAnglesIfAny within) fun _ c₃ _ _ within => ?_
  exact .bind (extends_optionalArguments extends_ _ _ within) fun _ _ _ _ within => .ok within

theorem extends_newExpression (inside inside') (within : a.Within c) :
    (rules.newExpression c inside).Extends a (rules'.newExpression (a.extend c) inside') := by
  refine .andThen (extends_expectKeyword within _) fun word d _ _ within => ?_
  refine within.mark_cases ?_ (fun past within => ?_) .dot (by decide)
  · exact .lax (extends_constructionAfter extends_ _ _ _ within)
  · exact .lax (.go (.andThen (extends_propertyName within) fun _ _ _ _ within => .ok within))

theorem extends_suffixes (start : Span) (operand : Expression) {c : Cursor} (inside inside')
    (within : a.Within c) :
    (rules.suffixes start operand c inside).Extends a
      (rules'.suffixes start operand (a.extend c) inside') := by
  have within' := within
  have further {start : Span} {operand : Expression} {d : Cursor}
      (fewer : d.remaining < c.remaining)
      (inside inside') (within : a.Within d) :
      (rules.suffixes start operand d inside).Extends a
        (rules'.suffixes start operand (a.extend d) inside') :=
    extends_suffixes _ _ _ _ within
  unfold suffixes
  refine within.next_cases (fun past _ isClosing _ => ?_) fun past within ahead => ?_
  · dsimp only
    rw [isClosing]
    exact .ok within'
  dsimp only
  split
  · exact .lax (.go (.andThen (extends_propertyName within) fun _ d less _ within =>
      further (Nat.lt_trans less past.less) _ _ within))
  · rw [a.seesMark_extend past.rest (by decide)]
    refine .ite Iff.rfl (fun _ => ?_) fun _ => ?_
    · exact .lax (.go (.andThen (extends_arguments extends_ _ _ within) fun _ d less _ within =>
        further (Nat.lt_trans less past.less) _ _ within))
    refine within.mark_cases ?_ (fun opened within => ?_) .lbracket (by decide)
    · exact .lax (.go (.andThen (extends_propertyName within) fun _ d less _ within =>
        further (Nat.lt_trans less past.less) _ _ within))
    · refine .lax (.go (.go (.andThen (extends_indexElement extends_ _ _ within)
        fun _ d less _ within => further ?_ _ _ within)))
      exact Nat.lt_trans less (Nat.lt_trans opened.less past.less)
  · exact .lax (.go (.andThen (extends_indexElement extends_ _ _ within) fun _ d less _ within =>
      further (Nat.lt_trans less past.less) _ _ within))
  · exact .lax (.andThen (extends_arguments extends_ _ _ within') fun _ d less _ within =>
      further less _ _ within)
  · next kind =>
      refine .tried (extends_typeArguments extends_ _ _ within')
        (fun types d reaches fewer _ _ within => ?_) (.ok within')
        fun types d reaches _ succeeded entered => ?_
      · rw [a.seesMark_extend d (by decide)]
        refine .ite Iff.rfl (fun _ => ?_) fun _ => .ok within'
        exact .lax (.following (.andThen (extends_arguments extends_ _ _ within)
          fun _ e less _ within => further (Nat.lt_of_lt_of_le less fewer) _ _ within) _ _)
      · have behind := isBehind_typeArguments rules' _ types (congrArg Stopped.result succeeded)
        rw [show (rules'.typeArguments (a.extend c) _).rest = d from
          congrArg Stopped.rest succeeded] at behind
        have opens : (a.extend c).seesMark .lt = true := by
          rw [a.seesMark_extend c (by decide), seesMark, Cursor.kind?, ahead, List.head?_cons,
            Option.map_some, kind]
          exact decide_eq_true rfl
        rw [seesMark_of_entered within' opens reaches entered behind, if_neg Bool.false_ne_true]
  · exact .lax (.go (further past.less _ _ within))
  · exact .lax (.go (further past.less _ _ within))
  · exact .ok within'
termination_by c.remaining

theorem extends_suffixed (inside inside') (within : a.Within c) :
    (rules.suffixed c inside).Extends a (rules'.suffixed (a.extend c) inside') := by
  refine .of_next fun next => ?_
  refine .andThen (.ite (a.kind?_extend_iff c (by simp))
    (fun _ => extends_newExpression extends_ _ _ within) fun _ =>
    extends_primary extends_ _ _ within) fun operand d _ _ within => ?_
  rw [a.span_extend next]
  exact extends_suffixes extends_ _ _ _ _ within

/-! ## Operators -/

theorem extends_operand (inside inside') (within : a.Within c) :
    (rules.operand c inside).Extends a (rules'.operand (a.extend c) inside') := by
  refine .of_next fun next => ?_
  have within' := within
  have suffixed := extends_suffixed extends_ inside inside' within
  unfold operand
  rw [seesPrefixOperator_extend next]
  refine within.next_cases (fun _ ended _ _ => .of_ended ended) fun past within _ => ?_
  refine .ite Iff.rfl (fun _ => ?_) fun _ => .ite Iff.rfl (fun _ => ?_) fun _ => suffixed
  · exact .go (.andThen (extends_.unary _ _ within) fun _ _ _ _ within => .ok within)
  · exact .andThen (extends_skipAngles within') fun _ _ _ _ within =>
      .lax (extends_.unary _ _ within)

theorem extends_skipAssertedType (inside inside') (within : a.Within c) :
    (rules.skipAssertedType c inside).Extends a
      (rules'.skipAssertedType (a.extend c) inside') := by
  unfold skipAssertedType
  exact within.keyword_cases (.map (extends_.type _ _ within))
    (fun past within => .go (.ok within)) .const_

theorem extends_operators (least : Nat) (start : Span) (left : Expression) {c : Cursor}
    (inside inside') (within : a.Within c) :
    (rules.operators least start left c inside).Extends a
      (rules'.operators least start left (a.extend c) inside') := by
  have within' := within
  unfold operators
  rw [operatorPrecedence?_extend, seesCompoundAssignment_extend]
  refine within.next_cases (fun past ended isClosing _ => ?_) fun past within _ => ?_
  · dsimp only
    rw [isClosing, if_neg (by simp), operatorPrecedence?, Cursor.kind?, ended]
    exact .ok within'
  have := past.less
  dsimp only
  refine .ite Iff.rfl (fun _ => ?_) fun _ => ?_
  · exact .lax (.go (.andThen (extends_skipAssertedType extends_ _ _ within)
      fun _ d less _ within => extends_operators _ _ _ _ _ within))
  split
  · exact .ok within'
  refine .ite Iff.rfl (fun _ => .ok within') fun _ => .lax (.go (.bind
    (.ite Iff.rfl (fun _ => extends_optionalMark within (by decide)) fun _ => .ok within)
    fun _ d fewer _ within => .lax (.andThen (extends_.binary _ _ _ within)
      fun _ e less _ within => ?_)))
  have : e.remaining < c.remaining := by omega
  exact extends_operators _ _ _ _ _ within
termination_by c.remaining

theorem extends_binaryFrom (least : Nat) (inside inside') (within : a.Within c) :
    (rules.binaryFrom least c inside).Extends a
      (rules'.binaryFrom least (a.extend c) inside') := by
  refine .of_next fun next => ?_
  refine .andThen (extends_operand extends_ _ _ within) fun left d _ _ within => ?_
  rw [a.span_extend next]
  exact extends_operators extends_ _ _ _ _ _ within

theorem extends_conditional (inside inside') (within : a.Within c) :
    (rules.conditional c inside).Extends a (rules'.conditional (a.extend c) inside') := by
  refine .of_next fun next => ?_
  refine .andThen (extends_binaryFrom extends_ _ _ _ within) fun test c₁ _ _ within => ?_
  refine within.mark_cases (.ok within) (fun past within => ?_) .question (by decide)
  refine .lax (.go (.andThen (extends_.assignment _ _ within) fun _ c₂ _ _ within => ?_))
  refine .andThen (extends_expectMark within _) fun _ c₃ _ _ within => ?_
  refine .andThen (extends_.assignment _ _ within) fun _ c₄ _ _ within => ?_
  rw [a.span_extend next]
  exact .ok within

theorem extends_assignedValue (start : Span) (target : Expression) (inside inside')
    (within : a.Within c) :
    (rules.assignedValue start target c inside).Extends a
      (rules'.assignedValue start target (a.extend c) inside') := by
  unfold assignedValue
  rw [seesCompoundAssignment_extend]
  have other : c.ahead ≠ [] ∨ c.seesCompoundAssignment = false := by
    by_cases ended : c.ahead = []
    · exact .inr (by simp [seesCompoundAssignment, Cursor.kind?, ended])
    · exact .inl ended
  refine .bind (extends_optional within other) fun _ d _ _ within => ?_
  refine within.mark_cases (.ok within) (fun past within => ?_) .eq (by decide)
  exact .lax (.go (.andThen (extends_.assignment _ _ within) fun _ _ _ _ within => .ok within))

theorem extends_assignmentFrom (inside inside') (within : a.Within c) :
    (rules.assignmentFrom c inside).Extends a (rules'.assignmentFrom (a.extend c) inside') := by
  refine .of_next fun next => ?_
  have within' := within
  unfold assignmentFrom
  rw [a.span_extend next, a.ahead_extend c, a.startsArrow_append within]
  have conditional : ((rules.conditional c inside).andThen fun target d less =>
      rules.assignedValue c.span target d (Cursor.lt_of_lt_of_le less inside)).Extends a
        ((rules'.conditional (a.extend c) inside').andThen fun target d less =>
          rules'.assignedValue c.span target d (Cursor.lt_of_lt_of_le less inside')) :=
    .andThen (extends_conditional extends_ _ _ within) fun _ _ _ _ within =>
      extends_assignedValue extends_ _ _ _ _ within
  refine within.name_cases ?_ (fun past within => ?_) "async"
  · exact .ite Iff.rfl (fun _ => extends_arrowFunction extends_ _ _ _ within') fun _ => conditional
  · dsimp only
    rw [a.ahead_extend past.rest, a.startsArrow_append within]
    exact .ite Iff.rfl (fun _ => .go (extends_arrowFunction extends_ _ _ _ within)) fun _ =>
      .ite Iff.rfl (fun _ => extends_arrowFunction extends_ _ _ _ within') fun _ => conditional

theorem extends_sequence (start : Span) (left : Expression) {c : Cursor} (inside inside')
    (within : a.Within c) :
    (rules.sequence start left c inside).Extends a
      (rules'.sequence start left (a.extend c) inside') := by
  unfold sequence
  refine within.mark_cases (.ok within) (fun past within => ?_) .comma (by decide)
  have := past.less
  exact .lax (.go (.andThen (extends_.assignment _ _ within) fun _ d _ _ within =>
    extends_sequence _ _ _ _ within))
termination_by c.remaining

theorem extends_expressionWhole (inside inside') (within : a.Within c) :
    (rules.expressionWhole c inside).Extends a
      (rules'.expressionWhole (a.extend c) inside') := by
  refine .of_next fun next => ?_
  refine .andThen (extends_assignmentFrom extends_ _ _ within) fun first d _ _ within => ?_
  rw [a.span_extend next]
  exact extends_sequence extends_ _ _ _ _ within

end Operands

/-! ## All rules -/

/-- **The rules run with the further tokens as they run without them**, by induction on the tokens
ahead. -/
theorem extend_all (a : Appendix) (limit limit' : Cursor) :
    (all limit).Extend a (all limit') := by
  have inner {c c' : Cursor} (inside : c.remaining < limit.remaining) :
      (all c).Extend a (all c') :=
    extend_all a c c'
  constructor
  all_goals rw [all, all]
  case assignment =>
    exact fun inside _ within => extends_assignmentFrom (inner inside) _ _ within
  case expression =>
    exact fun inside _ within => extends_expressionWhole (inner inside) _ _ within
  case binary =>
    exact fun least _ inside _ within => extends_binaryFrom (inner inside) least _ _ within
  case unary => exact fun inside _ within => extends_operand (inner inside) _ _ within
  case construction =>
    exact fun {c} inside _ within =>
      extends_newExpression (inner inside) c.le_self (a.extend c).le_self within
  case type => exact fun inside _ within => extends_fullType (inner inside) _ _ within
  case typeOperand => exact fun inside _ within => extends_operandType (inner inside) _ _ within
termination_by limit.remaining

end Rules

end InjectionCheck
