import InjectionCheck.Proofs.AppendedWords

/-!
# Types with further tokens behind them

The rules for types run with the further tokens of an appendix as they run without them, given that
the recursive rules do.
-/

set_option autoImplicit false

namespace InjectionCheck

open Appendix Cursor Lookahead Outcome

variable {a : Appendix}

namespace Cursor

theorem extends_skipQualifiedTail {c : Cursor} (within : a.Within c) :
    c.skipQualifiedTail.Extends a (a.extend c).skipQualifiedTail := by
  unfold skipQualifiedTail
  refine within.mark_cases (extends_skipAnglesIfAny within) (fun past within => ?_) .dot (by decide)
  have := past.less
  exact .lax (.go (.andThen (extends_propertyName within) fun _ _ _ _ within =>
    extends_skipQualifiedTail within))
termination_by c.remaining

variable {c : Cursor} (within : a.Within c)

include within

theorem extends_importedType (start : Span) :
    (c.importedType start).Extends a ((a.extend c).importedType start) :=
  .andThen (extends_skipGroup within) fun _ _ _ _ within =>
    .bind (extends_skipQualifiedTail within) fun _ _ _ _ within => .ok within

theorem extends_valueType (start : Span) :
    (c.valueType start).Extends a ((a.extend c).valueType start) := by
  unfold valueType
  refine within.keyword_cases ?_ (fun past within => ?_) .import_
  · refine .andThen (extends_expectName within) fun value d _ _ within => ?_
    rw [a.seesMark_extend d (by decide)]
    refine .ite Iff.rfl (fun _ => ?_) fun _ => ?_
    · exact .bind (extends_skipQualifiedTail within) fun _ _ _ _ within => .ok within
    · exact .bind (extends_skipAnglesIfAny within) fun _ _ _ _ within => .ok within
  · exact .go (extends_importedType within start)

end Cursor

namespace Rules

variable {limit limit' : Cursor} {rules : Rules limit} {rules' : Rules limit'} {c : Cursor}

/-! ## Words in front of types -/

/-- A tuple element's label is a name with a colon behind it. -/
theorem extends_skipElementLabel (within : a.Within c) :
    (skipElementLabel c).Extends a (skipElementLabel (a.extend c)) := by
  unfold skipElementLabel
  have within' := within
  refine within.next_cases (fun past _ isClosing _ => ?_) fun past within _ => ?_
  · dsimp only
    rw [isClosing]
    exact .ok within'
  dsimp only
  split
  · refine within.mark_cases ?_ (fun past within => .lax (.go (.go (.ok within)))) .colon
      (by decide)
    refine within.mark_cases (.ok within') (fun past within => ?_) .question (by decide)
    dsimp only
    refine within.mark_cases (.ok within') (fun past within => ?_) .colon (by decide)
    exact .lax (.go (.go (.go (.ok within))))
  · exact .ok within'

theorem extends_skipAccessorWord (within : a.Within c) :
    (skipAccessorWord c).Extends a (skipAccessorWord (a.extend c)) := by
  unfold skipAccessorWord
  by_cases ended : c.ahead = []
  · have none (text : String) := @nextIf?_at_end a c ended (· = .name text) (by simp)
    rw [name?, (none "get").1, name?, (none "get").2, Cursor.optional, (none "set").1,
      Cursor.optional, (none "set").2]
    have skipsNothing (d : Cursor) (condition : Bool) :
        (if condition then (Outcome.ok false : Outcome false d Bool).map fun _ => false
          else .ok false).stopped = ⟨.ok false, d⟩ := by
      cases condition <;> rfl
    exact .succeeds (skipsNothing c _) (skipsNothing _ _) within
  · rw [namesProperty, namesProperty, a.any_peek?_extend ended rfl]
    refine .ite Iff.rfl (fun _ => ?_) fun _ => .ok within
    refine within.name_cases ?_ (fun past within => .lax (.go (.ok within))) "get"
    exact .map (extends_optional within (.inr (by simp)))

theorem extends_skipSeparators {c : Cursor} (within : a.Within c) :
    (skipSeparators c).Extends a (skipSeparators (a.extend c)) := by
  unfold skipSeparators
  refine within.nextIf_cases (.inr rfl) (.ok within) fun past _ within => ?_
  have := past.less
  exact .lax (.go (extends_skipSeparators within))
termination_by c.remaining

/-! ## Results and members -/

section Members

variable (extends_ : rules.Extend a rules')

include extends_

theorem extends_returnType : a.Extend rules.returnType rules'.returnType := by
  intro c inside inside' within
  have type := extends_.type inside inside' within
  refine .of_next fun isNext => ?_
  unfold returnType
  refine within.next_cases (fun past ended _ _ => absurd ended isNext) fun first within _ => ?_
  dsimp only
  refine within.next_cases (fun past _ isClosing _ => ?_) fun second within _ => ?_
  · dsimp only
    rw [if_neg (by rw [isClosing]; rintro ⟨-, ⟨⟩⟩), if_neg (by rw [isClosing]; rintro ⟨-, ⟨⟩⟩)]
    exact type
  · dsimp only
    rw [a.span_extend isNext]
    refine .ite Iff.rfl (fun _ => ?_) fun _ => .ite Iff.rfl (fun _ => ?_) fun _ => type
    · refine within.name_cases (.go (.go (.ok within))) (fun past within => ?_) "is"
      exact .go (.go (.go (.andThen (extends_.type _ _ within) fun _ _ _ _ within => .ok within)))
    · exact .go (.go (.andThen (extends_.type _ _ within) fun _ _ _ _ within => .ok within))

theorem extends_resultAscription (inside inside') (within : a.Within c) :
    (rules.resultAscription c inside).Extends a
      (rules'.resultAscription (a.extend c) inside') := by
  unfold resultAscription
  refine within.mark_cases (.ok within) (fun past within => ?_) .colon (by decide)
  exact .lax (.map (.go (extends_returnType extends_ _ _ within)))

theorem extends_typeArguments (inside inside') (within : a.Within c) :
    (rules.typeArguments c inside).Extends a (rules'.typeArguments (a.extend c) inside') :=
  .andThen (extends_expectMark within _) fun _ _ _ _ within =>
    extends_elements _ _ _ extends_.type _ _ _ within

theorem extends_functionType (inside inside') (within : a.Within c) :
    (rules.functionType c inside).Extends a (rules'.functionType (a.extend c) inside') := by
  refine .of_next fun next => ?_
  refine .bind (extends_skipAnglesIfAny within) fun _ c₁ _ _ within => ?_
  refine .andThen (extends_parameters extends_ _ _ within) fun parameters c₂ _ _ within => ?_
  refine .andThen (extends_expectMark within _) fun _ c₃ _ _ within => ?_
  refine .andThen (extends_returnType extends_ _ _ within) fun result c₄ _ _ within => ?_
  rw [a.span_extend next]
  exact .ok within

theorem extends_tupleElement : a.Extend rules.tupleElement rules'.tupleElement := by
  intro c inside inside' within
  exact .bind (extends_optionalMark within (by decide)) fun _ _ _ _ within =>
    .bind (extends_skipElementLabel within) fun _ _ _ _ within =>
      .andThen (extends_.type _ _ within) fun _ _ _ _ within =>
        .bind (extends_optionalMark within (by decide)) fun _ _ _ _ within => .ok within

theorem extends_tupleType (inside inside') (within : a.Within c) :
    (rules.tupleType c inside).Extends a (rules'.tupleType (a.extend c) inside') :=
  .andThen (extends_expectMark within _) fun _ _ _ _ within =>
    .andThen (extends_elements _ _ _ (extends_tupleElement extends_) _ _ _ within)
      fun _ _ _ _ within => .ok within

theorem extends_skipSignature (inside inside') (within : a.Within c) :
    (rules.skipSignature c inside).Extends a (rules'.skipSignature (a.extend c) inside') :=
  .bind (extends_skipAnglesIfAny within) fun _ _ _ _ within =>
    .andThen (extends_parameters extends_ _ _ within) fun _ _ _ _ within =>
      .map (extends_resultAscription extends_ _ _ within)

omit extends_ in
theorem startsSignature_extend (c : Cursor) :
    startsSignature (a.extend c) = startsSignature c := by
  rw [startsSignature, startsSignature, a.seesMark_extend c (by decide),
    a.seesMark_extend c (by decide)]

theorem extends_skipComputedMember (inside inside') (within : a.Within c) :
    (rules.skipComputedMember c inside).Extends a
      (rules'.skipComputedMember (a.extend c) inside') := by
  refine .andThen (extends_skipGroup within) fun _ c₁ _ _ within => ?_
  refine .bind (extends_optionalMark within (by decide)) fun _ c₂ _ _ within => ?_
  rw [startsSignature_extend c₂]
  exact .ite Iff.rfl (fun _ => .lax (extends_skipSignature extends_ _ _ within)) fun _ =>
    .map (extends_ascription extends_ _ _ within)

theorem extends_namedTypeMember (start : Span) (readonly : Bool) (inside inside')
    (within : a.Within c) :
    (rules.namedTypeMember start readonly c inside).Extends a
      (rules'.namedTypeMember start readonly (a.extend c) inside') := by
  refine .bind (extends_skipAccessorWord within) fun isGetter c₁ _ _ within => ?_
  refine .andThen (extends_propertyName within) fun property c₂ _ _ within => ?_
  refine .bind (extends_optionalMark within (by decide)) fun optional c₃ _ _ within => ?_
  dsimp only
  rw [startsSignature_extend c₃]
  refine .ite Iff.rfl (fun _ => ?_) fun _ => ?_
  · exact .bind (extends_skipAnglesIfAny within) fun _ _ _ _ within =>
      .lax (.andThen (extends_parameters extends_ _ _ within) fun _ _ _ _ within =>
        .bind (extends_resultAscription extends_ _ _ within) fun _ _ _ _ within => .ok within)
  · exact .bind (extends_ascription extends_ _ _ within) fun _ _ _ _ within => .ok within

theorem extends_typeMember (inside inside') (within : a.Within c) :
    (rules.typeMember c inside).Extends a (rules'.typeMember (a.extend c) inside') := by
  refine .of_next fun next => ?_
  have named (readonly : Bool) {d : Cursor} (inside inside') (within : a.Within d) :
      ((rules.namedTypeMember c.span readonly d inside).map some).Extends a
        ((rules'.namedTypeMember (a.extend c).span readonly (a.extend d) inside').map some) := by
    rw [a.span_extend next]
    exact .map (extends_namedTypeMember extends_ _ _ _ _ within)
  unfold typeMember
  rw [startsSignature_extend c]
  refine .ite Iff.rfl (fun _ => .map (extends_skipSignature extends_ _ _ within)) fun _ => ?_
  refine within.keyword_cases ?_ (fun past within' => ?_) .new_
  · refine .bind (extends_optionalModifier within _) fun readonly d _ _ within => ?_
    rw [a.seesMark_extend d (by decide)]
    exact .ite Iff.rfl (fun _ => .map (extends_skipComputedMember extends_ _ _ within))
      fun _ => named _ _ _ within
  · dsimp only
    rw [startsSignature_extend past.rest]
    exact .ite Iff.rfl (fun _ => .go (.map (extends_skipSignature extends_ _ _ within')))
      fun _ => named _ _ _ within

theorem extends_typeMembersAfter (opening : Opening) (earlier : List TypeMember) {c : Cursor}
    (inside inside') (within : a.Within c) :
    (rules.typeMembersAfter opening earlier c inside).Extends a
      (rules'.typeMembersAfter opening earlier (a.extend c) inside') := by
  unfold typeMembersAfter
  refine .bind (extends_skipSeparators within) fun _ d _ _ within => ?_
  refine .of_next fun next => ?_
  refine within.mark_cases ?_ (fun past within => .go (.ok within)) .rbrace (by decide)
  refine .ite (by rw [a.atEnd_extend next]) (fun _ => .fail) fun _ => ?_
  exact .andThen (extends_typeMember extends_ _ _ within) fun member e _ _ within =>
    .lax (extends_typeMembersAfter _ _ _ _ within)
termination_by c.remaining

theorem extends_typeMembers (inside inside') (within : a.Within c) :
    (rules.typeMembers c inside).Extends a (rules'.typeMembers (a.extend c) inside') :=
  .andThen (extends_expectMark within _) fun _ _ _ _ within =>
    .lax (extends_typeMembersAfter extends_ _ _ _ _ within)

end Members

/-! ## Types -/

section Types

variable (extends_ : rules.Extend a rules')

include extends_

theorem extends_namedTypeAfter (start : Span) (name : String) (inside inside')
    (within : a.Within c) :
    (rules.namedTypeAfter start name c inside).Extends a
      (rules'.namedTypeAfter start name (a.extend c) inside') := by
  unfold namedTypeAfter
  rw [a.seesMark_extend c (by decide), a.seesMark_extend c (by decide)]
  refine .ite Iff.rfl (fun _ => ?_) fun _ => .ite Iff.rfl (fun _ => ?_) fun _ => .ok within
  · exact .bind (extends_skipQualifiedTail within) fun _ _ _ _ within => .ok within
  · exact .bind (.lax (extends_typeArguments extends_ _ _ within)) fun _ _ _ _ within => .ok within

theorem extends_constructorType (start : Span) (inside inside') (within : a.Within c) :
    (rules.constructorType start c inside).Extends a
      (rules'.constructorType start (a.extend c) inside') :=
  .andThen (extends_functionType extends_ _ _ within) fun _ _ _ _ within => .ok within

theorem extends_primaryType (inside inside') (within : a.Within c) :
    (rules.primaryType c inside).Extends a (rules'.primaryType (a.extend c) inside') := by
  have within' := within
  unfold primaryType
  refine within.next_cases (fun _ ended _ _ => .of_ended ended) fun past within ahead => ?_
  dsimp only
  split
  · next kind =>
      have same : startsFunctionType (a.extend c).ahead = startsFunctionType c.ahead := by
        rw [a.ahead_extend, ahead]
        exact a.startsFunctionType_append (ahead ▸ within') (by rw [kind]; rfl)
      rw [same]
      refine .ite Iff.rfl (fun _ => extends_functionType extends_ _ _ within') fun _ => ?_
      refine .go (.andThen (extends_.type _ _ within) fun type d _ _ within => ?_)
      exact .map (extends_expectMark within _)
  · exact extends_functionType extends_ _ _ within'
  · exact .go (extends_constructorType extends_ _ _ _ within)
  · have same : startsMappedType (a.extend c).ahead = startsMappedType c.ahead := by
      rw [a.ahead_extend, ahead]
      exact a.startsMappedType_append _ _
    rw [same]
    refine .ite Iff.rfl (fun _ => ?_) fun _ => ?_
    · exact .andThen (extends_skipGroup within') fun _ _ _ _ within => .ok within
    · exact .andThen (extends_typeMembers extends_ _ _ within') fun _ _ _ _ within => .ok within
  · exact extends_tupleType extends_ _ _ within'
  · exact .go (.ok within)
  · exact .go (.ok within)
  · exact .go (.ok within)
  · exact .go (.ok within)
  · refine within.nextIf_cases (.inr rfl) .fail fun past _ within => ?_
    exact .go (.go (.ok within))
  · exact .go (.ok within)
  · exact .go (.ok within)
  · exact .go (.ok within)
  · exact .go (.ok within)
  · exact .go (extends_valueType within _)
  · exact .go (extends_importedType within _)
  · refine within.keyword_cases ?_ (fun past within => ?_) .new_
    · exact .go (extends_namedTypeAfter extends_ _ _ _ _ within)
    · exact .go (.go (extends_constructorType extends_ _ _ _ within))
  · exact .go (extends_namedTypeAfter extends_ _ _ _ _ within)
  · exact .fail

theorem extends_typeSuffixes (start : Span) (type : TypeExpression) {c : Cursor} (inside inside')
    (within : a.Within c) :
    (rules.typeSuffixes start type c inside).Extends a
      (rules'.typeSuffixes start type (a.extend c) inside') := by
  unfold typeSuffixes
  refine within.mark_cases (.ok within) (fun past within => ?_) .lbracket (by decide)
  have := past.less
  dsimp only
  refine within.mark_cases ?_ (fun closed within => ?_) .rbracket (by decide)
  · refine .lax (.go (.andThen (extends_.type _ _ within) fun _ d less _ within => ?_))
    refine .andThen (extends_expectMark within _) fun _ e less _ within => ?_
    exact extends_typeSuffixes _ _ _ _ within
  · have := closed.less
    exact .lax (.go (.go (extends_typeSuffixes _ _ _ _ within)))
termination_by c.remaining

theorem extends_suffixedType (inside inside') (within : a.Within c) :
    (rules.suffixedType c inside).Extends a (rules'.suffixedType (a.extend c) inside') := by
  refine .of_next fun next => ?_
  refine .andThen (extends_primaryType extends_ _ _ within) fun type d _ _ within => ?_
  rw [a.span_extend next]
  exact extends_typeSuffixes extends_ _ _ _ _ within

theorem extends_skipConstraint (inside inside') (within : a.Within c) :
    (rules.skipConstraint c inside).Extends a (rules'.skipConstraint (a.extend c) inside') := by
  unfold skipConstraint
  have within' := within
  refine within.keyword_cases (.ok within) (fun past within => ?_) .extends_
  dsimp only
  rw [a.ahead_extend, a.reachesQuestion_append within]
  refine .ite Iff.rfl (fun _ => .ok within') fun _ => ?_
  exact .lax (.map (.go (extends_.typeOperand _ _ within)))

theorem extends_operandType (inside inside') (within : a.Within c) :
    (rules.operandType c inside).Extends a (rules'.operandType (a.extend c) inside') := by
  have suffixed := extends_suffixedType extends_ inside inside' within
  unfold operandType
  refine within.next_cases (fun _ ended _ _ => .of_ended ended) fun past within _ => ?_
  have same := @any_kind?_extend a past.rest Kind.startsTypeOperand rfl
  dsimp only
  rw [same]
  split
  · refine .ite Iff.rfl (fun _ => .go (.andThen (extends_.typeOperand _ _ within) ?_))
      fun _ => suffixed
    exact fun _ _ _ _ within => .ok within
  · exact .ite Iff.rfl (fun _ => .go (extends_.typeOperand _ _ within)) fun _ => suffixed
  · exact within.name_cases suffixed (fun symbol within => .go (.go (.ok within))) "symbol"
  · refine within.next_cases (fun second _ isClosing _ => ?_) fun second within _ => ?_
    · dsimp only
      rw [isClosing]
      exact suffixed
    · dsimp only
      split
      · exact .go (.go (.bind (extends_skipConstraint extends_ _ _ within)
          fun _ _ _ _ within => .ok within))
      · exact suffixed
  · exact suffixed

omit extends_ in
theorem extends_furtherMembers (sign : Mark) (other : sign ≠ .rparen)
    {member : (c : Cursor) → c.remaining ≤ limit.remaining → Outcome true c TypeExpression}
    {member' : (c : Cursor) → c.remaining ≤ limit'.remaining → Outcome true c TypeExpression}
    (each : ∀ {c : Cursor} inside inside', a.Within c →
      (member c inside).Extends a (member' (a.extend c) inside'))
    (earlier : List TypeExpression) {c : Cursor} (inside inside') (within : a.Within c) :
    (furtherMembers sign member earlier c inside).Extends a
      (furtherMembers sign member' earlier (a.extend c) inside') := by
  unfold furtherMembers
  refine within.mark_cases (.ok within) (fun past within => ?_) sign other
  have := past.less
  exact .lax (.go (.andThen (each _ _ within) fun type d _ _ within =>
    extends_furtherMembers sign other each _ _ _ within))
termination_by c.remaining

theorem extends_intersectionType (inside inside') (within : a.Within c) :
    (rules.intersectionType c inside).Extends a
      (rules'.intersectionType (a.extend c) inside') := by
  refine .of_next fun next => ?_
  refine .bind (extends_optionalMark within (by decide)) fun _ d _ _ within => ?_
  refine .andThen (extends_operandType extends_ _ _ within) fun first e _ _ within => ?_
  refine .bind (extends_furtherMembers _ (by decide) (extends_operandType extends_) _ _ _ within)
    fun members f _ _ within => ?_
  rw [a.span_extend next]
  exact .ok within

theorem extends_unionType (inside inside') (within : a.Within c) :
    (rules.unionType c inside).Extends a (rules'.unionType (a.extend c) inside') := by
  refine .of_next fun next => ?_
  refine .bind (extends_optionalMark within (by decide)) fun leading d _ _ within => ?_
  refine .andThen (extends_intersectionType extends_ _ _ within) fun first e _ _ within => ?_
  refine .bind (extends_furtherMembers _ (by decide) (extends_intersectionType extends_) _ _ _
    within) fun members f _ _ within => ?_
  rw [a.span_extend next]
  exact .ok within

theorem extends_fullType (inside inside') (within : a.Within c) :
    (rules.fullType c inside).Extends a (rules'.fullType (a.extend c) inside') := by
  refine .of_next fun next => ?_
  refine .andThen (extends_unionType extends_ _ _ within) fun type c₁ _ _ within => ?_
  refine within.keyword_cases (.ok within) (fun past within => ?_) .extends_
  refine .lax (.go (.andThen (extends_unionType extends_ _ _ within) fun _ c₂ _ _ within => ?_))
  refine .andThen (extends_expectMark within _) fun _ c₃ _ _ within => ?_
  refine .andThen (extends_.type _ _ within) fun _ c₄ _ _ within => ?_
  refine .andThen (extends_expectMark within _) fun _ c₅ _ _ within => ?_
  refine .andThen (extends_.type _ _ within) fun _ c₆ _ _ within => ?_
  rw [a.span_extend next]
  exact .ok within

end Types

end Rules

end InjectionCheck
