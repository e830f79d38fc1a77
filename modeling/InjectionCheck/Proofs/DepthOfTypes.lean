import InjectionCheck.Proofs.BraceDepth

/-!
# In how many braces the rules for types stop

A rule for types that succeeds stops in no more braces than it started in. The only braces that it
opens by itself are those of an object type, whose members are read up to and past the closing one.
-/

set_option autoImplicit false

namespace InjectionCheck

open Cursor Outcome

namespace Cursor

theorem endsWithin_skipQualifiedTail {n : Int} {c : Cursor} (within : c.depth ≤ n) :
    c.skipQualifiedTail.EndsWithin n := by
  unfold skipQualifiedTail
  split
  · next past found =>
      have := past.less
      exact .lax (.go (.andThen
        (endsWithin_propertyName (depth_mark?_le found (by decide) within))
        fun _ _ _ within => endsWithin_skipQualifiedTail within))
  · exact endsWithin_skipAnglesIfAny within
termination_by c.remaining

section

variable {n : Int} {c : Cursor} (within : c.depth ≤ n)

include within

theorem endsWithin_importedType (start : Span) : (c.importedType start).EndsWithin n :=
  .andThen (endsWithin_skipGroup within) fun _ _ _ within =>
    .bind (endsWithin_skipQualifiedTail within) fun _ _ _ within => .ok within

theorem endsWithin_valueType (start : Span) : (c.valueType start).EndsWithin n := by
  unfold valueType
  split
  · next past found =>
      exact .go (endsWithin_importedType (depth_keyword?_le found within) start)
  · refine .andThen (endsWithin_expectName within) fun value d _ within => ?_
    refine .ite (fun _ => ?_) fun _ => ?_
    · exact .bind (endsWithin_skipQualifiedTail within) fun _ _ _ within => .ok within
    · exact .bind (endsWithin_skipAnglesIfAny within) fun _ _ _ within => .ok within

end

end Cursor

namespace Rules

variable {limit : Cursor} {rules : Rules limit} {n : Int}

/-! ## Words in front of types -/

/-- A tuple element's label is a name with a colon behind it. -/
theorem endsWithin_skipElementLabel {c : Cursor} (within : c.depth ≤ n) :
    (skipElementLabel c).EndsWithin n := by
  unfold skipElementLabel
  split
  · exact .ok within
  next first isNext =>
  split
  · next name isName =>
      have within' := depth_rest_le isNext (by simp [isName]) within
      split
      · next past found => exact .lax (.go (.go (.ok (depth_mark?_le found (by decide) within'))))
      · split
        · next second found =>
            have within' := depth_mark?_le found (by decide) within'
            split
            · next past found =>
                exact .lax (.go (.go (.go (.ok (depth_mark?_le found (by decide) within')))))
            · exact .ok within
        · exact .ok within
  · exact .ok within

theorem endsWithin_skipAccessorWord {c : Cursor} (within : c.depth ≤ n) :
    (skipAccessorWord c).EndsWithin n := by
  unfold skipAccessorWord
  refine .ite (fun _ => ?_) fun _ => .ok within
  split
  · next past found => exact .lax (.go (.ok (depth_name?_le found within)))
  · exact .map (endsWithin_optional within (by simp)) fun _ _ => id

theorem endsWithin_skipSeparators {c : Cursor} (within : c.depth ≤ n) :
    (skipSeparators c).EndsWithin n := by
  unfold skipSeparators
  split
  · next past found =>
      have := past.less
      exact .lax (.go (endsWithin_skipSeparators (depth_nextIf?_le found (by simp) within)))
  · exact .ok within
termination_by c.remaining

/-! ## Results and members -/

section Members

variable (ends : rules.EndWithin)

include ends

theorem endsWithin_returnType {c : Cursor} (inside) (within : c.depth ≤ n) :
    (rules.returnType c inside).EndsWithin n := by
  unfold returnType
  split
  · exact ends.type c inside within
  next first isFirst =>
  split
  · exact ends.type c inside within
  next second isSecond =>
  have behindName (name : first.token.kind ≠ .mark .lbrace)
      (name' : second.token.kind ≠ .mark .lbrace) : second.rest.depth ≤ n :=
    depth_rest_le isSecond name' (depth_rest_le isFirst name within)
  have noBrace {kind : Kind} (isSubject : kind.isPredicateSubject = true) :
      kind ≠ .mark .lbrace := by
    rintro rfl
    cases isSubject
  refine .ite (fun words => ?_) fun _ => .ite (fun words => ?_) fun _ => ends.type c inside within
  · have within := behindName (by simp [words.1]) (noBrace words.2)
    split
    · next past found =>
        exact .go (.go (.go (.andThen (ends.type _ _ (depth_name?_le found within))
          fun _ _ _ within => .ok within)))
    · exact .go (.go (.ok within))
  · have within := behindName (noBrace words.1) (by simp [words.2])
    exact .go (.go (.andThen (ends.type _ _ within) fun _ _ _ within => .ok within))

variable {c : Cursor} (within : c.depth ≤ n)

include within

theorem endsWithin_resultAscription (inside) : (rules.resultAscription c inside).EndsWithin n := by
  unfold resultAscription
  split
  · next past found =>
      exact .lax (.map (.go (endsWithin_returnType ends _
        (depth_mark?_le found (by decide) within))) fun _ _ => id)
  · exact .ok within

theorem endsWithin_typeArguments (inside) : (rules.typeArguments c inside).EndsWithin n := by
  refine .andThen (endsWithin_expectMark within (by decide)) fun opened d _ within => ?_
  refine (endsWithin_elements _ (by decide) _ ends.type _ _ within).mono fun _ e atMost => ?_
  simpa [Kind.closedBraces] using atMost

theorem endsWithin_functionType (inside) : (rules.functionType c inside).EndsWithin n :=
  .bind (endsWithin_skipAnglesIfAny within) fun _ _ _ within =>
    .andThen (endsWithin_parameters ends within _) fun _ _ _ within =>
      .andThen (endsWithin_expectMark within (by decide)) fun _ _ _ within =>
        .andThen (endsWithin_returnType ends _ within) fun _ _ _ within => .ok within

theorem endsWithin_tupleElement (inside) : (rules.tupleElement c inside).EndsWithin n :=
  .bind (endsWithin_optionalMark within (by decide)) fun _ _ _ within =>
    .bind (endsWithin_skipElementLabel within) fun _ _ _ within =>
      .andThen (ends.type _ _ within) fun _ _ _ within =>
        .bind (endsWithin_optionalMark within (by decide)) fun _ _ _ within => .ok within

theorem endsWithin_tupleType (inside) : (rules.tupleType c inside).EndsWithin n := by
  refine .andThen (endsWithin_expectMark within (by decide)) fun opened d _ within => ?_
  refine .andThen (endsWithin_elements _ (by decide) _ (fun c inside within =>
    endsWithin_tupleElement ends within inside) _ _ within) fun members e _ within => .ok ?_
  simpa [Kind.closedBraces] using within

theorem endsWithin_skipSignature (inside) : (rules.skipSignature c inside).EndsWithin n :=
  .bind (endsWithin_skipAnglesIfAny within) fun _ _ _ within =>
    .andThen (endsWithin_parameters ends within _) fun _ _ _ within =>
      .map (endsWithin_resultAscription ends within _) fun _ _ => id

theorem endsWithin_skipComputedMember (inside) :
    (rules.skipComputedMember c inside).EndsWithin n :=
  .andThen (endsWithin_skipGroup within) fun _ _ _ within =>
    .bind (endsWithin_optionalMark within (by decide)) fun _ _ _ within =>
      .ite (fun _ => .lax (endsWithin_skipSignature ends within _)) fun _ =>
        .map (endsWithin_ascription ends within _) fun _ _ => id

theorem endsWithin_namedTypeMember (start : Span) (readonly : Bool) (inside) :
    (rules.namedTypeMember start readonly c inside).EndsWithin n :=
  .bind (endsWithin_skipAccessorWord within) fun _ _ _ within =>
    .andThen (endsWithin_propertyName within) fun _ _ _ within =>
      .bind (endsWithin_optionalMark within (by decide)) fun _ _ _ within =>
        .ite
          (fun _ => .bind (endsWithin_skipAnglesIfAny within) fun _ _ _ within =>
            .lax (.andThen (endsWithin_parameters ends within _) fun _ _ _ within =>
              .bind (endsWithin_resultAscription ends within _) fun _ _ _ within => .ok within))
          fun _ => .bind (endsWithin_ascription ends within _) fun _ _ _ within => .ok within

theorem endsWithin_typeMember (inside) : (rules.typeMember c inside).EndsWithin n := by
  unfold typeMember
  have named (readonly : Bool) {d : Cursor} (inside) (within : d.depth ≤ n) :
      ((rules.namedTypeMember c.span readonly d inside).map some).EndsWithin n :=
    .map (endsWithin_namedTypeMember ends within _ _ _) fun _ _ => id
  refine .ite (fun _ => .map (endsWithin_skipSignature ends within _) fun _ _ => id) fun _ => ?_
  split
  · next past found =>
      refine .ite (fun _ => .go (.map ?_ fun _ _ => id)) fun _ => named _ _ within
      exact endsWithin_skipSignature ends (depth_keyword?_le found within) _
  · refine .bind (endsWithin_optionalModifier within _) fun _ d _ within => ?_
    exact .ite (fun _ => .map (endsWithin_skipComputedMember ends within _) fun _ _ => id)
      fun _ => named _ _ within

omit within in
/-- The members of an object type are read past the brace that closes it. -/
theorem endsWithin_typeMembersAfter (opening : Opening) (earlier : List TypeMember) {c : Cursor}
    (inside) (within : c.depth ≤ n + 1) :
    (rules.typeMembersAfter opening earlier c inside).EndsWithin n := by
  unfold typeMembersAfter
  refine .bind (endsWithin_skipSeparators within) fun _ d _ within => ?_
  split
  · next past found =>
      obtain ⟨isNext, isMark⟩ := next?_of_nextIf? found
      rw [depth_of_next? isNext, of_decide_eq_true isMark, Kind.closedBraces] at within
      exact .go (.ok (by omega))
  · refine .ite (fun _ => .fail) fun _ => ?_
    refine .andThen (endsWithin_typeMember ends within _) fun member e less within => .lax ?_
    exact endsWithin_typeMembersAfter _ _ _ within
termination_by c.remaining

theorem endsWithin_typeMembers (inside) : (rules.typeMembers c inside).EndsWithin n :=
  .andThen (endsWithin_expect within (.mark .lbrace)) fun _ _ _ within =>
    .lax (endsWithin_typeMembersAfter ends _ _ _ (by simpa [Kind.closedBraces] using within))

end Members

/-! ## Types -/

section Types

variable (ends : rules.EndWithin) {c : Cursor} (within : c.depth ≤ n)

include ends within

theorem endsWithin_namedTypeAfter (start : Span) (name : String) (inside) :
    (rules.namedTypeAfter start name c inside).EndsWithin n := by
  refine .ite (fun _ => ?_) fun _ => .ite (fun _ => ?_) fun _ => .ok within
  · exact .bind (endsWithin_skipQualifiedTail within) fun _ _ _ within => .ok within
  · exact .bind (.lax (endsWithin_typeArguments ends within _)) fun _ _ _ within => .ok within

theorem endsWithin_constructorType (start : Span) (inside) :
    (rules.constructorType start c inside).EndsWithin n :=
  .andThen (endsWithin_functionType ends within _) fun _ _ _ within => .ok within

theorem endsWithin_primaryType (inside) : (rules.primaryType c inside).EndsWithin n := by
  unfold primaryType
  split
  · exact .fail
  next past isNext =>
  have rest (other : past.token.kind ≠ .mark .lbrace) := depth_rest_le isNext other within
  dsimp only
  split
  · next kind =>
      refine .ite (fun _ => endsWithin_functionType ends within _) fun _ => ?_
      refine .go (.andThen (ends.type _ _ (rest (by simp [kind]))) fun _ _ _ within => ?_)
      exact .map (endsWithin_expectMark within (by decide)) fun _ _ => id
  · exact endsWithin_functionType ends within _
  · next kind => exact .go (endsWithin_constructorType ends (rest (by simp [kind])) _ _)
  · refine .ite (fun _ => ?_) fun _ => ?_
    · exact .andThen (endsWithin_skipGroup within) fun _ _ _ within => .ok within
    · exact .andThen (endsWithin_typeMembers ends within _) fun _ _ _ within => .ok within
  · exact endsWithin_tupleType ends within _
  · next kind => exact .go (.ok (rest (by simp [kind])))
  · next kind => exact .go (.ok (rest (by simp [kind])))
  · next kind => exact .go (.ok (rest (by simp [kind])))
  · next kind => exact .go (.ok (rest (by simp [kind])))
  · next kind =>
      split
      · next number found =>
          exact .go (.go (.ok (depth_nextIf?_le found (by simp) (rest (by simp [kind])))))
      · exact .fail
  · next kind => exact .go (.ok (rest (by simp [kind])))
  · next kind => exact .go (.ok (rest (by simp [kind])))
  · next kind => exact .go (.ok (rest (by simp [kind])))
  · next kind => exact .go (.ok (rest (by simp [kind])))
  · next kind => exact .go (endsWithin_valueType (rest (by simp [kind])) _)
  · next kind => exact .go (endsWithin_importedType (rest (by simp [kind])) _)
  · next kind =>
      split
      · next word found =>
          exact .go (.go (endsWithin_constructorType ends
            (depth_keyword?_le found (rest (by simp [kind]))) _ _))
      · exact .go (endsWithin_namedTypeAfter ends (rest (by simp [kind])) _ _ _)
  · next kind => exact .go (endsWithin_namedTypeAfter ends (rest (by simp [kind])) _ _ _)
  · exact .fail

omit within in
theorem endsWithin_typeSuffixes (start : Span) (type : TypeExpression) {c : Cursor} (inside)
    (within : c.depth ≤ n) : (rules.typeSuffixes start type c inside).EndsWithin n := by
  unfold typeSuffixes
  split
  · exact .ok within
  next past found =>
  have := past.less
  have within := depth_mark?_le found (by decide) within
  split
  · next closed found =>
      have := closed.less
      exact .lax (.go (.go (endsWithin_typeSuffixes _ _ _
        (depth_mark?_le found (by decide) within))))
  · refine .lax (.go (.andThen (ends.type _ _ within) fun _ d less within => ?_))
    refine .andThen (endsWithin_expectMark within (by decide)) fun _ e less within => ?_
    exact endsWithin_typeSuffixes _ _ _ within
termination_by c.remaining

theorem endsWithin_suffixedType (inside) : (rules.suffixedType c inside).EndsWithin n :=
  .andThen (endsWithin_primaryType ends within _) fun _ _ _ within =>
    endsWithin_typeSuffixes ends _ _ _ within

theorem endsWithin_skipConstraint (inside) : (rules.skipConstraint c inside).EndsWithin n := by
  unfold skipConstraint
  split
  · next past found =>
      refine .ite (fun _ => .ok within) fun _ => .lax (.map (.go ?_) fun _ _ => id)
      exact ends.typeOperand _ _ (depth_keyword?_le found within)
  · exact .ok within

theorem endsWithin_operandType (inside) : (rules.operandType c inside).EndsWithin n := by
  unfold operandType
  have suffixed := endsWithin_suffixedType ends within inside
  split
  · exact suffixed
  next past isNext =>
  have rest (other : past.token.kind ≠ .mark .lbrace) := depth_rest_le isNext other within
  dsimp only
  split
  · next kind =>
      refine .ite (fun _ => .go (.andThen (ends.typeOperand _ _ (rest (by simp [kind]))) ?_))
        fun _ => suffixed
      exact fun _ _ _ within => .ok within
  · next kind =>
      exact .ite (fun _ => .go (ends.typeOperand _ _ (rest (by simp [kind])))) fun _ => suffixed
  · next kind =>
      split
      · next symbol found => exact .go (.go (.ok (depth_name?_le found (rest (by simp [kind])))))
      · exact suffixed
  · next kind =>
      split
      · next second isSecond =>
          split
          · next name isName =>
              have within := depth_rest_le isSecond (by simp [isName]) (rest (by simp [kind]))
              exact .go (.go (.bind (endsWithin_skipConstraint ends within _)
                fun _ _ _ within => .ok within))
          · exact suffixed
      · exact suffixed
  · exact suffixed

omit ends within in
theorem endsWithin_furtherMembers {sign : Mark} (noBrace : sign ≠ .lbrace)
    {member : (c : Cursor) → c.remaining ≤ limit.remaining → Outcome true c TypeExpression}
    (each : ∀ c inside, c.depth ≤ n → (member c inside).EndsWithin n)
    (earlier : List TypeExpression) {c : Cursor} (inside) (within : c.depth ≤ n) :
    (furtherMembers sign member earlier c inside).EndsWithin n := by
  unfold furtherMembers
  split
  · next past found =>
      have := past.less
      exact .lax (.go (.andThen (each _ _ (depth_mark?_le found noBrace within))
        fun _ _ _ within => endsWithin_furtherMembers noBrace each _ _ within))
  · exact .ok within
termination_by c.remaining

theorem endsWithin_intersectionType (inside) :
    (rules.intersectionType c inside).EndsWithin n :=
  .bind (endsWithin_optionalMark within (by decide)) fun _ _ _ within =>
    .andThen (endsWithin_operandType ends within _) fun _ _ _ within =>
      .bind (endsWithin_furtherMembers (by decide)
        (fun _ inside within => endsWithin_operandType ends within inside) _ _ within)
        fun _ _ _ within => .ok within

theorem endsWithin_unionType (inside) : (rules.unionType c inside).EndsWithin n :=
  .bind (endsWithin_optionalMark within (by decide)) fun _ _ _ within =>
    .andThen (endsWithin_intersectionType ends within _) fun _ _ _ within =>
      .bind (endsWithin_furtherMembers (by decide)
        (fun _ inside within => endsWithin_intersectionType ends within inside) _ _ within)
        fun _ _ _ within => .ok within

theorem endsWithin_fullType (inside) : (rules.fullType c inside).EndsWithin n := by
  refine .andThen (endsWithin_unionType ends within _) fun type c₁ _ within => ?_
  split
  · exact .ok within
  next past found =>
  refine .lax (.go (.andThen (endsWithin_unionType ends (depth_keyword?_le found within) _)
    fun _ c₂ _ within => ?_))
  refine .andThen (endsWithin_expectMark within (by decide)) fun _ c₃ _ within => ?_
  refine .andThen (ends.type _ _ within) fun _ c₄ _ within => ?_
  refine .andThen (endsWithin_expectMark within (by decide)) fun _ c₅ _ within => ?_
  exact .andThen (ends.type _ _ within) fun _ _ _ within => .ok within

end Types

end Rules

end InjectionCheck
