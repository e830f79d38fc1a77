import InjectionCheck.Proofs.AbreastWords

/-!
# Types and parameters beside each other

The rules of the grammar take the recursive rules as an argument. Here it is shown for the rules
for types and parameters that they do in a file what they do in its revision if the recursive
rules do (`Rules.Abreast`).
-/

set_option autoImplicit false

namespace InjectionCheck

open Cursor Outcome

/-- The recursive rules do in a file what they do in its revision, as long as they stay in front
of the brace. -/
structure Rules.Abreast (r : Revision) {limit limit' : Cursor} (rules : Rules limit)
    (rules' : Rules limit') : Prop where
  assignment : ∀ {c c'} inside inside', r.Abreast c c' →
    Outcome.Abreast r (SameUnder Expression.unplaced) (rules.assignment c inside)
      (rules'.assignment c' inside')
  expression : ∀ {c c'} inside inside', r.Abreast c c' →
    Outcome.Abreast r (SameUnder Expression.unplaced) (rules.expression c inside)
      (rules'.expression c' inside')
  binary : ∀ least {c c'} inside inside', r.Abreast c c' →
    Outcome.Abreast r (SameUnder Expression.unplaced) (rules.binary least c inside)
      (rules'.binary least c' inside')
  unary : ∀ {c c'} inside inside', r.Abreast c c' →
    Outcome.Abreast r (SameUnder Expression.unplaced) (rules.unary c inside)
      (rules'.unary c' inside')
  construction : ∀ {c c'} inside inside', r.Abreast c c' →
    Outcome.Abreast r (SameUnder Expression.unplaced) (rules.construction c inside)
      (rules'.construction c' inside')
  type : ∀ {c c'} inside inside', r.Abreast c c' →
    Outcome.Abreast r (SameUnder TypeExpression.unplaced) (rules.type c inside)
      (rules'.type c' inside')
  typeOperand : ∀ {c c'} inside inside', r.Abreast c c' →
    Outcome.Abreast r (SameUnder TypeExpression.unplaced) (rules.typeOperand c inside)
      (rules'.typeOperand c' inside')
  /-- Type arguments are read in the same way whatever bounds the rules. -/
  typeArguments : ∀ c inside, rules.typeArguments c inside = c.typeArguments
  typeArguments' : ∀ c inside, rules'.typeArguments c inside = c.typeArguments

namespace Rules

variable {r : Revision} {limit limit' : Cursor} {rules : Rules limit} {rules' : Rules limit'}

section Parts

variable (same : rules.Abreast r rules') {c c' : Cursor} (abreast : r.Abreast c c')

include same abreast

theorem abreast_spreadable (inside inside') :
    Outcome.Abreast r (SameUnder Expression.unplaced) (rules.spreadable c inside)
      (rules'.spreadable c' inside') := by
  unfold spreadable
  refine abreast.mark_cases (same.assignment _ _ abreast) (fun past past' rests => ?_) .ellipsis
    (by decide)
  refine .go ((same.assignment _ _ rests).andThen fun _ _ behind related => .ok behind ?_)
  simp only [SameUnder, Expression.unplaced, ExpressionForm.unplaced, related]

theorem abreast_arguments (inside inside') :
    Outcome.Abreast r (SameUnder (List.map Expression.unplaced)) (rules.arguments c inside)
      (rules'.arguments c' inside') := by
  unfold arguments
  refine (abreast_expectMark abreast .lparen).andThen fun {token token' _ _} _ _ behind _ => ?_
  exact abreast_elements ⟨.lparen, token.span⟩ ⟨.lparen, token'.span⟩ rfl .rparen (by decide)
    (fun related => related.inside (by rfl)) (fun _ _ more => abreast_spreadable same more _ _) rfl
    behind _ _

theorem abreast_optionalArguments (inside inside') :
    Outcome.Abreast r (SameUnder (List.map Expression.unplaced)) (rules.optionalArguments c inside)
      (rules'.optionalArguments c' inside') := by
  unfold optionalArguments
  rw [abreast.seesMark]
  exact .ite (fun _ => .lax (abreast_arguments same abreast _ _)) fun _ => .ok abreast rfl

end Parts

/-! ## Decorators -/

theorem abreast_lastPart {c c' : Cursor} (abreast : r.Abreast c c') (name : String) :
    Outcome.Abreast r Eq (lastPart name c) (lastPart name c') := by
  unfold lastPart
  refine abreast.mark_cases (.ok abreast rfl) (fun past past' rests => ?_) .dot (by decide)
  have := past.less
  refine .lax (.go ((abreast_properName rests).andThen fun _ _ behind related => ?_))
  rw [NameUse.name_eq related]
  exact abreast_lastPart behind _
termination_by c.remaining

section Decorators

variable (same : rules.Abreast r rules')

include same

theorem abreast_decoratorAfter {c c' : Cursor} (abreast : r.Abreast c c') (sign sign' : Span)
    (inside inside') :
    Outcome.Abreast r (SameUnder Decorator.unplaced) (rules.decoratorAfter sign c inside)
      (rules'.decoratorAfter sign' c' inside') := by
  unfold decoratorAfter
  refine (abreast_expectName abreast).andThen fun _ _ rests₁ related => ?_
  rw [NameUse.name_eq related]
  refine (abreast_lastPart rests₁ _).bind fun _ _ rests₂ sameName => ?_
  refine (abreast_skipAnglesIfAny rests₂).bind fun _ _ rests₃ _ => ?_
  refine (abreast_optionalArguments same rests₃ _ _).bind fun _ _ rests₄ sameArguments => ?_
  refine .ok rests₄ ?_
  simp only [SameUnder, Decorator.unplaced, Expression.unplacedAll_eq_map, sameName, sameArguments]

theorem abreast_decorators {c c' : Cursor} (abreast : r.Abreast c c')
    {earlier earlier' : List Decorator}
    (before : SameUnder (List.map Decorator.unplaced) earlier earlier') (inside inside') :
    Outcome.Abreast r (SameUnder (List.map Decorator.unplaced)) (rules.decorators earlier c inside)
      (rules'.decorators earlier' c' inside') := by
  unfold decorators
  refine abreast.mark_cases (.ok abreast ?none) (fun past past' rests => ?some) .at (by decide)
  case none => rw [SameUnder, List.map_reverse, List.map_reverse, before]
  case some =>
    have := past.less
    refine .lax (.go ((abreast_decoratorAfter same rests _ _ _ _).andThen
      fun _ _ behind related => ?_))
    refine abreast_decorators behind ?_ _ _
    rw [SameUnder, List.map_cons, List.map_cons, related, before]
termination_by c.remaining

end Decorators

/-! ## Parameters -/

theorem abreast_parameterName {c c' : Cursor} (abreast : r.Abreast c c') :
    Outcome.Abreast r Eq (parameterName c) (parameterName c') := by
  unfold parameterName
  refine abreast.next_cases (.fail abreast (abreast.expected _)) fun past past' step => ?_
  dsimp only
  rw [step.kind]
  split
  · exact .step step fun rests => .ok rests rfl
  · exact .step step fun rests => .ok rests rfl
  · exact .map (abreast_skipGroup abreast) fun _ => rfl
  · exact .map (abreast_skipGroup abreast) fun _ => rfl
  · exact .fail abreast (abreast.expected _)

section Parameters

variable (same : rules.Abreast r rules') {c c' : Cursor} (abreast : r.Abreast c c')

include same abreast

theorem abreast_ascription (inside inside') :
    Outcome.Abreast r (SameUnder (Option.map TypeExpression.unplaced)) (rules.ascription c inside)
      (rules'.ascription c' inside') := by
  unfold ascription
  refine abreast.mark_cases (.ok abreast rfl) (fun past past' rests => ?_) .colon (by decide)
  refine .lax (.map (.go (same.type _ _ rests)) fun related => ?_)
  exact congrArg some related

theorem abreast_initial (inside inside') :
    Outcome.Abreast r (SameUnder (Option.map Expression.unplaced)) (rules.initial c inside)
      (rules'.initial c' inside') := by
  unfold initial
  refine abreast.mark_cases (.ok abreast rfl) (fun past past' rests => ?_) .eq (by decide)
  refine .lax (.map (.go (same.assignment _ _ rests)) fun related => ?_)
  exact congrArg some related

theorem abreast_parameter (inside inside') :
    Outcome.Abreast r (SameUnder Parameter.unplaced) (rules.parameter c inside)
      (rules'.parameter c' inside') := by
  unfold parameter
  refine (abreast_decorators same abreast rfl _ _).bind fun _ _ rests₁ sameDecorators => ?_
  refine (abreast_modifiers rests₁ .none).bind fun _ _ rests₂ sameModifiers => ?_
  refine (abreast_optionalMark rests₂ .ellipsis).bind fun _ _ rests₃ sameRest => ?_
  refine (abreast_parameterName rests₃).andThen fun _ _ rests₄ sameName => ?_
  refine (abreast_optionalMark rests₄ .question).bind fun _ _ rests₅ sameOptional => ?_
  refine (abreast_ascription same rests₅ _ _).bind fun _ _ rests₆ sameType => ?_
  refine (abreast_initial same rests₆ _ _).bind fun {value value' _ _} _ _ rests₇ sameValue => ?_
  have sameDefault : value.isSome = value'.isSome := by
    simpa using congrArg Option.isSome sameValue
  refine .ok rests₇ ?_
  simp only [SameUnder, Parameter.unplaced, Decorator.unplacedAll_eq_map,
    TypeExpression.unplacedIfAny_eq_map, sameDecorators, sameModifiers, sameRest, sameName,
    sameOptional, sameType, sameDefault]

theorem abreast_parameters (inside inside') :
    Outcome.Abreast r (SameUnder (List.map Parameter.unplaced)) (rules.parameters c inside)
      (rules'.parameters c' inside') := by
  unfold parameters
  refine (abreast_expectMark abreast .lparen).andThen fun {token token' _ _} _ _ behind _ => ?_
  exact abreast_elements ⟨.lparen, token.span⟩ ⟨.lparen, token'.span⟩ rfl .rparen (by decide)
    (fun related => related.inside (by rfl)) (fun _ _ more => abreast_parameter same more _ _) rfl
    behind _ _

end Parameters

end Rules

/-! ## Names of types -/

namespace Cursor

variable {r : Revision}

theorem abreast_skipQualifiedTail {c c' : Cursor} (abreast : r.Abreast c c') :
    Outcome.Abreast r Eq c.skipQualifiedTail c'.skipQualifiedTail := by
  unfold skipQualifiedTail
  refine abreast.mark_cases (abreast_skipAnglesIfAny abreast) (fun past past' rests => ?_) .dot
    (by decide)
  have := past.less
  refine .lax (.go ((abreast_propertyName rests).andThen fun _ _ behind _ => ?_))
  exact abreast_skipQualifiedTail behind
termination_by c.remaining

variable {c c' : Cursor} (abreast : r.Abreast c c')

include abreast

theorem abreast_importedType (start start' : Span) :
    Outcome.Abreast r (SameUnder TypeExpression.unplaced) (importedType start c)
      (importedType start' c') := by
  unfold importedType
  refine (abreast_skipGroup abreast).andThen fun _ _ rests₁ _ => ?_
  exact (abreast_skipQualifiedTail rests₁).bind fun _ _ rests₂ _ => .ok rests₂ rfl

theorem abreast_valueType (start start' : Span) :
    Outcome.Abreast r (SameUnder TypeExpression.unplaced) (valueType start c)
      (valueType start' c') := by
  unfold valueType
  refine abreast.keyword_cases ?_
    (fun past past' rests => .go (abreast_importedType rests start start')) .import_
  refine (abreast_expectName abreast).andThen fun _ _ rests related => ?_
  rw [rests.seesMark, NameUse.name_eq related]
  refine .ite (fun _ => ?_) fun _ => ?_
  · exact (abreast_skipQualifiedTail rests).bind fun _ _ behind _ => .ok behind rfl
  · exact (abreast_skipAnglesIfAny rests).bind fun _ _ behind _ => .ok behind rfl

end Cursor

namespace Rules

variable {r : Revision} {limit limit' : Cursor} {rules : Rules limit} {rules' : Rules limit'}

section Functions

variable (same : rules.Abreast r rules') {c c' : Cursor} (abreast : r.Abreast c c')

include same abreast

theorem abreast_returnType (inside inside') :
    Outcome.Abreast r (SameUnder TypeExpression.unplaced) (rules.returnType c inside)
      (rules'.returnType c' inside') := by
  have plain := same.type inside inside' abreast
  unfold returnType
  refine abreast.next_cases plain fun first first' step => ?_
  dsimp only
  rw [step.kind]
  obtain rests | ⟨brace, -⟩ := step.rests
  · refine rests.next_cases plain fun second second' step' => ?_
    dsimp only
    rw [step'.kind]
    refine .ite (fun asserts => ?_) fun _ => .ite (fun predicate => ?_) fun _ => plain
    · have behind := step'.abreast fun brace => by simp [brace, Kind.isPredicateSubject] at asserts
      refine behind.name_cases (.go (.go (.ok behind rfl))) (fun past past' last => ?_) "is"
      exact .go (.go (.go ((same.type _ _ last).andThen fun _ _ ends _ => .ok ends rfl)))
    · have behind := step'.abreast fun brace => by simp [brace] at predicate
      exact .go (.go ((same.type _ _ behind).andThen fun _ _ ends _ => .ok ends rfl))
  · -- a brace starts neither an assertion nor a predicate, whatever stands behind it
    rw [brace]
    cases first.rest.next? <;> cases first'.rest.next? <;>
      simpa [Kind.isPredicateSubject] using plain

theorem abreast_resultAscription (inside inside') :
    Outcome.Abreast r (SameUnder (Option.map TypeExpression.unplaced))
      (rules.resultAscription c inside) (rules'.resultAscription c' inside') := by
  unfold resultAscription
  refine abreast.mark_cases (.ok abreast rfl) (fun past past' rests => ?_) .colon (by decide)
  exact .lax (.map (.go (abreast_returnType same rests _ _)) fun related => congrArg some related)

theorem abreast_typeArguments (inside inside') :
    Outcome.Abreast r (SameUnder (List.map TypeExpression.unplaced)) (rules.typeArguments c inside)
      (rules'.typeArguments c' inside') := by
  unfold typeArguments
  refine (abreast_expectMark abreast .lt).andThen fun {token token' _ _} _ _ behind _ => ?_
  exact abreast_elements ⟨.lt, token.span⟩ ⟨.lt, token'.span⟩ rfl .gt (by decide) id same.type rfl
    behind _ _

theorem abreast_functionType (inside inside') :
    Outcome.Abreast r (SameUnder TypeExpression.unplaced) (rules.functionType c inside)
      (rules'.functionType c' inside') := by
  unfold functionType
  refine (abreast_skipAnglesIfAny abreast).bind fun _ _ rests₁ _ => ?_
  refine (abreast_parameters same rests₁ _ _).andThen fun _ _ rests₂ sameParameters => ?_
  refine (abreast_expectMark rests₂ .arrow).andThen fun _ _ rests₃ _ => ?_
  refine (abreast_returnType same rests₃ _ _).andThen fun _ _ rests₄ sameResult => ?_
  refine .ok rests₄ ?_
  simp only [SameUnder, typeFrom, TypeExpression.unplaced, TypeForm.unplaced,
    Parameter.unplacedAll_eq_map, sameParameters, sameResult]

end Functions

/-! ## Tuples -/

theorem abreast_skipElementLabel {c c' : Cursor} (abreast : r.Abreast c c') :
    Outcome.Abreast r Eq (skipElementLabel c) (skipElementLabel c') := by
  unfold skipElementLabel
  refine abreast.next_cases (.ok abreast rfl) fun first first' step => ?_
  dsimp only
  rw [step.kind]
  split
  · next text isName =>
      have rests := step.abreast (by simp [isName])
      refine rests.mark_cases ?_ (fun past past' behind => .lax (.go (.go (.ok behind rfl))))
        .colon (by decide)
      dsimp only
      refine rests.mark_cases (.ok abreast rfl) (fun second second' behind => ?_) .question
        (by decide)
      dsimp only
      refine behind.mark_cases (.ok abreast rfl) (fun past past' last => ?_) .colon (by decide)
      exact .lax (.go (.go (.go (.ok last rfl))))
  · exact .ok abreast rfl

section Tuples

variable (same : rules.Abreast r rules') {c c' : Cursor} (abreast : r.Abreast c c')

include same abreast

theorem abreast_tupleElement (inside inside') :
    Outcome.Abreast r (SameUnder TypeExpression.unplaced) (rules.tupleElement c inside)
      (rules'.tupleElement c' inside') := by
  unfold tupleElement
  refine (abreast_optionalMark abreast .ellipsis).bind fun _ _ rests₁ _ => ?_
  refine (abreast_skipElementLabel rests₁).bind fun _ _ rests₂ _ => ?_
  refine (same.type _ _ rests₂).andThen fun _ _ rests₃ sameType => ?_
  exact (abreast_optionalMark rests₃ .question).bind fun _ _ rests₄ _ => .ok rests₄ sameType

theorem abreast_tupleType (inside inside') :
    Outcome.Abreast r (SameUnder TypeExpression.unplaced) (rules.tupleType c inside)
      (rules'.tupleType c' inside') := by
  unfold tupleType
  refine (abreast_expectMark abreast .lbracket).andThen fun {token token' _ _} _ _ rests _ => ?_
  refine (abreast_elements ⟨.lbracket, token.span⟩ ⟨.lbracket, token'.span⟩ rfl .rbracket
    (by decide) id
    (fun _ _ more => abreast_tupleElement same more _ _) rfl rests _ _).andThen
      fun _ _ behind sameMembers => .ok behind ?_
  simp only [SameUnder, typeFrom, TypeExpression.unplaced, TypeForm.unplaced,
    TypeExpression.unplacedAll_eq_map, sameMembers]

end Tuples

/-! ## Members of interfaces and object types -/

theorem abreast_startsSignature {c c' : Cursor} (abreast : r.Abreast c c') :
    startsSignature c' = startsSignature c := by
  rw [startsSignature, startsSignature, abreast.seesMark, abreast.seesMark]

theorem abreast_skipAccessorWord {c c' : Cursor} (abreast : r.Abreast c c') :
    Outcome.Abreast r Eq (skipAccessorWord c) (skipAccessorWord c') := by
  have skipped {d : Cursor} (brace : d.kind? = some (.mark .lbrace)) :
      (skipAccessorWord d).stopped = ⟨.ok false, d⟩ := by
    rw [skipAccessorWord, name?, nextIf?_of_kind brace (by simp), optional_of_kind brace (by simp)]
    split
    · exact stopped_map rfl _
    · rfl
  by_cases brace : c.kind? = some (.mark .lbrace)
  · exact .of_stopped abreast (skipped brace) (skipped (abreast.kind?_eq.trans brace)) rfl
  · unfold skipAccessorWord
    rw [abreast.namesProperty brace]
    refine .ite (fun _ => ?_) fun _ => .ok abreast rfl
    refine abreast.name_cases ?_ (fun past past' rests => .lax (.go (.ok rests rfl))) "get"
    exact .map (abreast_optional abreast _) fun _ => rfl

section Members

variable (same : rules.Abreast r rules')

include same

theorem abreast_skipSignature {c c' : Cursor} (abreast : r.Abreast c c') (inside inside') :
    Outcome.Abreast r Eq (rules.skipSignature c inside) (rules'.skipSignature c' inside') := by
  unfold skipSignature
  refine (abreast_skipAnglesIfAny abreast).bind fun _ _ rests₁ _ => ?_
  refine (abreast_parameters same rests₁ _ _).andThen fun _ _ rests₂ _ => ?_
  exact .map (abreast_resultAscription same rests₂ _ _) fun _ => rfl

theorem abreast_skipComputedMember {c c' : Cursor} (abreast : r.Abreast c c') (inside inside') :
    Outcome.Abreast r Eq (rules.skipComputedMember c inside)
      (rules'.skipComputedMember c' inside') := by
  unfold skipComputedMember
  refine (abreast_skipGroup abreast).andThen fun _ _ rests₁ _ => ?_
  refine (abreast_optionalMark rests₁ .question).bind fun _ _ rests₂ _ => ?_
  rw [abreast_startsSignature rests₂]
  refine .ite (fun _ => .lax (abreast_skipSignature same rests₂ _ _)) fun _ => ?_
  exact .map (abreast_ascription same rests₂ _ _) fun _ => rfl

theorem abreast_namedTypeMember {c c' : Cursor} (abreast : r.Abreast c c') (start start' : Span)
    (readonly : Bool) (inside inside') :
    Outcome.Abreast r (SameUnder TypeMember.unplaced)
      (rules.namedTypeMember start readonly c inside)
      (rules'.namedTypeMember start' readonly c' inside') := by
  unfold namedTypeMember
  refine (abreast_skipAccessorWord abreast).bind fun _ _ rests₁ sameGetter => ?_
  refine (abreast_propertyName rests₁).andThen fun _ _ rests₂ sameName => ?_
  refine (abreast_optionalMark rests₂ .question).bind fun _ _ rests₃ sameOptional => ?_
  dsimp only
  rw [abreast_startsSignature rests₃, sameGetter, sameName.1, sameOptional]
  refine .ite (fun _ => ?_) fun _ => ?_
  · refine (abreast_skipAnglesIfAny rests₃).bind fun _ _ rests₄ _ => .lax ?_
    refine (abreast_parameters same rests₄ _ _).andThen fun _ _ rests₅ sameParameters => ?_
    refine (abreast_resultAscription same rests₅ _ _).bind fun _ _ rests₆ sameResult => ?_
    refine .ok rests₆ ?_
    simp only [SameUnder, TypeMember.unplaced, apply_ite TypeMemberKind.unplaced,
      TypeMemberKind.unplaced, Parameter.unplacedAll_eq_map, TypeExpression.unplacedIfAny_eq_map,
      sameParameters, sameResult]
  · refine (abreast_ascription same rests₃ _ _).bind fun _ _ rests₄ sameType => .ok rests₄ ?_
    simp only [SameUnder, TypeMember.unplaced, TypeMemberKind.unplaced,
      TypeExpression.unplacedIfAny_eq_map, sameType]

theorem abreast_typeMember {c c' : Cursor} (abreast : r.Abreast c c') (inside inside') :
    Outcome.Abreast r (SameUnder (Option.map TypeMember.unplaced)) (rules.typeMember c inside)
      (rules'.typeMember c' inside') := by
  unfold typeMember
  rw [abreast_startsSignature abreast]
  refine .ite (fun _ => .map (abreast_skipSignature same abreast _ _) fun _ => rfl) fun _ => ?_
  refine abreast.keyword_cases ?_ (fun past past' rests => ?_) .new_
  · refine (abreast_optionalModifier abreast "readonly").bind fun _ _ rests readonly => ?_
    rw [rests.seesMark, readonly]
    refine .ite (fun _ => ?_) fun _ => ?_
    · exact .map (abreast_skipComputedMember same rests _ _) fun _ => rfl
    · exact .map (abreast_namedTypeMember same rests _ _ _ _ _) fun related => congrArg some related
  · dsimp only
    rw [abreast_startsSignature rests]
    refine .ite (fun _ => ?_) fun _ => ?_
    · exact .go (.map (abreast_skipSignature same rests _ _) fun _ => rfl)
    · exact .map (abreast_namedTypeMember same abreast _ _ _ _ _) fun related =>
        congrArg some related

omit same in
theorem abreast_skipSeparators {c c' : Cursor} (abreast : r.Abreast c c') :
    Outcome.Abreast r Eq (skipSeparators c) (skipSeparators c') := by
  unfold skipSeparators
  refine abreast.nextIf_cases (.ok abreast rfl) fun past past' _ step => ?_
  have := past.less
  exact .lax (.step step fun rests => abreast_skipSeparators rests)
termination_by c.remaining

theorem abreast_typeMembersAfter {c c' : Cursor} (abreast : r.Abreast c c')
    (opening opening' : Opening) (marks : opening.mark = opening'.mark)
    {earlier earlier' : List TypeMember}
    (before : SameUnder (List.map TypeMember.unplaced) earlier earlier') (inside inside') :
    Outcome.Abreast r (SameUnder (List.map TypeMember.unplaced))
      (rules.typeMembersAfter opening earlier c inside)
      (rules'.typeMembersAfter opening' earlier' c' inside') := by
  unfold typeMembersAfter
  refine (abreast_skipSeparators abreast).bind fun {_ _ d d'} atMost _ rests _ => ?_
  refine rests.mark_cases ?none (fun past past' behind => .go (.ok behind ?some)) .rbrace
    (by decide)
  case some => rw [SameUnder, List.map_reverse, List.map_reverse, before]
  case none =>
    dsimp only
    rw [rests.atEnd]
    refine .ite (fun _ => .fail rests (rests.unclosed marks _)) fun _ => ?_
    refine (abreast_typeMember same rests _ _).andThen fun {member member' e e'} less _ behind
      sameMember => .lax ?_
    have : e.remaining < c.remaining := Nat.lt_of_lt_of_le less atMost
    refine abreast_typeMembersAfter behind opening opening' marks ?_ _ _
    have sameList := congrArg Option.toList sameMember
    rw [Option.toList_map, Option.toList_map] at sameList
    rw [SameUnder, List.map_append, List.map_append, sameList, before]
termination_by c.remaining

theorem abreast_typeMembers {c c' : Cursor} (abreast : r.Abreast c c') (inside inside') :
    Outcome.Abreast r (SameUnder (List.map TypeMember.unplaced)) (rules.typeMembers c inside)
      (rules'.typeMembers c' inside') := by
  unfold typeMembers
  refine (abreast_expectMark abreast .lbrace).andThen fun {token token' _ _} _ _ rests _ => .lax ?_
  exact abreast_typeMembersAfter same rests ⟨.lbrace, token.span⟩ ⟨.lbrace, token'.span⟩ rfl rfl _ _

end Members

/-! ## Types without operators -/

section Primary

variable (same : rules.Abreast r rules') {c c' : Cursor} (abreast : r.Abreast c c')

include same abreast

theorem abreast_namedTypeAfter (start start' : Span) (name : String) (inside inside') :
    Outcome.Abreast r (SameUnder TypeExpression.unplaced)
      (rules.namedTypeAfter start name c inside)
      (rules'.namedTypeAfter start' name c' inside') := by
  unfold namedTypeAfter
  rw [abreast.seesMark, abreast.seesMark]
  refine .ite (fun _ => ?_) fun _ => .ite (fun _ => ?_) fun _ => .ok abreast rfl
  · exact (abreast_skipQualifiedTail abreast).bind fun _ _ rests _ => .ok rests rfl
  · refine (abreast_typeArguments same abreast _ _).lax.bind fun _ _ rests sameArguments =>
      .ok rests ?_
    simp only [SameUnder, typeFrom, TypeExpression.unplaced, TypeForm.unplaced,
      TypeExpression.unplacedAll_eq_map, sameArguments]

theorem abreast_constructorType (start start' : Span) (inside inside') :
    Outcome.Abreast r (SameUnder TypeExpression.unplaced) (rules.constructorType start c inside)
      (rules'.constructorType start' c' inside') :=
  (abreast_functionType same abreast _ _).andThen fun _ _ rests _ => .ok rests rfl

/-- An object type or a mapped type at a brace that opens. -/
theorem abreast_objectType {past : c.Past} {past' : c'.Past} (step : r.Step past past')
    (brace : past.token.kind = .mark .lbrace) (start start' : Span) (inside inside') :
    Outcome.Abreast r (SameUnder TypeExpression.unplaced)
      (if Lookahead.startsMappedType c.ahead then
        c.skipGroup.andThen fun _ d _ => .ok (d.typeFrom start .unmodelled)
      else
        (rules.typeMembers c inside).andThen fun members d _ =>
          .ok (d.typeFrom start (.object members)))
      (if Lookahead.startsMappedType c'.ahead then
        c'.skipGroup.andThen fun _ d _ => .ok (d.typeFrom start' .unmodelled)
      else
        (rules'.typeMembers c' inside').andThen fun members d _ =>
          .ok (d.typeFrom start' (.object members))) := by
  obtain rests | ⟨-, entered⟩ := step.rests
  · rw [step.ahead, step.ahead',
      Lookahead.startsMappedType_varies past.token past'.token rests.varies]
    refine .ite (fun _ => ?_) fun _ => ?_
    · exact (abreast_skipGroup abreast).andThen fun _ _ behind _ => .ok behind rfl
    · refine (abreast_typeMembers same abreast _ _).andThen fun _ _ behind sameMembers =>
        .ok behind ?_
      simp only [SameUnder, typeFrom, TypeExpression.unplaced, TypeForm.unplaced,
        TypeMember.unplacedAll_eq_map, sameMembers]
  · -- both kinds of types pass the brace, whichever it is
    refine .inl ?_
    split
    · exact (entered_skipGroup step brace entered).mono (reaches_andThen _ _)
    · exact ((entered_expectMark step brace entered).mono (reaches_andThen _ _)).mono
        (reaches_andThen _ _)

theorem abreast_primaryType (inside inside') :
    Outcome.Abreast r (SameUnder TypeExpression.unplaced) (rules.primaryType c inside)
      (rules'.primaryType c' inside') := by
  unfold primaryType
  refine abreast.next_cases (.fail abreast (abreast.expected _)) fun past past' step => ?_
  dsimp only
  rw [step.kind]
  split
  · next kind =>
      rw [Lookahead.startsFunctionType_varies abreast.varies]
      refine .ite (fun _ => abreast_functionType same abreast _ _) fun _ => ?_
      refine .step step fun rests => (same.type _ _ rests).andThen fun _ _ behind sameType => ?_
      exact .map (abreast_expectMark behind .rparen) fun _ => sameType
  · exact abreast_functionType same abreast _ _
  · exact .step step fun rests => abreast_constructorType same rests _ _ _ _
  · next brace => exact abreast_objectType same abreast step brace _ _ _ _
  · exact abreast_tupleType same abreast _ _
  · exact .step step fun rests => .ok rests rfl
  · exact .step step fun rests => .ok rests rfl
  · exact .step step fun rests => .ok rests rfl
  · exact .step step fun rests => .ok rests rfl
  · next kind =>
      have rests := step.abreast (by simp [kind])
      refine rests.nextIf_cases (.fail abreast (abreast.expected _))
        fun number number' _ second => ?_
      exact .go (.step second fun behind => .ok behind rfl)
  · exact .step step fun rests => .ok rests rfl
  · exact .step step fun rests => .ok rests rfl
  · exact .step step fun rests => .ok rests rfl
  · exact .step step fun rests => .ok rests rfl
  · exact .step step fun rests => abreast_valueType rests _ _
  · exact .step step fun rests => abreast_importedType rests _ _
  · next kind =>
      have rests := step.abreast (by simp [kind])
      refine rests.keyword_cases ?_ (fun new new' behind => ?_) .new_
      · exact .go (abreast_namedTypeAfter same rests _ _ _ _ _)
      · exact .go (.go (abreast_constructorType same behind _ _ _ _))
  · exact .step step fun rests => abreast_namedTypeAfter same rests _ _ _ _ _
  · exact .fail abreast (abreast.expected _)

end Primary

/-! ## Operators -/

section Operators

variable (same : rules.Abreast r rules')

include same

theorem abreast_typeSuffixes {c c' : Cursor} (abreast : r.Abreast c c') (start start' : Span)
    {type type' : TypeExpression} (before : SameUnder TypeExpression.unplaced type type')
    (inside inside') :
    Outcome.Abreast r (SameUnder TypeExpression.unplaced) (rules.typeSuffixes start type c inside)
      (rules'.typeSuffixes start' type' c' inside') := by
  unfold typeSuffixes
  refine abreast.mark_cases (.ok abreast before) (fun past past' rests => ?_) .lbracket (by decide)
  have := past.less
  dsimp only
  refine rests.mark_cases ?_ (fun closed closed' behind => ?_) .rbracket (by decide)
  · refine .lax (.go ((same.type _ _ rests).andThen fun _ _ rests₁ _ => ?_))
    refine (abreast_expectMark rests₁ .rbracket).andThen fun _ _ rests₂ _ => ?_
    exact abreast_typeSuffixes rests₂ _ _ (by rfl) _ _
  · have := closed.less
    refine .lax (.go (.go (abreast_typeSuffixes behind _ _ ?_ _ _)))
    simp only [SameUnder, typeFrom, TypeExpression.unplaced, TypeForm.unplaced, before]
termination_by c.remaining

theorem abreast_suffixedType {c c' : Cursor} (abreast : r.Abreast c c') (inside inside') :
    Outcome.Abreast r (SameUnder TypeExpression.unplaced) (rules.suffixedType c inside)
      (rules'.suffixedType c' inside') :=
  (abreast_primaryType same abreast _ _).andThen fun _ _ rests sameType =>
    abreast_typeSuffixes same rests _ _ sameType _ _

theorem abreast_skipConstraint {c c' : Cursor} (abreast : r.Abreast c c') (inside inside') :
    Outcome.Abreast r Eq (rules.skipConstraint c inside) (rules'.skipConstraint c' inside') := by
  unfold skipConstraint
  refine abreast.keyword_cases (.ok abreast rfl) (fun past past' rests => ?_) .extends_
  dsimp only
  rw [Lookahead.reachesQuestion_varies rests.varies]
  refine .ite (fun _ => .ok abreast rfl) fun _ => ?_
  exact .lax (.map (.go (same.typeOperand _ _ rests)) fun _ => rfl)

theorem abreast_operandType {c c' : Cursor} (abreast : r.Abreast c c') (inside inside') :
    Outcome.Abreast r (SameUnder TypeExpression.unplaced) (rules.operandType c inside)
      (rules'.operandType c' inside') := by
  have plain := abreast_suffixedType same abreast inside inside'
  unfold operandType
  refine abreast.next_cases plain fun past past' step => ?_
  dsimp only
  rw [step.kind]
  split
  · next isWord =>
      have rests := step.abreast (by simp [isWord])
      rw [rests.kind?_eq]
      refine .ite (fun _ => ?_) fun _ => plain
      exact .go ((same.typeOperand _ _ rests).andThen fun _ _ behind _ => .ok behind rfl)
  · next isWord =>
      have rests := step.abreast (by simp [isWord])
      rw [rests.kind?_eq]
      exact .ite (fun _ => .go (same.typeOperand _ _ rests)) fun _ => plain
  · next isWord =>
      have rests := step.abreast (by simp [isWord])
      refine rests.name_cases plain (fun symbol symbol' behind => ?_) "symbol"
      exact .go (.go (.ok behind rfl))
  · next isWord =>
      have rests := step.abreast (by simp [isWord])
      refine rests.next_cases plain fun second second' step' => ?_
      dsimp only
      rw [step'.kind]
      split
      · refine .go (.step step' fun behind => (abreast_skipConstraint same behind _ _).bind
          fun _ _ last _ => ?_)
        exact .ok last rfl
      · exact plain
  · exact plain

omit same in
theorem abreast_furtherMembers {c c' : Cursor} (abreast : r.Abreast c c') (sign : Mark)
    (noBrace : sign ≠ .lbrace)
    {member : (c : Cursor) → c.remaining ≤ limit.remaining → Outcome true c TypeExpression}
    {member' : (c : Cursor) → c.remaining ≤ limit'.remaining → Outcome true c TypeExpression}
    (each : ∀ {c c'} inside inside', r.Abreast c c' →
      Outcome.Abreast r (SameUnder TypeExpression.unplaced) (member c inside) (member' c' inside'))
    {earlier earlier' : List TypeExpression}
    (before : SameUnder (List.map TypeExpression.unplaced) earlier earlier') (inside inside') :
    Outcome.Abreast r (SameUnder (List.map TypeExpression.unplaced))
      (furtherMembers sign member earlier c inside)
      (furtherMembers sign member' earlier' c' inside') := by
  unfold furtherMembers
  refine abreast.mark_cases (.ok abreast ?none) (fun past past' rests => ?some) sign noBrace
  case none => rw [SameUnder, List.map_reverse, List.map_reverse, before]
  case some =>
    have := past.less
    refine .lax (.go ((each _ _ rests).andThen fun _ _ behind sameType => ?_))
    refine abreast_furtherMembers behind sign noBrace each ?_ _ _
    rw [SameUnder, List.map_cons, List.map_cons, sameType, before]
termination_by c.remaining

theorem abreast_intersectionType {c c' : Cursor} (abreast : r.Abreast c c') (inside inside') :
    Outcome.Abreast r (SameUnder TypeExpression.unplaced) (rules.intersectionType c inside)
      (rules'.intersectionType c' inside') := by
  unfold intersectionType
  refine (abreast_optionalMark abreast .amp).bind fun _ _ rests₁ _ => ?_
  refine (abreast_operandType same rests₁ _ _).andThen fun _ _ rests₂ sameFirst => ?_
  refine (abreast_furtherMembers rests₂ .amp (by decide)
    (fun _ _ more => abreast_operandType same more _ _)
    (by simp only [SameUnder, List.map_cons, List.map_nil, sameFirst]) _ _).bind
      fun {members members' _ _} _ _ rests₃ sameMembers => .ok rests₃ ?_
  have sameLength : members.length = members'.length := by
    simpa using congrArg List.length sameMembers
  rw [sameLength]
  split
  · exact sameFirst
  · simp only [SameUnder, typeFrom, TypeExpression.unplaced, TypeForm.unplaced,
      TypeExpression.unplacedAll_eq_map, sameMembers]

theorem abreast_unionType {c c' : Cursor} (abreast : r.Abreast c c') (inside inside') :
    Outcome.Abreast r (SameUnder TypeExpression.unplaced) (rules.unionType c inside)
      (rules'.unionType c' inside') := by
  unfold unionType
  refine (abreast_optionalMark abreast .pipe).bind fun _ _ rests₁ sameLeading => ?_
  refine (abreast_intersectionType same rests₁ _ _).andThen fun {first first' _ _} _ _ rests₂
    sameFirst => ?_
  refine (abreast_furtherMembers rests₂ .pipe (by decide)
    (fun _ _ more => abreast_intersectionType same more _ _)
    (by simp only [SameUnder, List.map_cons, List.map_nil, sameFirst]) _ _).bind
      fun {members members' _ _} _ _ rests₃ sameMembers => .ok rests₃ ?_
  have sameLength : members.length = members'.length := by
    simpa using congrArg List.length sameMembers
  rw [sameLength, sameLeading]
  split
  · split
    · obtain ⟨form, span⟩ := first
      obtain ⟨form', span'⟩ := first'
      exact sameFirst
    · exact sameFirst
  · simp only [SameUnder, typeFrom, TypeExpression.unplaced, TypeForm.unplaced,
      TypeExpression.unplacedAll_eq_map, sameMembers]

theorem abreast_fullType {c c' : Cursor} (abreast : r.Abreast c c') (inside inside') :
    Outcome.Abreast r (SameUnder TypeExpression.unplaced) (rules.fullType c inside)
      (rules'.fullType c' inside') := by
  unfold fullType
  refine (abreast_unionType same abreast _ _).andThen fun _ _ rests₁ sameType => ?_
  refine rests₁.keyword_cases (.ok rests₁ sameType) (fun past past' behind => ?_) .extends_
  refine .lax (.go ((abreast_unionType same behind _ _).andThen fun _ _ rests₂ _ => ?_))
  refine (abreast_expectMark rests₂ .question).andThen fun _ _ rests₃ _ => ?_
  refine (same.type _ _ rests₃).andThen fun _ _ rests₄ _ => ?_
  refine (abreast_expectMark rests₄ .colon).andThen fun _ _ rests₅ _ => ?_
  exact (same.type _ _ rests₅).andThen fun _ _ rests₆ _ => .ok rests₆ rfl

end Operators

end Rules

end InjectionCheck
