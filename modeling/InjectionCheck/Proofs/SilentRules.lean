import InjectionCheck.Grammar.Types

/-!
# Rules that record nothing

A rule that goes on from an error records it, and what is recorded stays, also when the rule is
taken back later. Whether a rule records anything is found out along the rule, with one lemma for
each way in which rules are combined. The rules for words, groups, parameters and types record
nothing if the recursive rules that they are given record nothing (`Rules.Silent`).
-/

set_option autoImplicit false

namespace InjectionCheck

/-- A rule records no errors, whether it succeeds or fails. -/
def Outcome.Silent {α : Type} {moves : Bool} {c : Cursor} (outcome : Outcome moves c α) : Prop :=
  outcome.errors = []

namespace Outcome.Silent

variable {α β : Type} {moves : Bool} {c d : Cursor}

theorem ok {value : α} : (Outcome.ok value : Outcome false c α).Silent := rfl

theorem failed {error : ParseError} {reaches : c.Reaches d} :
    (Outcome.failed error reaches : Outcome moves c α).Silent := rfl

theorem fail {error : ParseError} : (Outcome.fail error : Outcome moves c α).Silent := rfl

theorem lax {outcome : Outcome moves c α} (silent : outcome.Silent) : outcome.lax.Silent := silent

theorem go {past : c.Past} {outcome : Outcome moves past.rest α} (silent : outcome.Silent) :
    (past.go outcome).Silent := silent

theorem following {reaches : c.Reaches d} {outcome : Outcome moves d α} (silent : outcome.Silent) :
    (outcome.following reaches).Silent := silent

/-- What follows a rule that records nothing is recorded as it is. -/
theorem recording_eq {outcome : Outcome moves c α} {earlier : List ParseError}
    (silent : earlier = []) : outcome.recording earlier = outcome := by
  subst silent
  rfl

theorem recording {outcome : Outcome moves c α} {earlier : List ParseError}
    (silent : outcome.Silent) (none : earlier = []) : (outcome.recording earlier).Silent := by
  rw [recording_eq none]
  exact silent

theorem bind {outcome : Outcome false c α}
    {next : (value : α) → (d : Cursor) → d.remaining ≤ c.remaining → Outcome moves d β}
    (first : outcome.Silent) (second : ∀ value d atMost, (next value d atMost).Silent) :
    (outcome.bind next).Silent := by
  obtain ⟨⟨result, d⟩, reaches, moved, errors⟩ := outcome
  cases result with
  | ok value => exact (second value d reaches.remaining_le).following.recording first
  | error error => exact failed.recording first

theorem andThen {outcome : Outcome true c α}
    {next : (value : α) → (d : Cursor) → d.remaining < c.remaining → Outcome moves d β}
    (first : outcome.Silent) (second : ∀ value d less, (next value d less).Silent) :
    (outcome.andThen next).Silent := by
  obtain ⟨⟨result, d⟩, reaches, moved, errors⟩ := outcome
  cases result with
  | ok value => exact recording (second value d (less_of_moved moved)) first
  | error error => exact failed.recording first

/-- An attempt that is given up records nothing if its rule does not. -/
theorem tried {outcome : Outcome moves c α}
    {next : (value : α) → (d : Cursor) → c.Reaches d → d.remaining ≤ c.remaining →
      Outcome false c β} {otherwise : Outcome false c β}
    (first : outcome.Silent)
    (second : ∀ value d reaches atMost, (next value d reaches atMost).Silent)
    (other : otherwise.Silent) : (outcome.tried next otherwise).Silent := by
  obtain ⟨⟨result, d⟩, reaches, moved, errors⟩ := outcome
  cases result with
  | ok value => exact (second value d reaches reaches.remaining_le).recording first
  | error error => exact other.recording first

theorem mapAt {outcome : Outcome moves c α} {change : α → Cursor → β} (silent : outcome.Silent) :
    (outcome.mapAt change).Silent := by
  obtain ⟨⟨result, d⟩, reaches, moved, errors⟩ := outcome
  cases result with
  | ok value => exact silent
  | error error => exact failed.recording silent

theorem map {outcome : Outcome moves c α} {change : α → β} (silent : outcome.Silent) :
    (outcome.map change).Silent :=
  @mapAt α β moves c outcome (fun value _ => change value) silent

theorem mapError {outcome : Outcome moves c α} {change : ParseError → ParseError}
    (silent : outcome.Silent) : (outcome.mapError change).Silent := by
  obtain ⟨⟨result, d⟩, reaches, moved, errors⟩ := outcome
  cases result with
  | ok value => exact silent
  | error error => exact failed.recording silent

theorem ite {condition : Prop} [Decidable condition] {first second : Outcome moves c α}
    (isTrue : first.Silent) (isFalse : second.Silent) :
    (if condition then first else second).Silent := by
  split
  · exact isTrue
  · exact isFalse

end Outcome.Silent

open Outcome

/-! ## Tokens, groups and words -/

namespace Cursor

variable {c : Cursor}

theorem silent_expect (kind : Kind) : (c.expect kind).Silent := by
  unfold expect
  split
  · exact .ite (.go .ok) .fail
  · exact .fail

theorem silent_expectName : c.expectName.Silent := by
  unfold expectName
  split
  · split
    · exact .go .ok
    · exact .fail
  · exact .fail

theorem silent_optional (test : Kind → Bool) : (c.optional test).Silent := by
  unfold optional
  split
  · exact .lax (.go .ok)
  · exact .ok

theorem silent_optionalSemicolon : c.optionalSemicolon.Silent := .map (silent_optional _)

theorem silent_optionalModifier (word : String) : (c.optionalModifier word).Silent :=
  .ite (silent_optional _) .ok

theorem silent_propertyName : c.propertyName.Silent := by
  unfold propertyName
  split
  · split
    · exact .go .ok
    · exact .fail
  · exact .fail

theorem silent_properName : c.properName.Silent := by
  refine .andThen silent_propertyName fun property d _ => ?_
  split
  · exact .ok
  · exact .fail

theorem silent_closeAll (opening : Opening) (outer : Bracket) (brackets : List Bracket)
    (c : Cursor) : (closeAll opening outer brackets c).Silent := by
  unfold closeAll
  split
  · exact .ok
  split
  · exact .fail
  next past _ =>
  have := past.less
  split
  · exact .lax (.go (silent_closeAll _ _ _ past.rest))
  split
  · exact .ite (.lax (.go (silent_closeAll _ _ _ past.rest))) .fail
  · exact .lax (.go (silent_closeAll _ _ _ past.rest))
termination_by c.remaining

theorem silent_restOfGroup (bracket : Bracket) (opened : Span) :
    (restOfGroup bracket opened c).Silent :=
  .bind (silent_closeAll _ _ _ c) fun _ _ _ => .ok

theorem silent_skipGroup : c.skipGroup.Silent := by
  unfold skipGroup
  split
  · exact .fail
  split
  · exact .go (silent_restOfGroup _ _)
  · exact .fail

theorem silent_closeAngles (opening : Opening) (depth : Nat) (c : Cursor) :
    (closeAngles opening depth c).Silent := by
  unfold closeAngles
  split
  · exact .ok
  split
  · exact .fail
  next past _ =>
  have := past.less
  split
  · exact .lax (.go (.bind (silent_restOfGroup _ _) fun _ d _ => silent_closeAngles _ _ d))
  · exact .ite (.lax (.go (silent_closeAngles _ _ past.rest)))
      (.ite (.lax (.go (silent_closeAngles _ _ past.rest)))
        (.lax (.go (silent_closeAngles _ _ past.rest))))
termination_by c.remaining

theorem silent_skipAngles : c.skipAngles.Silent :=
  .andThen (silent_expect _) fun _ d _ => silent_closeAngles _ _ d

theorem silent_skipAnglesIfAny : c.skipAnglesIfAny.Silent := .ite (.lax silent_skipAngles) .ok

theorem silent_modifiers (earlier : Modifiers) (c : Cursor) : (c.modifiers earlier).Silent := by
  unfold modifiers
  split
  · next past _ =>
      have := past.less
      split
      · refine .ite ?_ .ok
        split
        · exact .lax (.go (silent_modifiers _ past.rest))
        · exact .ok
      · exact .ok
  · exact .ok
termination_by c.remaining

theorem silent_skipQualifiedTail (c : Cursor) : c.skipQualifiedTail.Silent := by
  unfold skipQualifiedTail
  split
  · next past _ =>
      have := past.less
      exact .lax (.go (.andThen silent_propertyName fun _ d _ => silent_skipQualifiedTail d))
  · exact silent_skipAnglesIfAny
termination_by c.remaining

theorem silent_importedType (start : Span) : (c.importedType start).Silent :=
  .andThen silent_skipGroup fun _ d _ => .bind (silent_skipQualifiedTail d) fun _ _ _ => .ok

theorem silent_valueType (start : Span) : (c.valueType start).Silent := by
  unfold valueType
  split
  · exact .go (silent_importedType start)
  · refine .andThen silent_expectName fun _ d _ => .ite ?_ ?_
    · exact .bind (silent_skipQualifiedTail d) fun _ _ _ => .ok
    · exact .bind silent_skipAnglesIfAny fun _ _ _ => .ok

end Cursor

open Cursor

/-- The recursive rules record nothing. -/
structure Rules.Silent {limit : Cursor} (rules : Rules limit) : Prop where
  assignment (c : Cursor) (inside) : (rules.assignment c inside).Silent
  expression (c : Cursor) (inside) : (rules.expression c inside).Silent
  binary (least : Nat) (c : Cursor) (inside) : (rules.binary least c inside).Silent
  unary (c : Cursor) (inside) : (rules.unary c inside).Silent
  construction (c : Cursor) (inside) : (rules.construction c inside).Silent
  type (c : Cursor) (inside) : (rules.type c inside).Silent
  typeOperand (c : Cursor) (inside) : (rules.typeOperand c inside).Silent

namespace Rules

variable {limit : Cursor} {rules : Rules limit}

/-! ## Lists, decorators and parameters -/

theorem silent_elements {α : Type} (opening : Opening) (closing : Mark)
    (missing : ParseError → ParseError)
    {element : (c : Cursor) → c.remaining < limit.remaining → Outcome true c α}
    (each : ∀ c inside, (element c inside).Silent) (earlier : List α) (c : Cursor) (inside) :
    (elements opening closing missing element earlier c inside).Silent := by
  unfold elements
  split
  · exact .go .ok
  refine .ite .fail (.andThen (each c inside) fun value d less => ?_)
  split
  · next past _ =>
      have := past.less
      exact .go (silent_elements _ _ _ each _ past.rest _)
  · exact .map (.mapError (silent_expect _))
termination_by c.remaining

theorem silent_lastPart (name : String) (c : Cursor) : (lastPart name c).Silent := by
  unfold lastPart
  split
  · next past _ =>
      have := past.less
      exact .lax (.go (.andThen silent_properName fun _ d _ => silent_lastPart _ d))
  · exact .ok
termination_by c.remaining

theorem silent_parameterName (c : Cursor) : (parameterName c).Silent := by
  unfold parameterName
  split
  · split
    · exact .go .ok
    · exact .go .ok
    · exact .map silent_skipGroup
    · exact .map silent_skipGroup
    · exact .fail
  · exact .fail

section Parameters

variable (silent : rules.Silent)

include silent

theorem silent_spreadable (c : Cursor) (inside) : (rules.spreadable c inside).Silent := by
  unfold spreadable
  split
  · exact .go (.andThen (silent.assignment _ _) fun _ _ _ => .ok)
  · exact silent.assignment c inside

theorem silent_arguments (c : Cursor) (inside) : (rules.arguments c inside).Silent :=
  .andThen (silent_expect _) fun _ d _ =>
    silent_elements _ _ _ (silent_spreadable silent) _ d _

theorem silent_optionalArguments (c : Cursor) (inside) :
    (rules.optionalArguments c inside).Silent :=
  .ite (.lax (silent_arguments silent c _)) .ok

theorem silent_decoratorAfter (sign : Span) (c : Cursor) (inside) :
    (rules.decoratorAfter sign c inside).Silent :=
  .andThen silent_expectName fun _ d _ =>
    .bind (silent_lastPart _ d) fun _ _ _ =>
      .bind silent_skipAnglesIfAny fun _ f _ =>
        .bind (silent_optionalArguments silent f _) fun _ _ _ => .ok

theorem silent_decorators (earlier : List Decorator) (c : Cursor) (inside) :
    (rules.decorators earlier c inside).Silent := by
  unfold decorators
  split
  · next past _ =>
      have := past.less
      exact .lax (.go (.andThen (silent_decoratorAfter silent _ _ _)
        fun _ d _ => silent_decorators _ d _))
  · exact .ok
termination_by c.remaining

theorem silent_ascription (c : Cursor) (inside) : (rules.ascription c inside).Silent := by
  unfold ascription
  split
  · exact .lax (.map (.go (silent.type _ _)))
  · exact .ok

theorem silent_initial (c : Cursor) (inside) : (rules.initial c inside).Silent := by
  unfold initial
  split
  · exact .lax (.map (.go (silent.assignment _ _)))
  · exact .ok

theorem silent_parameter (c : Cursor) (inside) : (rules.parameter c inside).Silent :=
  .bind (silent_decorators silent [] c _) fun _ c₁ _ =>
    .bind (silent_modifiers _ c₁) fun _ _ _ =>
      .bind (silent_optional _) fun _ c₃ _ =>
        .andThen (silent_parameterName c₃) fun _ _ _ =>
          .bind (silent_optional _) fun _ c₅ _ =>
            .bind (silent_ascription silent c₅ _) fun _ c₆ _ =>
              .bind (silent_initial silent c₆ _) fun _ _ _ => .ok

theorem silent_parameters (c : Cursor) (inside) : (rules.parameters c inside).Silent :=
  .andThen (silent_expect _) fun _ d _ => silent_elements _ _ _ (silent_parameter silent) _ d _

end Parameters

/-! ## Members -/

theorem silent_skipElementLabel (c : Cursor) : (skipElementLabel c).Silent := by
  unfold skipElementLabel
  split
  · exact .ok
  split
  · split
    · exact .lax (.go (.go .ok))
    split
    · split
      · exact .lax (.go (.go (.go .ok)))
      · exact .ok
    · exact .ok
  · exact .ok

theorem silent_skipAccessorWord (c : Cursor) : (skipAccessorWord c).Silent := by
  refine .ite ?_ .ok
  split
  · exact .lax (.go .ok)
  · exact .map (silent_optional _)

theorem silent_skipSeparators (c : Cursor) : (skipSeparators c).Silent := by
  unfold skipSeparators
  split
  · next past _ =>
      have := past.less
      exact .lax (.go (silent_skipSeparators past.rest))
  · exact .ok
termination_by c.remaining

section Types

variable (silent : rules.Silent)

include silent

theorem silent_returnType (c : Cursor) (inside) : (rules.returnType c inside).Silent := by
  unfold returnType
  split
  · exact silent.type c inside
  split
  · exact silent.type c inside
  refine .ite ?_ (.ite ?_ (silent.type c inside))
  · split
    · exact .go (.go (.go (.andThen (silent.type _ _) fun _ _ _ => .ok)))
    · exact .go (.go .ok)
  · exact .go (.go (.andThen (silent.type _ _) fun _ _ _ => .ok))

theorem silent_resultAscription (c : Cursor) (inside) :
    (rules.resultAscription c inside).Silent := by
  unfold resultAscription
  split
  · exact .lax (.map (.go (silent_returnType silent _ _)))
  · exact .ok

theorem silent_typeArguments (c : Cursor) (inside) : (rules.typeArguments c inside).Silent :=
  .andThen (silent_expect _) fun _ d _ => silent_elements _ _ _ silent.type _ d _

theorem silent_functionType (c : Cursor) (inside) : (rules.functionType c inside).Silent :=
  .bind silent_skipAnglesIfAny fun _ c₁ _ =>
    .andThen (silent_parameters silent c₁ _) fun _ _ _ =>
      .andThen (silent_expect _) fun _ c₃ _ =>
        .andThen (silent_returnType silent c₃ _) fun _ _ _ => .ok

theorem silent_tupleElement (c : Cursor) (inside) : (rules.tupleElement c inside).Silent :=
  .bind (silent_optional _) fun _ c₁ _ =>
    .bind (silent_skipElementLabel c₁) fun _ c₂ _ =>
      .andThen (silent.type c₂ _) fun _ _ _ => .bind (silent_optional _) fun _ _ _ => .ok

theorem silent_tupleType (c : Cursor) (inside) : (rules.tupleType c inside).Silent :=
  .andThen (silent_expect _) fun _ d _ =>
    .andThen (silent_elements _ _ _ (silent_tupleElement silent) _ d _) fun _ _ _ => .ok

theorem silent_skipSignature (c : Cursor) (inside) : (rules.skipSignature c inside).Silent :=
  .bind silent_skipAnglesIfAny fun _ c₁ _ =>
    .andThen (silent_parameters silent c₁ _) fun _ c₂ _ =>
      .map (silent_resultAscription silent c₂ _)

theorem silent_skipComputedMember (c : Cursor) (inside) :
    (rules.skipComputedMember c inside).Silent :=
  .andThen silent_skipGroup fun _ _ _ =>
    .bind (silent_optional _) fun _ c₂ _ =>
      .ite (.lax (silent_skipSignature silent c₂ _)) (.map (silent_ascription silent c₂ _))

theorem silent_namedTypeMember (start : Span) (readonly : Bool) (c : Cursor) (inside) :
    (rules.namedTypeMember start readonly c inside).Silent :=
  .bind (silent_skipAccessorWord c) fun _ _ _ =>
    .andThen silent_propertyName fun _ _ _ =>
      .bind (silent_optional _) fun _ c₃ _ =>
        .ite
          (.bind silent_skipAnglesIfAny fun _ c₄ _ =>
            .lax (.andThen (silent_parameters silent c₄ _) fun _ c₅ _ =>
              .bind (silent_resultAscription silent c₅ _) fun _ _ _ => .ok))
          (.bind (silent_ascription silent c₃ _) fun _ _ _ => .ok)

theorem silent_typeMember (c : Cursor) (inside) : (rules.typeMember c inside).Silent := by
  have named (readonly : Bool) (d : Cursor) (inside) :
      ((rules.namedTypeMember c.span readonly d inside).map some).Silent :=
    .map (silent_namedTypeMember silent _ _ d inside)
  refine .ite (.map (silent_skipSignature silent c _)) ?_
  split
  · exact .ite (.go (.map (silent_skipSignature silent _ _))) (named _ _ _)
  · exact .bind (silent_optionalModifier _) fun _ d _ =>
      .ite (.map (silent_skipComputedMember silent d _)) (named _ _ _)

theorem silent_typeMembersAfter (opening : Opening) (earlier : List TypeMember) (c : Cursor)
    (inside) : (rules.typeMembersAfter opening earlier c inside).Silent := by
  unfold typeMembersAfter
  refine .bind (silent_skipSeparators c) fun _ d _ => ?_
  split
  · exact .go .ok
  refine .ite .fail (.andThen (silent_typeMember silent d _) fun member e less => .lax ?_)
  exact silent_typeMembersAfter _ _ e _
termination_by c.remaining

theorem silent_typeMembers (c : Cursor) (inside) : (rules.typeMembers c inside).Silent :=
  .andThen (silent_expect _) fun _ d _ => .lax (silent_typeMembersAfter silent _ _ d _)

/-! ## Types -/

theorem silent_namedTypeAfter (start : Span) (name : String) (c : Cursor) (inside) :
    (rules.namedTypeAfter start name c inside).Silent :=
  .ite (.bind (silent_skipQualifiedTail c) fun _ _ _ => .ok)
    (.ite (.bind (.lax (silent_typeArguments silent c _)) fun _ _ _ => .ok) .ok)

theorem silent_constructorType (start : Span) (c : Cursor) (inside) :
    (rules.constructorType start c inside).Silent :=
  .andThen (silent_functionType silent c _) fun _ _ _ => .ok

theorem silent_primaryType (c : Cursor) (inside) : (rules.primaryType c inside).Silent := by
  unfold primaryType
  split
  · exact .fail
  dsimp only
  split
  · exact .ite (silent_functionType silent c _)
      (.go (.andThen (silent.type _ _) fun _ _ _ => .map (silent_expect _)))
  · exact silent_functionType silent c _
  · exact .go (silent_constructorType silent _ _ _)
  · exact .ite (.andThen silent_skipGroup fun _ _ _ => .ok)
      (.andThen (silent_typeMembers silent c _) fun _ _ _ => .ok)
  · exact silent_tupleType silent c _
  · exact .go .ok
  · exact .go .ok
  · exact .go .ok
  · exact .go .ok
  · split
    · exact .go (.go .ok)
    · exact .fail
  · exact .go .ok
  · exact .go .ok
  · exact .go .ok
  · exact .go .ok
  · exact .go (silent_valueType _)
  · exact .go (silent_importedType _)
  · split
    · exact .go (.go (silent_constructorType silent _ _ _))
    · exact .go (silent_namedTypeAfter silent _ _ _ _)
  · exact .go (silent_namedTypeAfter silent _ _ _ _)
  · exact .fail

theorem silent_typeSuffixes (start : Span) (type : TypeExpression) (c : Cursor) (inside) :
    (rules.typeSuffixes start type c inside).Silent := by
  unfold typeSuffixes
  split
  · exact .ok
  next past _ =>
  have := past.less
  split
  · next closed _ =>
      have := closed.less
      exact .lax (.go (.go (silent_typeSuffixes _ _ closed.rest _)))
  · exact .lax (.go (.andThen (silent.type _ _) fun _ d _ =>
      .andThen (silent_expect _) fun _ e _ => silent_typeSuffixes _ _ e _))
termination_by c.remaining

theorem silent_suffixedType (c : Cursor) (inside) : (rules.suffixedType c inside).Silent :=
  .andThen (silent_primaryType silent c _) fun _ d _ => silent_typeSuffixes silent _ _ d _

theorem silent_skipConstraint (c : Cursor) (inside) : (rules.skipConstraint c inside).Silent := by
  unfold skipConstraint
  split
  · exact .ite .ok (.lax (.map (.go (silent.typeOperand _ _))))
  · exact .ok

theorem silent_operandType (c : Cursor) (inside) : (rules.operandType c inside).Silent := by
  have suffixed := silent_suffixedType silent c inside
  unfold operandType
  split
  · exact suffixed
  dsimp only
  split
  · exact .ite (.go (.andThen (silent.typeOperand _ _) fun _ _ _ => .ok)) suffixed
  · exact .ite (.go (silent.typeOperand _ _)) suffixed
  · split
    · exact .go (.go .ok)
    · exact suffixed
  · split
    · split
      · exact .go (.go (.bind (silent_skipConstraint silent _ _) fun _ _ _ => .ok))
      · exact suffixed
    · exact suffixed
  · exact suffixed

omit silent in
theorem silent_furtherMembers (sign : Mark)
    {member : (c : Cursor) → c.remaining ≤ limit.remaining → Outcome true c TypeExpression}
    (each : ∀ c inside, (member c inside).Silent) (earlier : List TypeExpression) (c : Cursor)
    (inside) : (furtherMembers sign member earlier c inside).Silent := by
  unfold furtherMembers
  split
  · next past _ =>
      have := past.less
      exact .lax (.go (.andThen (each _ _) fun _ d _ => silent_furtherMembers sign each _ d _))
  · exact .ok
termination_by c.remaining

theorem silent_intersectionType (c : Cursor) (inside) : (rules.intersectionType c inside).Silent :=
  .bind (silent_optional _) fun _ d _ =>
    .andThen (silent_operandType silent d _) fun _ e _ =>
      .bind (silent_furtherMembers _ (silent_operandType silent) _ e _) fun _ _ _ => .ok

theorem silent_unionType (c : Cursor) (inside) : (rules.unionType c inside).Silent :=
  .bind (silent_optional _) fun _ d _ =>
    .andThen (silent_intersectionType silent d _) fun _ e _ =>
      .bind (silent_furtherMembers _ (silent_intersectionType silent) _ e _) fun _ _ _ => .ok

theorem silent_fullType (c : Cursor) (inside) : (rules.fullType c inside).Silent := by
  refine .andThen (silent_unionType silent c _) fun _ _ _ => ?_
  split
  · exact .ok
  · exact .lax (.go (.andThen (silent_unionType silent _ _) fun _ _ _ =>
      .andThen (silent_expect _) fun _ c₃ _ =>
        .andThen (silent.type c₃ _) fun _ _ _ =>
          .andThen (silent_expect _) fun _ c₅ _ => .andThen (silent.type c₅ _) fun _ _ _ => .ok))

end Types

end Rules

end InjectionCheck
