import InjectionCheck.Grammar.Expressions
import InjectionCheck.Proofs.SilentRules

/-!
# Expressions record nothing

The rules for expressions record nothing, those for classes without a name among them, whose bodies
are passed as groups. So none of the recursive rules records anything (`Rules.silent_all`), by
induction on the tokens ahead.
-/

set_option autoImplicit false

namespace InjectionCheck

open Cursor Outcome

namespace Cursor

theorem silent_skipHeritage (c : Cursor) : c.skipHeritage.Silent := by
  unfold skipHeritage
  split
  · exact .fail
  next past _ =>
  have := past.less
  split
  · exact .ok
  · exact .lax (.andThen silent_skipAngles fun _ d _ => silent_skipHeritage d)
  · exact .lax (.andThen silent_skipGroup fun _ d _ => silent_skipHeritage d)
  · exact .lax (.go (silent_skipHeritage past.rest))
termination_by c.remaining

theorem silent_skipClassTail (c : Cursor) : c.skipClassTail.Silent :=
  .bind (silent_skipHeritage c) fun _ _ _ => .map silent_skipGroup

end Cursor

namespace Rules

variable {limit : Cursor} {rules : Rules limit}

theorem silent_skipMethodWord (c : Cursor) : (skipMethodWord c).Silent :=
  .ite (silent_optional _) .ok

section Expressions

variable (silent : rules.Silent)

include silent

/-! ## Functions -/

theorem silent_skipCallableTail (c : Cursor) (inside) :
    (rules.skipCallableTail c inside).Silent :=
  .bind silent_skipAnglesIfAny fun _ c₁ _ =>
    .andThen (silent_parameters silent c₁ _) fun _ c₂ _ =>
      .bind (silent_resultAscription silent c₂ _) fun _ _ _ =>
        .ite (.lax (.map silent_skipGroup)) silent_optionalSemicolon

theorem silent_skipFunction (c : Cursor) (inside) : (rules.skipFunction c inside).Silent :=
  .andThen (silent_expect _) fun _ _ _ =>
    .bind (silent_optional _) fun _ _ _ =>
      .bind (silent_optional _) fun _ c₃ _ => .lax (silent_skipCallableTail silent c₃ _)

theorem silent_skipArrowHead (c : Cursor) (inside) : (rules.skipArrowHead c inside).Silent :=
  .bind silent_skipAnglesIfAny fun _ _ _ =>
    .ite (.andThen silent_skipGroup fun _ e _ => .map (silent_resultAscription silent e _))
      (.map silent_expectName)

theorem silent_arrowFunction (start : Span) (c : Cursor) (inside) :
    (rules.arrowFunction start c inside).Silent :=
  .andThen (silent_skipArrowHead silent c _) fun _ _ _ =>
    .andThen (silent_expect _) fun _ e _ =>
      .ite (.andThen silent_skipGroup fun _ _ _ => .ok)
        (.andThen (silent.assignment e _) fun _ _ _ => .ok)

/-! ## Literals -/

theorem silent_propertyValue (start : Span) (key : PropertyKey) (keySpan : Span)
    (isMethod : Bool) (c : Cursor) (inside) :
    (rules.propertyValue start key keySpan isMethod c inside).Silent := by
  refine .ite (.bind (.lax (silent_skipCallableTail silent c _)) fun _ _ _ => .ok) ?_
  split
  · exact .lax (.go (.andThen (silent.assignment _ _) fun _ _ _ => .ok))
  split
  · exact .bind (silent_initial silent c _) fun _ _ _ => .ok
  · exact .fail
  · exact .fail

theorem silent_propertyKey (c : Cursor) (inside) : (rules.propertyKey c inside).Silent := by
  unfold propertyKey
  split
  · exact .go (.andThen (silent.assignment _ _) fun _ _ _ =>
      .andThen (silent_expect _) fun _ _ _ => .ok)
  · exact .map silent_propertyName

theorem silent_property (c : Cursor) (inside) : (rules.property c inside).Silent := by
  unfold property
  split
  · exact .go (.andThen (silent.assignment _ _) fun _ _ _ => .ok)
  · exact .bind (silent_skipMethodWord c) fun _ _ _ =>
      .bind (silent_optional _) fun _ c₂ _ =>
        .andThen (silent_propertyKey silent c₂ _) fun _ c₃ _ =>
          silent_propertyValue silent _ _ _ _ c₃ _

theorem silent_object (c : Cursor) (inside) : (rules.object c inside).Silent :=
  .andThen (silent_expect _) fun _ d _ =>
    .andThen (silent_elements _ _ _ (silent_property silent) _ d _) fun _ _ _ => .ok

theorem silent_arrayElements (opening : Opening) (earlier : List Expression) (c : Cursor)
    (inside) : (rules.arrayElements opening earlier c inside).Silent := by
  unfold arrayElements
  split
  · exact .go .ok
  refine .ite .fail ?_
  split
  · next past _ =>
      have := past.less
      exact .go (silent_arrayElements _ _ past.rest _)
  refine .andThen (silent_spreadable silent c _) fun element d less => ?_
  split
  · exact .lax (.go .ok)
  · refine .lax (.andThen (silent_expect _) fun _ e further => ?_)
    have : e.remaining < c.remaining := Nat.lt_trans further less
    exact silent_arrayElements _ _ e _
termination_by c.remaining

theorem silent_array (c : Cursor) (inside) : (rules.array c inside).Silent :=
  .andThen (silent_expect _) fun _ d _ =>
    .andThen (silent_arrayElements silent _ _ d _) fun _ _ _ => .ok

/-! ## Operands -/

theorem silent_asyncOrName (start : Span) (c : Cursor) (inside) :
    (rules.asyncOrName start c inside).Silent :=
  .ite (.bind (.lax (silent_skipFunction silent c _)) fun _ _ _ => .ok) .ok

theorem silent_classExpression (c : Cursor) (inside) : (rules.classExpression c inside).Silent :=
  .bind (silent_decorators silent [] c _) fun _ _ _ =>
    .andThen (silent_expect _) fun _ e _ =>
      .andThen (silent_skipClassTail e) fun _ _ _ => .ok

theorem silent_primary (c : Cursor) (inside) : (rules.primary c inside).Silent := by
  unfold primary
  split
  · exact .fail
  dsimp only
  split
  · exact .go (silent_asyncOrName silent _ _ _)
  · exact .go .ok
  · exact .go .ok
  · exact .go .ok
  · exact .go .ok
  · exact .go .ok
  · exact .go .ok
  · exact .go .ok
  · exact .go .ok
  · exact .go .ok
  · exact .go (.andThen (silent.expression _ _) fun _ _ _ => .map (.mapError (silent_expect _)))
  · exact silent_object silent c _
  · exact silent_array silent c _
  · exact .andThen (silent_skipFunction silent c _) fun _ _ _ => .ok
  · exact silent_classExpression silent c _
  · exact silent_classExpression silent c _
  · exact .fail

theorem silent_indexElement (c : Cursor) (inside) : (rules.indexElement c inside).Silent :=
  .andThen (silent.expression c _) fun _ _ _ => .map (silent_expect _)

theorem silent_constructedClass (start : Span) (callee : Expression) (c : Cursor) (inside) :
    (rules.constructedClass start callee c inside).Silent := by
  unfold constructedClass
  dsimp only
  split
  · next past _ =>
      have := past.less
      exact .lax (.go (.andThen silent_propertyName fun _ d _ =>
        silent_constructedClass _ _ d _))
  split
  · next past _ =>
      have := past.less
      exact .lax (.go (.andThen (silent_indexElement silent _ _) fun _ d _ =>
        silent_constructedClass _ _ d _))
  · exact .ok
termination_by c.remaining

theorem silent_constructionAfter (start : Span) (c : Cursor) (inside) :
    (rules.constructionAfter start c inside).Silent :=
  .andThen (.ite (silent.construction c _) (silent_primary silent c _)) fun _ c₁ _ =>
    .bind (silent_constructedClass silent _ _ c₁ _) fun _ _ _ =>
      .bind silent_skipAnglesIfAny fun _ c₃ _ =>
        .bind (silent_optionalArguments silent c₃ _) fun _ _ _ => .ok

theorem silent_newExpression (c : Cursor) (inside) : (rules.newExpression c inside).Silent := by
  refine .andThen (silent_expect _) fun word d _ => ?_
  split
  · exact .lax (.go (.andThen silent_propertyName fun _ _ _ => .ok))
  · exact .lax (silent_constructionAfter silent _ d _)

/-- Behind an operand nothing is recorded, by type arguments that are tried as little as by what is
read in their place. -/
theorem silent_suffixes (start : Span) (operand : Expression) (c : Cursor) (inside) :
    (rules.suffixes start operand c inside).Silent := by
  unfold suffixes
  split
  · exact .ok
  next past _ =>
  have := past.less
  have further {start : Span} {operand : Expression} {d : Cursor}
      (fewer : d.remaining < c.remaining) (inside) :
      (rules.suffixes start operand d inside).Silent :=
    silent_suffixes start operand d inside
  dsimp only
  split
  · exact .lax (.go (.andThen silent_propertyName fun _ _ less =>
      further (Nat.lt_trans less past.less) _))
  · refine .ite ?_ ?_
    · exact .lax (.go (.andThen (silent_arguments silent _ _) fun _ _ less =>
        further (Nat.lt_trans less past.less) _))
    split
    · next opened _ =>
        exact .lax (.go (.go (.andThen (silent_indexElement silent _ _) fun _ _ less =>
          further (Nat.lt_trans less (Nat.lt_trans opened.less past.less)) _)))
    · exact .lax (.go (.andThen silent_propertyName fun _ _ less =>
        further (Nat.lt_trans less past.less) _))
  · exact .lax (.go (.andThen (silent_indexElement silent _ _) fun _ _ less =>
      further (Nat.lt_trans less past.less) _))
  · exact .lax (.andThen (silent_arguments silent c _) fun _ _ less => further less _)
  · refine .tried (silent_typeArguments silent c _) (fun _ d reaches fewer => .ite ?_ .ok) .ok
    exact .lax (.following (.andThen (silent_arguments silent d _) fun _ _ less =>
      further (Nat.lt_of_lt_of_le less fewer) _))
  · exact .lax (.go (further past.less _))
  · exact .lax (.go (further past.less _))
  · exact .ok
termination_by c.remaining

theorem silent_suffixed (c : Cursor) (inside) : (rules.suffixed c inside).Silent :=
  .andThen (.ite (silent_newExpression silent c _) (silent_primary silent c _)) fun _ d _ =>
    silent_suffixes silent _ _ d _

/-! ## Operators -/

theorem silent_operand (c : Cursor) (inside) : (rules.operand c inside).Silent := by
  unfold operand
  split
  · exact silent_suffixed silent c _
  · exact .ite (.go (.andThen (silent.unary _ _) fun _ _ _ => .ok))
      (.ite (.andThen silent_skipAngles fun _ d _ => .lax (silent.unary d _))
        (silent_suffixed silent c _))

theorem silent_skipAssertedType (c : Cursor) (inside) :
    (rules.skipAssertedType c inside).Silent := by
  unfold skipAssertedType
  split
  · exact .go .ok
  · exact .map (silent.type c _)

theorem silent_operators (least : Nat) (start : Span) (left : Expression) (c : Cursor) (inside) :
    (rules.operators least start left c inside).Silent := by
  unfold operators
  split
  · exact .ok
  next past _ =>
  have := past.less
  refine .ite (.lax (.go (.andThen (silent_skipAssertedType silent _ _) fun _ d _ =>
    silent_operators _ _ _ d _))) ?_
  split
  · exact .ok
  refine .ite .ok (.lax (.go (.bind (.ite (silent_optional _) .ok) fun _ d fewer =>
    .lax (.andThen (silent.binary _ d _) fun _ e less => ?_))))
  have : e.remaining < c.remaining := by omega
  exact silent_operators _ _ _ e _
termination_by c.remaining

theorem silent_binaryFrom (least : Nat) (c : Cursor) (inside) :
    (rules.binaryFrom least c inside).Silent :=
  .andThen (silent_operand silent c _) fun _ d _ => silent_operators silent _ _ _ d _

theorem silent_conditional (c : Cursor) (inside) : (rules.conditional c inside).Silent := by
  refine .andThen (silent_binaryFrom silent 1 c _) fun _ _ _ => ?_
  split
  · exact .ok
  · exact .lax (.go (.andThen (silent.assignment _ _) fun _ _ _ =>
      .andThen (silent_expect _) fun _ c₃ _ => .andThen (silent.assignment c₃ _) fun _ _ _ => .ok))

theorem silent_assignedValue (start : Span) (target : Expression) (c : Cursor) (inside) :
    (rules.assignedValue start target c inside).Silent := by
  refine .bind (silent_optional _) fun _ d _ => ?_
  split
  · exact .ok
  · exact .lax (.go (.andThen (silent.assignment _ _) fun _ _ _ => .ok))

theorem silent_assignmentFrom (c : Cursor) (inside) : (rules.assignmentFrom c inside).Silent := by
  have conditional : ((rules.conditional c inside).andThen fun target d less =>
      rules.assignedValue c.span target d (Cursor.lt_of_lt_of_le less inside)).Silent :=
    .andThen (silent_conditional silent c _) fun _ d _ => silent_assignedValue silent _ _ d _
  have arrow := silent_arrowFunction silent c.span c inside
  unfold assignmentFrom
  split
  · exact .ite (.go (silent_arrowFunction silent _ _ _)) (.ite arrow conditional)
  · exact .ite arrow conditional

theorem silent_sequence (start : Span) (left : Expression) (c : Cursor) (inside) :
    (rules.sequence start left c inside).Silent := by
  unfold sequence
  split
  · exact .ok
  · next past _ =>
      have := past.less
      exact .lax (.go (.andThen (silent.assignment _ _) fun _ d _ => silent_sequence _ _ d _))
termination_by c.remaining

theorem silent_expressionWhole (c : Cursor) (inside) : (rules.expressionWhole c inside).Silent :=
  .andThen (silent_assignmentFrom silent c _) fun _ d _ => silent_sequence silent _ _ d _

end Expressions

/-! ## All rules -/

/-- **The recursive rules record nothing**, whatever they read, by induction on the tokens
ahead. -/
theorem silent_all (limit : Cursor) : (all limit).Silent := by
  have inner {c : Cursor} (inside : c.remaining < limit.remaining) : (all c).Silent := silent_all c
  constructor
  all_goals rw [all]
  case assignment => exact fun c inside => silent_assignmentFrom (inner inside) c c.le_self
  case expression => exact fun c inside => silent_expressionWhole (inner inside) c c.le_self
  case binary => exact fun least c inside => silent_binaryFrom (inner inside) least c c.le_self
  case unary => exact fun c inside => silent_operand (inner inside) c c.le_self
  case construction => exact fun c inside => silent_newExpression (inner inside) c c.le_self
  case type => exact fun c inside => silent_fullType (inner inside) c c.le_self
  case typeOperand => exact fun c inside => silent_operandType (inner inside) c c.le_self
termination_by limit.remaining

end Rules

end InjectionCheck
