import InjectionCheck.Grammar.Items
import InjectionCheck.Proofs.SilentExpressions

/-!
# Members and most statements record nothing

A class goes on from the error of a member, and records it. Nothing else within a statement does:
a member itself records nothing, nor does the head of a class, and no statement records anything
that does not declare a class.
-/

set_option autoImplicit false

namespace InjectionCheck

open Outcome

namespace Cursor

variable {c : Cursor}

/-! ## Members of a class -/

theorem silent_assignment : c.assignment.Silent :=
  Rules.silent_assignmentFrom (Rules.silent_all c) c _

theorem silent_expression : c.expression.Silent :=
  Rules.silent_expressionWhole (Rules.silent_all c) c _

theorem silent_type : c.type.Silent := Rules.silent_fullType (Rules.silent_all c) c _

theorem silent_decorators : c.decorators.Silent :=
  Rules.silent_decorators (Rules.silent_all c) [] c _

theorem silent_parameters : c.parameters.Silent := Rules.silent_parameters (Rules.silent_all c) c _

theorem silent_typeMembers : c.typeMembers.Silent :=
  Rules.silent_typeMembers (Rules.silent_all c) c _

theorem silent_skipCallableTail : c.skipCallableTail.Silent :=
  Rules.silent_skipCallableTail (Rules.silent_all c) c _

theorem silent_skipFunction : c.skipFunction.Silent :=
  Rules.silent_skipFunction (Rules.silent_all c) c _

theorem silent_ascription : c.ascription.Silent := by
  unfold ascription
  split
  · exact .lax (.map (.go silent_type))
  · exact .ok

theorem silent_resultAscription : c.resultAscription.Silent :=
  Rules.silent_resultAscription (Rules.silent_all c) c _

theorem silent_initial : c.initial.Silent := by
  unfold initial
  split
  · exact .lax (.map (.go silent_assignment))
  · exact .ok

theorem silent_skipBody : c.skipBody.Silent :=
  .ite (.lax (.map silent_skipGroup)) silent_optionalSemicolon

theorem silent_skipComputedClassMember : c.skipComputedClassMember.Silent :=
  .andThen silent_skipGroup fun _ _ _ =>
    .bind (silent_optional _) fun _ _ _ =>
      .bind silent_ascription fun _ _ _ =>
        .bind silent_initial fun _ _ _ =>
          .ite (.lax silent_skipCallableTail) silent_optionalSemicolon

theorem silent_constructorAfter (start : Span) : (c.constructorAfter start).Silent :=
  .andThen silent_parameters fun _ _ _ => .bind silent_skipBody fun _ _ _ => .ok

theorem silent_methodAfter (start : Span) (modifiers : Modifiers) (isGetter : Bool) (name : String)
    (optional : Bool) : (c.methodAfter start modifiers isGetter name optional).Silent :=
  .bind silent_skipAnglesIfAny fun _ _ _ =>
    .andThen silent_parameters fun _ _ _ =>
      .bind silent_resultAscription fun _ _ _ => .bind silent_skipBody fun _ _ _ => .ok

theorem silent_propertyAfter (start : Span) (modifiers : Modifiers) (name : String)
    (optional : Bool) : (c.propertyAfter start modifiers name optional).Silent :=
  .bind silent_ascription fun _ _ _ =>
    .bind silent_initial fun _ _ _ => .bind silent_optionalSemicolon fun _ _ _ => .ok

theorem silent_namedMember (start : Span) (modifiers : Modifiers) (isGetter : Bool) :
    (c.namedMember start modifiers isGetter).Silent :=
  .bind (silent_optional _) fun _ _ _ =>
    .andThen silent_propertyName fun _ _ _ =>
      .bind (silent_optional _) fun _ _ _ =>
        .bind (silent_optional _) fun _ _ _ =>
          .ite (.lax (silent_constructorAfter start))
            (.ite (.lax (silent_methodAfter _ _ _ _ _)) (silent_propertyAfter _ _ _ _))

theorem silent_memberAfter (start : Span) (modifiers : Modifiers) :
    (c.memberAfter start modifiers).Silent := by
  refine .ite (.map silent_skipGroup) (.ite (.map silent_skipComputedClassMember) ?_)
  split
  · exact .map (silent_namedMember _ _ _)
  · exact .ite (.go (.map (silent_namedMember _ _ _)))
      (.ite (.go (.andThen silent_propertyName fun _ _ _ => .map silent_skipCallableTail))
        (.map (silent_namedMember _ _ _)))

/-- **A member of a class records nothing.** Its error is recorded by the class. -/
theorem silent_classMember (c : Cursor) : c.classMember.Silent := by
  unfold classMember
  split
  · exact .go .ok
  · exact .bind silent_decorators fun _ d _ =>
      .bind (silent_modifiers _ d) fun _ _ _ => silent_memberAfter _ _

/-! ## Heads of classes -/

theorem silent_skipNameParts (qualified : Bool) (c : Cursor) :
    (c.skipNameParts qualified).Silent := by
  unfold skipNameParts
  split
  · next past _ =>
      have := past.less
      exact .lax (.go (.andThen silent_propertyName fun _ d _ => silent_skipNameParts _ d))
  · exact .ok
termination_by c.remaining

theorem silent_heritageName : c.heritageName.Silent :=
  .andThen silent_expectName fun _ d _ =>
    .bind (silent_skipNameParts _ d) fun _ _ _ => .bind silent_skipAnglesIfAny fun _ _ _ => .ok

theorem silent_heritageNames (earlier : List NameUse) (c : Cursor) :
    (c.heritageNames earlier).Silent := by
  unfold heritageNames
  refine .andThen silent_heritageName fun name d _ => ?_
  split
  · next past _ =>
      have := past.less
      exact .lax (.go (silent_heritageNames _ past.rest))
  · exact .ok
termination_by c.remaining

theorem silent_heritageClause (word : Keyword) : (c.heritageClause word).Silent := by
  unfold heritageClause
  split
  · exact .lax (.go (silent_heritageNames _ _))
  · exact .ok

theorem silent_baseClause : c.baseClause.Silent := by
  unfold baseClause
  split
  · exact .lax (.go silent_heritageName)
  · exact .ok

theorem silent_classHead (decorators : List Decorator) (isAbstract : Bool) :
    (c.classHead decorators isAbstract).Silent :=
  .andThen (silent_expect _) fun _ _ _ =>
    .andThen silent_expectName fun _ _ _ =>
      .bind silent_skipAnglesIfAny fun _ _ _ =>
        .bind silent_baseClause fun _ _ _ =>
          .bind (silent_heritageClause _) fun _ _ _ => .ok

/-! ## Imports and exports -/

theorem silent_moduleSource : c.moduleSource.Silent := by
  unfold moduleSource
  split
  · exact .fail
  split
  · exact .go .fail
  split
  · exact .go (.go .ok)
  · exact .go .fail

theorem silent_skipImportEnd : c.skipImportEnd.Silent := by
  refine .bind ?_ fun _ _ _ => silent_optionalSemicolon
  unfold skipImportAttributes
  split
  · exact .ok
  split
  · exact .ite (.lax (.go (.map silent_skipGroup))) .ok
  · exact .ok

theorem silent_importSource (specifiers : List ImportSpecifier) :
    (c.importSource specifiers).Silent :=
  .andThen silent_moduleSource fun _ _ _ => .bind silent_skipImportEnd fun _ _ _ => .ok

theorem silent_bracedNames {α : Type} {specifier : (c : Cursor) → Outcome true c α}
    (each : ∀ c, (specifier c).Silent) : (c.bracedNames specifier).Silent :=
  .andThen (silent_expect _) fun _ d _ => Rules.silent_elements _ _ _ (fun e _ => each e) _ d _

theorem silent_importSpecifier (c : Cursor) : c.importSpecifier.Silent := by
  refine .bind (silent_optionalModifier _) fun _ d _ => .andThen silent_properName fun _ e _ =>
    .bind ?_ fun _ _ _ => .ok
  unfold localName
  split
  · exact .lax (.map (.go silent_expectName))
  · exact .ok

theorem silent_exportSpecifier (c : Cursor) : c.exportSpecifier.Silent := by
  refine .bind (silent_optionalModifier _) fun _ d _ => .andThen silent_properName fun _ e _ =>
    .bind ?_ fun _ _ _ => .ok
  unfold exportedName
  split
  · exact .lax (.map (.go silent_properName))
  · exact .ok

theorem silent_importedNames : c.importedNames.Silent := by
  unfold importedNames
  split
  · split
    · exact .go (.go (.map silent_expectName))
    · exact .go .fail
  · exact .ite (silent_bracedNames silent_importSpecifier) .fail

theorem silent_importClause : c.importClause.Silent := by
  refine .bind (.ite .ok (.map (silent_optional _))) fun _ d _ => ?_
  split
  · exact .fail
  dsimp only
  split
  · split
    · exact .go (.go (.andThen silent_importedNames fun _ _ _ => .lax (silent_importSource _)))
    · exact .go (silent_importSource _)
  · exact .andThen silent_importedNames fun _ _ _ => .lax (silent_importSource _)

theorem silent_importAfter : c.importAfter.Silent := by
  unfold importAfter
  split
  · exact silent_importClause
  split
  · exact .go (.map silent_skipImportEnd)
  · exact silent_importClause

theorem silent_exportAllAfter : c.exportAllAfter.Silent := by
  refine .bind ?_ fun _ _ _ => .andThen silent_moduleSource fun _ _ _ =>
    .map silent_optionalSemicolon
  split
  · exact .lax (.map (.go silent_propertyName))
  · exact .ok

theorem silent_exportNames : c.exportNames.Silent :=
  .andThen (silent_bracedNames silent_exportSpecifier) fun _ _ _ =>
    .ite (.lax (.andThen silent_moduleSource fun _ _ _ => .map silent_optionalSemicolon))
      (.map silent_optionalSemicolon)

theorem silent_exportList : c.exportList.Silent := by
  unfold exportList
  split
  · exact .go silent_exportAllAfter
  · exact silent_exportNames

/-! ## Other statements -/

theorem silent_binding (start : Span) (exported : Bool) (c : Cursor) :
    (c.binding start exported).Silent := by
  refine .andThen ?_ fun _ _ _ => .bind (silent_optional _) fun _ _ _ =>
    .bind silent_ascription fun _ _ _ => .bind silent_initial fun _ _ _ => .ok
  unfold bindingTarget
  split
  · split
    · exact .go .ok
    · exact .map silent_skipGroup
    · exact .map silent_skipGroup
    · exact .fail
  · exact .fail

theorem silent_valueStatement {α : Type} {change : Expression → Unit → α} :
    (c.expression.andThen fun value d _ =>
      d.optionalSemicolon.map fun passed => change value passed).Silent :=
  .andThen silent_expression fun _ _ _ => .map silent_optionalSemicolon

theorem silent_interfaceDeclaration : c.interfaceDeclaration.Silent :=
  .andThen (silent_expect _) fun _ _ _ =>
    .andThen silent_expectName fun _ _ _ =>
      .bind silent_skipAnglesIfAny fun _ _ _ =>
        .bind (silent_heritageClause _) fun _ _ _ => .lax (.map silent_typeMembers)

theorem silent_aliasAfter : c.aliasAfter.Silent :=
  .andThen silent_expectName fun _ _ _ =>
    .bind silent_skipAnglesIfAny fun _ _ _ =>
      .bind (.lax (silent_expect _)) fun _ _ _ =>
        .bind (.lax silent_type) fun _ _ _ => .map silent_optionalSemicolon

theorem silent_skipEnum : c.skipEnum.Silent :=
  .andThen (silent_expect _) fun _ _ _ =>
    .bind (.lax silent_expectName) fun _ _ _ => .ite (.lax (.map silent_skipGroup)) .fail

theorem silent_restOfStatement (c : Cursor) : c.restOfStatement.Silent := by
  unfold restOfStatement
  split
  · exact .ok
  next past _ =>
  have := past.less
  refine .ite (.lax (.go .ok)) (.ite .ok ?_)
  split
  · exact .lax (.go (.bind (silent_restOfGroup _ _) fun _ d _ => silent_restOfStatement d))
  · exact .ite .fail (.lax (.go (silent_restOfStatement past.rest)))
termination_by c.remaining

theorem Past.silent_skipStatement (past : c.Past) : past.skipStatement.Silent := by
  unfold Past.skipStatement
  split
  · exact .go (.bind (silent_restOfGroup _ _) fun _ d _ => silent_restOfStatement d)
  · exact .ite .fail (.go (silent_restOfStatement _))

theorem silent_decoratorAfter (sign : Span) :
    ((Rules.all c).decoratorAfter sign c (Nat.le_refl _)).Silent :=
  Rules.silent_decoratorAfter (Rules.silent_all c) sign c _

end Cursor

end InjectionCheck
