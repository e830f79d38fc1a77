import InjectionCheck.Proofs.ClassRecovery

/-!
# The errors of a file

Which errors a file records, and where each of them comes from. A member of a class records nothing,
and the body of the class goes on from its error and records that (`errors_classBody`). A statement
records nothing either, unless it declares a class, and then only what the body of that class
records (`Past.goesOn_item`). So the errors of a file are those of its statements and those of the
members of its classes, one for each that does not parse (`SourceUnit.errors_ofTokens`).
-/

set_option autoImplicit false

namespace InjectionCheck

open Cursor Outcome

/-! ## The errors of a class -/

namespace Outcome

variable {α β : Type} {moves : Bool} {c d : Cursor}

/-- Two rules, one after the other, record what each of them does. -/
theorem errors_andThen {value : α} {outcome : Outcome true c α}
    (succeeded : outcome.stopped = ⟨.ok value, d⟩)
    (next : (value : α) → (d : Cursor) → d.remaining < c.remaining → Outcome moves d β) :
    ∃ less, (outcome.andThen next).errors = outcome.errors ++ (next value d less).errors := by
  obtain ⟨stopped, reaches, moved, errors⟩ := outcome
  cases (succeeded : stopped = _)
  exact ⟨less_of_moved moved, rfl⟩

theorem errors_andThen_of_error {error : ParseError} {outcome : Outcome true c α}
    (failed : outcome.stopped = ⟨.error error, d⟩)
    (next : (value : α) → (d : Cursor) → d.remaining < c.remaining → Outcome moves d β) :
    (outcome.andThen next).errors = outcome.errors := by
  obtain ⟨stopped, reaches, moved, errors⟩ := outcome
  cases (failed : stopped = _)
  exact List.append_nil _

end Outcome

namespace Cursor

variable {c d : Cursor}

/-- **The members of a class record the errors of those among them that are given up**, by induction
on the members. -/
theorem errors_membersAfter (opening : Opening) (earlier : List ClassMember) (c : Cursor) :
    (membersAfter opening earlier c).errors = c.memberStarts.flatMap memberError := by
  cases opened : c.mark? .rbrace with
  | some last =>
      rw [membersAfter.eq_def, opened, memberStarts_of_closed opened]
      rfl
  | none =>
      cases isNext : c.next? with
      | none =>
          rw [membersAfter.eq_def, memberStarts, opened, isNext]
          rfl
      | some past =>
          have fewer := past.memberEnd.property.2
          rw [(membersAfter_next opened isNext opening earlier).1,
            errors_membersAfter opening _ past.memberEnd.val,
            memberStarts_of_opened isNext opened, List.flatMap_cons]
termination_by c.remaining

/-- The body of a class records the errors of the members that are given up. -/
theorem errors_classBody (opens : c.seesMark .lbrace = true) :
    c.classBody.errors = c.bodyMemberStarts.flatMap memberError := by
  obtain ⟨past, isNext, isBrace⟩ := next?_of_seesMark opens
  obtain ⟨_, same⟩ := errors_andThen (expectMark_of_next? isNext isBrace)
    fun opened d _ => d.membersAfter ⟨.lbrace, opened.span⟩ []
  rw [show (c.expectMark .lbrace).errors = [] from silent_expect _, List.nil_append] at same
  rw [bodyMemberStarts, isNext]
  exact same.trans (errors_membersAfter _ [] past.rest)

/-- Where a class has no body, it records no errors. -/
theorem errors_classBody_of_not_opens (opens : c.seesMark .lbrace = false) :
    c.classBody.errors = [] := by
  cases stopped : (c.expectMark .lbrace).stopped with
  | mk result d =>
      cases result with
      | error error => exact (errors_andThen_of_error stopped _).trans (silent_expect _)
      | ok opened =>
          obtain ⟨past, isNext, isBrace, -⟩ :=
            Outcome.Ensures.expectMark opened (congrArg Stopped.result stopped)
          rw [seesMark_eq (kinds_of_next? isNext), isBrace] at opens
          exact absurd opens (by simp)

/-- A class is declared from a cursor on whose body stands at another one: the head of the class
parses up to there, and a brace follows. -/
def Declares (c body : Cursor) : Prop :=
  body.seesMark .lbrace = true ∧ ∃ d decorators isAbstract head, c.Reaches d ∧
    (d.classHead decorators isAbstract).stopped = ⟨.ok head, body⟩

/-- What starts at a cursor and stops at another one goes on from no errors, or from those of the
members that are given up in the body of a class that it declares, behind which it stops. -/
def GoesOnFrom (c rest : Cursor) (errors : List ParseError) : Prop :=
  errors = [] ∨ ∃ body, c.Declares body ∧ body.classBody.rest = rest ∧
    errors = body.bodyMemberStarts.flatMap memberError

theorem GoesOnFrom.of_reaches {rest : Cursor} {errors : List ParseError} (reaches : c.Reaches d)
    (goesOn : d.GoesOnFrom rest errors) : c.GoesOnFrom rest errors := by
  obtain none | ⟨body, ⟨opens, e, decorators, isAbstract, head, reaches', stopped⟩, same⟩ := goesOn
  · exact .inl none
  · exact .inr ⟨body, ⟨opens, e, decorators, isAbstract, head, reaches.trans reaches', stopped⟩,
      same⟩

/-- A class that is declared records the errors of its body, if its head parses. -/
theorem goesOnFrom_classDeclaration (decorators : List Decorator) (isAbstract : Bool) :
    c.GoesOnFrom (c.classDeclaration decorators isAbstract).rest
      (c.classDeclaration decorators isAbstract).errors := by
  cases stopped : (c.classHead decorators isAbstract).stopped with
  | mk result body =>
      cases result with
      | error error =>
          exact .inl ((errors_andThen_of_error stopped _).trans (silent_classHead _ _))
      | ok head =>
          let next (head : ClassDeclaration) (d : Cursor) (_ : d.remaining < c.remaining) :=
            d.classBody.map fun members => { head with members }
          obtain ⟨_, same⟩ := errors_andThen stopped next
          obtain ⟨_, stops⟩ := stopped_andThen stopped next
          have silent : (c.classHead decorators isAbstract).errors = [] := silent_classHead _ _
          rw [silent, List.nil_append, errors_map] at same
          have rest : (c.classDeclaration decorators isAbstract).rest = body.classBody.rest :=
            (congrArg Stopped.rest stops).trans (rest_map _ _)
          rw [rest, show (c.classDeclaration decorators isAbstract).errors = _ from same]
          cases opens : body.seesMark .lbrace with
          | true =>
              exact .inr ⟨body, ⟨opens, c, decorators, isAbstract, head, .refl c, stopped⟩,
                rfl, errors_classBody opens⟩
          | false => exact .inl (errors_classBody_of_not_opens opens)

end Cursor

/-! ## The errors of a statement -/

/-- A statement goes on from no errors but those of the members that are given up in the body of a
class that it declares, behind which it stops. -/
def Section.GoesOn {moves : Bool} {c : Cursor} (statement : Section moves c) : Prop :=
  c.GoesOnFrom statement.outcome.rest statement.errors

namespace Section

variable {moves : Bool} {c : Cursor}

theorem goesOn_goSection {past : c.Past} {following : Section moves past.rest}
    (goesOn : following.GoesOn) : (past.goSection following).GoesOn :=
  GoesOnFrom.of_reaches past.reaches goesOn

theorem goesOn_bindSection {α : Type} {outcome : Outcome false c α} (silent : outcome.Silent)
    {next : (value : α) → (d : Cursor) → Section moves d}
    (second : ∀ value d, (next value d).GoesOn) : (outcome.bindSection next).GoesOn := by
  obtain ⟨⟨result, d⟩, reaches, moved, errors⟩ := outcome
  cases (silent : errors = [])
  cases result with
  | ok value => exact (second value d).of_reaches reaches
  | error error => exact .inl rfl

theorem goesOn_ofSkipped {outcome : Outcome moves c Unit} (silent : outcome.Silent) :
    (ofSkipped outcome).GoesOn :=
  .inl silent

theorem goesOn_ofOutcome {outcome : Outcome moves c (List Item)} (silent : outcome.Silent) :
    (ofOutcome outcome).GoesOn :=
  .inl silent.map

theorem goesOn_classDeclaration {decorators : List Decorator} {isAbstract : Bool}
    (change : ClassDeclaration → Cursor → List Item) :
    (ofOutcome ((c.classDeclaration decorators isAbstract).mapAt change)).GoesOn := by
  rw [GoesOn, Section.errors, ofOutcome, rest_map, rest_mapAt, errors_map, errors_mapAt]
  exact goesOnFrom_classDeclaration decorators isAbstract

end Section

namespace Cursor

variable {c : Cursor}

/-- Bindings record no errors. -/
theorem errors_bindings (start : Span) (exported : Bool) (c : Cursor) :
    (c.bindings start exported).errors = [] := by
  have silent := silent_binding start exported c
  rw [bindings.eq_def]
  generalize c.binding start exported = first at silent ⊢
  obtain ⟨⟨result, d⟩, reaches, moved, errors⟩ := first
  cases (silent : errors = [])
  cases result with
  | error error => rfl
  | ok items =>
      have less := less_of_moved moved
      dsimp only
      cases d.mark? .comma with
      | none => exact Silent.recording silent_optionalSemicolon rfl
      | some past =>
          have := past.less
          exact errors_bindings _ exported past.rest
termination_by c.remaining
decreasing_by omega

theorem goesOn_bindings (start : Span) (exported : Bool) :
    (c.bindings start exported).GoesOn :=
  .inl (errors_bindings start exported c)

theorem goesOn_defaultClass (start : Span) (decorators : List Decorator) (isAbstract : Bool) :
    (c.defaultClass start decorators isAbstract).GoesOn := by
  unfold defaultClass
  split
  · exact Section.goesOn_ofSkipped .fail
  · split
    · exact Section.goesOn_classDeclaration _
    · exact Section.goesOn_ofSkipped (.go (silent_skipClassTail _))

theorem goesOn_defaultValue (start : Span) : (c.defaultValue start).GoesOn :=
  Section.goesOn_ofOutcome (.mapAt silent_valueStatement)

theorem goesOn_defaultName (start : Span) : (c.defaultName start).GoesOn := by
  unfold defaultName
  split
  · exact goesOn_defaultValue start
  · split
    · dsimp only
      split <;> split
      all_goals first
        | exact Section.goesOn_ofOutcome (.map (.go silent_optionalSemicolon))
        | exact goesOn_defaultValue start
    · exact goesOn_defaultValue start

theorem goesOn_defaultAfter (start : Span) (decorators : List Decorator) :
    (c.defaultAfter start decorators).GoesOn := by
  unfold defaultAfter
  split
  · split
    · exact Section.goesOn_goSection (goesOn_defaultClass start decorators true)
    · exact goesOn_defaultName start
  · exact goesOn_defaultClass start decorators false
  · exact Section.goesOn_ofOutcome (.mapAt silent_interfaceDeclaration)
  · exact Section.goesOn_ofSkipped silent_skipFunction
  · exact goesOn_defaultName start

theorem Past.goesOn_statement (past : c.Past) (start : Span) (exported : Bool)
    (decorators : List Decorator) : (past.statement start exported decorators).GoesOn := by
  have skipped : (Section.ofSkipped past.skipStatement).GoesOn :=
    Section.goesOn_ofSkipped past.silent_skipStatement
  have bindings : (past.goSection (past.rest.bindings start exported)).GoesOn :=
    Section.goesOn_goSection (goesOn_bindings start exported)
  unfold Past.statement
  dsimp only
  split
  · split
    · exact skipped
    · exact Section.goesOn_ofOutcome (.mapAt (.go silent_importAfter))
  · split
    · exact Section.goesOn_ofSkipped (.go silent_skipEnum)
    · exact bindings
  · exact bindings
  · exact bindings
  · exact Section.goesOn_classDeclaration _
  · exact Section.goesOn_ofOutcome (.mapAt silent_interfaceDeclaration)
  · exact Section.goesOn_ofSkipped silent_skipFunction
  · exact Section.goesOn_ofSkipped silent_skipEnum
  · exact Section.goesOn_ofSkipped (.go .ok)
  · split
    · exact Section.goesOn_goSection (Section.goesOn_classDeclaration _)
    · exact skipped
  · split
    · exact Section.goesOn_ofOutcome (.mapAt (.go silent_aliasAfter))
    · exact skipped
  · split
    · exact Section.goesOn_ofSkipped (.go silent_skipFunction)
    · exact skipped
  · exact skipped

theorem goesOn_statementIfAny (start : Span) (exported : Bool) (decorators : List Decorator) :
    (c.statementIfAny start exported decorators).GoesOn := by
  unfold statementIfAny
  split
  · next past _ => exact past.goesOn_statement start exported decorators
  · exact Section.goesOn_ofSkipped .ok

theorem goesOn_exportAfter (start : Span) (earlier : List Decorator) :
    (c.exportAfter start earlier).GoesOn := by
  refine Section.goesOn_bindSection silent_decorators fun decorators d => ?_
  dsimp only
  split
  · exact Section.goesOn_goSection (goesOn_defaultAfter start _)
  · refine Section.goesOn_bindSection (.ite (silent_optional _) .ok) fun _ e => ?_
    split
    · exact Section.goesOn_ofOutcome (.mapAt silent_exportList)
    · exact goesOn_statementIfAny start true _

theorem goesOn_decoratedStatement (start : Span) (decorators : List Decorator) :
    (c.decoratedStatement start decorators).GoesOn := by
  unfold decoratedStatement
  split
  · exact Section.goesOn_goSection (goesOn_exportAfter start decorators)
  · exact goesOn_statementIfAny start false decorators

/-- **A statement goes on from no errors but those of the body of one class that it declares.** -/
theorem Past.goesOn_item (past : c.Past) : past.item.GoesOn := by
  unfold Past.item
  split
  · refine Section.goesOn_goSection
      (Section.goesOn_bindSection (.lax (silent_decoratorAfter _)) fun first d => ?_)
    exact Section.goesOn_bindSection silent_decorators fun others e => goesOn_decoratedStatement _ _
  · exact Section.goesOn_goSection (goesOn_exportAfter _ [])
  · exact past.goesOn_statement _ false []

/-! ## The errors of a file -/

/-- The places at which a file attempts to read a statement, from a cursor on. -/
def itemStarts (c : Cursor) : List Cursor :=
  match c.next? with
  | none => []
  | some past =>
    have := past.itemEnd.property.2
    c :: itemStarts past.itemEnd.val
termination_by c.remaining

/-- The errors of the statement at a cursor: those that it goes on from, and that at which it is
given up. -/
def itemErrors (c : Cursor) : List ParseError :=
  match c.next? with
  | none => []
  | some past => past.item.errors ++ past.itemError

/-- **A file records the errors of its statements**, by induction on the statements. -/
theorem errors_after (c : Cursor) : (SourceUnit.after c).2 = c.itemStarts.flatMap itemErrors := by
  cases isNext : c.next? with
  | none =>
      rw [SourceUnit.after_end isNext, itemStarts, isNext]
      rfl
  | some past =>
      have fewer := past.itemEnd.property.2
      have isErrors : c.itemErrors = past.item.errors ++ past.itemError := by
        rw [itemErrors, isNext]
      have isStarts : c.itemStarts = c :: past.itemEnd.val.itemStarts := by
        rw [itemStarts, isNext]
      rw [SourceUnit.after_next isNext, isStarts, List.flatMap_cons, isErrors,
        ← errors_after past.itemEnd.val, List.append_assoc]
termination_by c.remaining

end Cursor

/-- The errors of a file are those of its statements, by the place at which they start. -/
theorem SourceUnit.errors_ofTokens (list : TokenList) :
    (ofTokens list).errors.Perm
      ((Cursor.start list.tokens list.stop).itemStarts.flatMap itemErrors) := by
  rw [← errors_after]
  exact List.mergeSort_perm _ _

end InjectionCheck
