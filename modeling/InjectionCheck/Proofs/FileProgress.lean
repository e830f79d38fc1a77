import InjectionCheck.Grammar.SourceUnit
import InjectionCheck.Proofs.RuleProgress

/-!
# Files whose reading ends

The loops of classes, statements and files. A class goes on behind each member, and a file behind
each statement; where one did not parse, recovery passes tokens instead, and at least one in any
case.

`reading_ends` collects what holds of every loop and of the recursion between the rules: whatever
the tokens of a file are, a loop advances or exits, a rule that is entered again has passed a token
since, and so the file is read in finitely many turns.
-/

set_option autoImplicit false

namespace InjectionCheck

namespace Cursor

/-! ## Classes -/

/-- One turn of `skipNameParts`. -/
def skipNamePartsPass (next : Bool → (c : Cursor) → Outcome false c Bool) (qualified : Bool)
    (c : Cursor) : Outcome false c Bool :=
  match c.mark? .dot with
  | some past => (past.go (past.rest.propertyName.andThen fun _ d _ => next true d)).lax
  | none => .ok qualified

theorem skipNameParts_ends : LoopEnds skipNamePartsPass skipNameParts := by
  refine .of_advances (fun i => ?_) fun i next next' same => ?_
  · rw [skipNameParts.eq_def]
    rfl
  · obtain ⟨qualified, c⟩ := i
    dsimp only [skipNamePartsPass]
    cases c.mark? .dot with
    | none => rfl
    | some past => exact congrArg Outcome.lax (past.go_andThen_congr fun _ d _ => same (_, d))

/-- One turn of `heritageNames`. -/
def heritageNamesPass (next : List NameUse → (c : Cursor) → Outcome true c (List NameUse))
    (earlier : List NameUse) (c : Cursor) : Outcome true c (List NameUse) :=
  c.heritageName.andThen fun name d _ =>
    match d.mark? .comma with
    | some past => (past.go (next (name.toList ++ earlier) past.rest)).lax
    | none => .ok (name.toList ++ earlier).reverse

theorem heritageNames_ends : LoopEnds heritageNamesPass heritageNames := by
  refine .of_advances (fun i => ?_) fun i next next' same => ?_
  · rw [heritageNames.eq_def]
    rfl
  · obtain ⟨earlier, c⟩ := i
    refine Outcome.andThen_congr fun name d less => ?_
    cases d.mark? .comma with
    | none => rfl
    | some past =>
        exact congrArg (fun outcome => (past.go outcome).lax)
          (same (_, past.rest) (Nat.lt_trans past.less less))

/-- A further cursor, seen from a cursor that reaches the one before it. -/
def Further.after {c d : Cursor} (reaches : c.Reaches d) (further : d.Further) : c.Further :=
  ⟨further.val, reaches.trans further.property⟩

/-- Where a group ends whose bracket is a token that is passed. -/
def Past.groupEnd {c : Cursor} (past : c.Past) (bracket : Bracket) : Cursor :=
  (restOfGroup bracket past.token.span past.rest).rest

theorem Past.reaches_groupEnd {c : Cursor} (past : c.Past) (bracket : Bracket) :
    c.Reaches (past.groupEnd bracket) :=
  past.reaches.trans (Outcome.reaches _)

/-- Behind a group there are fewer tokens ahead. -/
theorem Past.groupEnd_remaining_lt {c : Cursor} (past : c.Past) (bracket : Bracket) :
    (past.groupEnd bracket).remaining < c.remaining :=
  Nat.lt_of_le_of_lt (Outcome.reaches _).remaining_le past.less

/-- One turn of `skipToMember`. -/
def skipToMemberPass (next : (c : Cursor) → c.Further) (c : Cursor) : c.Further :=
  match c.next? with
  | none => ⟨c, .refl c⟩
  | some past =>
    match past.token.kind with
    | .mark .rbrace => ⟨c, .refl c⟩
    | .mark .semicolon => ⟨past.rest, past.reaches⟩
    | .mark .lbrace => ⟨past.groupEnd .brace, past.reaches_groupEnd .brace⟩
    | kind =>
      match kind.opens? with
      | some bracket => (next (past.groupEnd bracket)).after (past.reaches_groupEnd bracket)
      | none => (next past.rest).after past.reaches

theorem skipToMember_ends : EndsAs remaining skipToMemberPass skipToMember := by
  refine .of_advances (fun c => ?_) fun c next next' same => ?_
  · rw [skipToMember.eq_def]
    rfl
  · unfold skipToMemberPass
    cases c.next? with
    | none => rfl
    | some past =>
        simp only [same past.rest past.less, same _ (past.groupEnd_remaining_lt _)]

/-- Recovery from the error of a member only moves forward. -/
theorem Past.reaches_recoverMember {start : Cursor} (past : start.Past) (c : Cursor)
    (reaches : start.Reaches c) : start.Reaches (recoverMember past c reaches).val :=
  (recoverMember past c reaches).property.1

/-- Recovery from the error of a member passes a token. -/
theorem Past.recoverMember_remaining_lt {start : Cursor} (past : start.Past) (c : Cursor)
    (reaches : start.Reaches c) :
    (recoverMember past c reaches).val.remaining < start.remaining :=
  (recoverMember past c reaches).property.2

/-- One turn of `membersAfter`. -/
def membersPass (opening : Opening)
    (next : List ClassMember → (c : Cursor) → Outcome true c (List ClassMember))
    (earlier : List ClassMember) (c : Cursor) : Outcome true c (List ClassMember) :=
  match c.mark? .rbrace with
  | some past => past.go (.ok earlier.reverse)
  | none =>
    match c.next? with
    | none => .fail (.unclosed opening .rbrace c.span)
    | some past =>
      match c.classMember with
      | ⟨⟨.ok member, d⟩, reaches, _, errors⟩ =>
        ((next (member.toList ++ earlier) d).following reaches).recording errors
      | ⟨⟨.error error, d⟩, reaches, _, errors⟩ =>
        ((next earlier (recoverMember past d reaches).val).following
          (past.reaches_recoverMember d reaches)).recording (errors ++ [error])

theorem membersAfter_ends (opening : Opening) :
    LoopEnds (membersPass opening) (membersAfter opening) := by
  refine .of_advances (fun i => ?_) fun i next next' same => ?_
  · dsimp only
    rw [membersAfter.eq_def]
    rfl
  · obtain ⟨earlier, c⟩ := i
    dsimp only [membersPass]
    obtain ⟨⟨result, d⟩, reaches, moved, errors⟩ := c.classMember
    cases c.mark? .rbrace with
    | some past => rfl
    | none =>
        cases c.next? with
        | none => rfl
        | some past =>
            cases result with
            | ok member => simp only [same (_, d) (Outcome.less_of_moved moved)]
            | error error =>
                simp only [same (_, (recoverMember past d reaches).val)
                  (past.recoverMember_remaining_lt d reaches)]

/-! ## Statements and files -/

/-- One turn of `bindings`. -/
def bindingsPass (exported : Bool) (next : Span → (c : Cursor) → Section true c) (start : Span)
    (c : Cursor) : Section true c :=
  match c.binding start exported with
  | ⟨⟨.ok items, d⟩, reaches, moved, errors⟩ =>
    have less := Outcome.less_of_moved moved
    match d.mark? .comma with
    | some past =>
      let following := next past.rest.span past.rest
      ⟨items ++ following.items,
        ((past.go following.outcome).seenFrom reaches less).recording errors⟩
    | none => ⟨items, (d.optionalSemicolon.seenFrom reaches less).recording errors⟩
  | ⟨⟨.error error, _⟩, reaches, _, errors⟩ => ⟨[], (Outcome.failed error reaches).recording errors⟩

theorem bindings_ends (exported : Bool) :
    LoopEnds (bindingsPass exported) (fun start c => bindings start exported c) := by
  refine .of_advances (fun i => ?_) fun i next next' same => ?_
  · dsimp only
    rw [bindings.eq_def]
    rfl
  · obtain ⟨start, c⟩ := i
    dsimp only [bindingsPass]
    obtain ⟨⟨result, d⟩, reaches, moved⟩ := c.binding start exported
    cases result with
    | error error => rfl
    | ok items =>
        dsimp only
        cases d.mark? .comma with
        | none => rfl
        | some past =>
            simp only [same (_, past.rest)
              (Nat.lt_trans past.less (Outcome.less_of_moved moved))]

/-- One turn of `skipToItem`. -/
def skipToItemPass (next : (c : Cursor) → c.Further) (c : Cursor) : c.Further :=
  match c.next? with
  | none => ⟨c, .refl c⟩
  | some past =>
    if past.token.kind.startsItem then ⟨c, .refl c⟩
    else if past.token.kind = .mark .semicolon then ⟨past.rest, past.reaches⟩
    else
      match past.token.kind.opens? with
      | some bracket => (next (past.groupEnd bracket)).after (past.reaches_groupEnd bracket)
      | none => (next past.rest).after past.reaches

theorem skipToItem_ends : EndsAs remaining skipToItemPass skipToItem := by
  refine .of_advances (fun c => ?_) fun c next next' same => ?_
  · rw [skipToItem.eq_def]
    rfl
  · unfold skipToItemPass
    cases c.next? with
    | none => rfl
    | some past => simp only [same past.rest past.less, same _ (past.groupEnd_remaining_lt _)]

/-- Where a file goes on after the statement that starts with a token: behind the statement, or
where recovery from its error ends. -/
def Past.itemEnd {c : Cursor} (past : c.Past) :
    { d : Cursor // c.Reaches d ∧ d.remaining < c.remaining } :=
  match past.item.outcome with
  | ⟨⟨.ok _, d⟩, reaches, moved, _⟩ => ⟨d, reaches, Outcome.less_of_moved moved⟩
  | ⟨⟨.error _, d⟩, reaches, _, _⟩ => recoverItem past d reaches

/-- The error at which the statement that starts with a token stopped, if it did. -/
def Past.itemError {c : Cursor} (past : c.Past) : List ParseError :=
  match past.item.outcome.result with
  | .ok _ => []
  | .error error => [error]

end Cursor

/-- One turn of `SourceUnit.after`. -/
def SourceUnit.afterPass (next : Cursor → List Item × List ParseError) (c : Cursor) :
    List Item × List ParseError :=
  match c.next? with
  | none => ([], [])
  | some past =>
    let further := next past.itemEnd.val
    (past.item.items ++ further.1, past.item.errors ++ (past.itemError ++ further.2))

theorem SourceUnit.after_ends : EndsAs Cursor.remaining afterPass after := by
  refine .of_advances (fun c => ?_) fun c next next' same => ?_
  · rw [after.eq_def]
    unfold afterPass
    cases c.next? with
    | none => rfl
    | some past =>
        dsimp only [Cursor.Past.itemEnd, Cursor.Past.itemError]
        generalize past.item = statement
        obtain ⟨items, ⟨⟨result, d⟩, reaches, moved, errors⟩⟩ := statement
        cases result <;> rfl
  · unfold afterPass
    cases c.next? with
    | none => rfl
    | some past => simp only [same past.itemEnd.val past.itemEnd.property.2]

/-- The rest of a file declares the items of its first statement and those behind it. -/
theorem SourceUnit.after_next {c : Cursor} {past : c.Past} (isNext : c.next? = some past) :
    after c = (past.item.items ++ (after past.itemEnd.val).1,
      past.item.errors ++ (past.itemError ++ (after past.itemEnd.val).2)) := by
  rw [after_ends.turns c, afterPass, isNext]

theorem SourceUnit.after_end {c : Cursor} (isEnd : c.next? = none) : after c = ([], []) := by
  rw [after_ends.turns c, afterPass, isEnd]

/-! ## The whole grammar -/

open Cursor Rules Lookahead in
/-- The reading of a file ends: its loops advance or exit, and its rules recur past a token. -/
structure ReadingEnds : Prop where
  /-- The file goes on behind a statement, or where recovery from its error ends, and there fewer
  tokens are ahead. -/
  statement {c : Cursor} (past : c.Past) :
    c.Reaches past.itemEnd.val ∧ past.itemEnd.val.remaining < c.remaining
  file : EndsAs remaining SourceUnit.afterPass SourceUnit.after
  /-- As many turns as there are tokens, and one more, read a file. -/
  turns (list : TokenList) (bottom : Cursor → List Item × List ParseError) :
    SourceUnit.afterPass^[list.tokens.length + 1] bottom (.start list.tokens list.stop) =
      SourceUnit.after (.start list.tokens list.stop)
  itemRecovery : EndsAs remaining skipToItemPass skipToItem
  /-- The rules that call each other. -/
  rules : EndsAs remaining unfolded Rules.all
  /-- A class goes on behind a member that parses, and there fewer tokens are ahead. -/
  member (c : Cursor) (value : Option ClassMember) (parses : c.classMember.result = .ok value) :
    c.classMember.rest.remaining < c.remaining
  /-- A class goes on where recovery from an error ends, and there fewer tokens are ahead. -/
  recoveredMember {start : Cursor} (past : start.Past) (c : Cursor) (reaches : start.Reaches c) :
    (recoverMember past c reaches).val.remaining < start.remaining
  members (opening : Opening) : LoopEnds (membersPass opening) (membersAfter opening)
  memberRecovery : EndsAs remaining skipToMemberPass skipToMember
  nameParts : LoopEnds skipNamePartsPass skipNameParts
  heritageNames : LoopEnds heritageNamesPass Cursor.heritageNames
  heritage : EndsAs remaining skipHeritagePass skipHeritage
  bindings (exported : Bool) :
    LoopEnds (bindingsPass exported) (fun start c => c.bindings start exported)
  /-- Lists of parameters, arguments, type arguments, tuple elements, properties and names in
  braces. -/
  elements {limit : Cursor} {α : Type} (opening : Opening) (closing : Mark)
    (missing : ParseError → ParseError)
    (element : (c : Cursor) → c.remaining < limit.remaining → Outcome true c α) :
    LoopEndsBefore (elementsPass opening closing missing element)
      (Rules.elements opening closing missing element)
  arrayElements {limit : Cursor} (rules : Rules limit) (opening : Opening) :
    LoopEndsBefore (arrayElementsPass rules opening) (rules.arrayElements opening)
  typeMembers {limit : Cursor} (rules : Rules limit) (opening : Opening) :
    LoopEndsUpto (typeMembersPass rules opening) (rules.typeMembersAfter opening)
  separators : EndsAs remaining skipSeparatorsPass skipSeparators
  decorators {limit : Cursor} (rules : Rules limit) :
    LoopEndsUpto (decoratorsPass rules) rules.decorators
  decoratorName : LoopEnds lastPartPass lastPart
  modifiers : LoopEnds modifiersPass Cursor.modifiers
  qualifiedTail : EndsAs remaining skipQualifiedTailPass skipQualifiedTail
  typeSuffixes {limit : Cursor} (rules : Rules limit) (start : Span) :
    LoopEndsBefore (typeSuffixesPass rules start) (rules.typeSuffixes start)
  furtherMembers {limit : Cursor} (sign : Mark)
    (member : (c : Cursor) → c.remaining ≤ limit.remaining → Outcome true c TypeExpression) :
    LoopEndsUpto (furtherMembersPass sign member) (Rules.furtherMembers sign member)
  constructedClass {limit : Cursor} (rules : Rules limit) (start : Span) :
    LoopEndsBefore (constructedClassPass rules start) (rules.constructedClass start)
  suffixes {limit : Cursor} (rules : Rules limit) (start : Span) :
    LoopEndsBefore (suffixesPass rules start) (rules.suffixes start)
  operators {limit : Cursor} (rules : Rules limit) (least : Nat) (start : Span) :
    LoopEndsBefore (operatorsPass rules least start) (rules.operators least start)
  sequence {limit : Cursor} (rules : Rules limit) (start : Span) :
    LoopEndsBefore (sequencePass rules start) (rules.sequence start)
  restOfStatement : EndsAs remaining restOfStatementPass Cursor.restOfStatement
  group (opening : Opening) (outer : Bracket) :
    LoopEnds (closeAllPass opening outer) (closeAll opening outer)
  angles (opening : Opening) : LoopEnds (closeAnglesPass opening) (closeAngles opening)
  closeIndex :
    EndsAs (fun i : List Token × Nat × Nat => i.1.length)
      (fun next i => closeIndexPass (fun tokens depth passed => next (tokens, depth, passed))
        i.1 i.2.1 i.2.2)
      (fun i => closeIndex?.go i.1 i.2.1 i.2.2)
  angleCloseIndex :
    EndsAs (fun i : List Token × Nat × Nat => i.1.length)
      (fun next i => angleCloseIndexPass (fun tokens depth passed => next (tokens, depth, passed))
        i.1 i.2.1 i.2.2)
      (fun i => angleCloseIndex?.go i.1 i.2.1 i.2.2)
  ascription : EndsAs List.length ascriptionThenArrowPass ascriptionThenArrow
  question : EndsAs List.length reachesQuestionPass reachesQuestion

/-- **The reading of every file ends**, on malformed input too. -/
theorem reading_ends : ReadingEnds where
  statement past := past.itemEnd.property
  file := SourceUnit.after_ends
  turns _ bottom := SourceUnit.after_ends.ends bottom _ _ (Nat.lt_succ_self _)
  itemRecovery := Cursor.skipToItem_ends
  rules := Rules.all_ends
  member c _ parses := c.classMember.rest_remaining_lt parses
  recoveredMember past c reaches := past.recoverMember_remaining_lt c reaches
  members := Cursor.membersAfter_ends
  memberRecovery := Cursor.skipToMember_ends
  nameParts := Cursor.skipNameParts_ends
  heritageNames := Cursor.heritageNames_ends
  heritage := Cursor.skipHeritage_ends
  bindings := Cursor.bindings_ends
  elements := Rules.elements_ends
  arrayElements := Rules.arrayElements_ends
  typeMembers := Rules.typeMembersAfter_ends
  separators := Rules.skipSeparators_ends
  decorators := Rules.decorators_ends
  decoratorName := Rules.lastPart_ends
  modifiers := Cursor.modifiers_ends
  qualifiedTail := Cursor.skipQualifiedTail_ends
  typeSuffixes := Rules.typeSuffixes_ends
  furtherMembers := Rules.furtherMembers_ends
  constructedClass := Rules.constructedClass_ends
  suffixes := Rules.suffixes_ends
  operators := Rules.operators_ends
  sequence := Rules.sequence_ends
  restOfStatement := Cursor.restOfStatement_ends
  group := Cursor.closeAll_ends
  angles := Cursor.closeAngles_ends
  closeIndex := Lookahead.closeIndex_ends
  angleCloseIndex := Lookahead.angleCloseIndex_ends
  ascription := Lookahead.ascriptionThenArrow_ends
  question := Lookahead.reachesQuestion_ends

end InjectionCheck
