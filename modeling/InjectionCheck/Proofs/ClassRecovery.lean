import InjectionCheck.Proofs.DepthOfExpressions
import InjectionCheck.Proofs.ParallelClasses
import InjectionCheck.Proofs.SkippedBodies

/-!
# Where a class goes on after an error

A member of a class that does not parse is passed, and the class goes on after it. Recovery starts
where the member stopped and passes whole groups, up to a semicolon or a closing brace, which it
takes for that of the class. So it matters in how many braces the member stopped. A member that
parses stops in no more braces than it started in. One that fails inside braces leaves them open,
and the class ends at the brace that closes them; and so it does where a member starts with a brace,
which recovery passes alone.

Where no attempt to read a member passes a closing brace that it has not opened, this is the only
way to lose the rest of a class (`classBody_ends`): the body of a class always ends, and it ends at
its own closing brace if and only if no attempt fails inside braces.
-/

set_option autoImplicit false

namespace InjectionCheck

open Cursor Outcome

/-! ## Braces in what is well nested -/

namespace Nested

variable {tokens others : List Token}

theorem braceDepth_token {token : Token} (opens : token.kind.opens? = none)
    (closes : token.kind.closes? = none) : token.kind.closedBraces = 0 := by
  refine Kind.closedBraces_eq_zero (fun brace => ?_) fun brace => ?_
  · rw [brace] at opens
    cases opens
  · rw [brace] at closes
    cases closes

/-- A group opens as many braces as it closes. -/
theorem braceDepth_group {opening closing : Token} {bracket : Bracket}
    (opens : opening.kind.opens? = some bracket) (closes : closing.kind.closes? = some bracket)
    (inner rest : List Token) :
    braceDepth (opening :: (inner ++ closing :: rest)) = braceDepth inner + braceDepth rest := by
  rw [braceDepth, braceDepth_append, braceDepth, Kind.closedBraces_opens opens,
    Kind.closedBraces_closes closes]
  omega

theorem braceDepth_eq_zero (nested : Nested tokens) : braceDepth tokens = 0 := by
  induction nested with
  | nil => rfl
  | token opens closes _ ih => rw [braceDepth, braceDepth_token opens closes, ih]; rfl
  | group opens closes _ _ ih ih' => rw [braceDepth_group opens closes, ih, ih']; rfl

/-- At the end of what is well nested at least as many braces are closed as opened. -/
theorem braceDepth_nonneg (nested : Nested tokens) (ends : others <:+ tokens) :
    0 ≤ braceDepth others := by
  induction nested generalizing others with
  | nil =>
      rw [List.suffix_nil.1 ends]
      exact Int.le_refl 0
  | token opens closes further ih =>
      obtain rfl | ends := List.suffix_cons_iff.1 ends
      · exact Int.le_of_eq (braceDepth_eq_zero (.token opens closes further)).symm
      · exact ih ends
  | @group opening closing bracket inner rest opens closes inside further ih ih' =>
      obtain rfl | ⟨part, isPart, rfl⟩ | ends := suffix_group_cases ends
      · exact Int.le_of_eq (braceDepth_eq_zero (.group opens closes inside further)).symm
      · rw [braceDepth_append, braceDepth, Kind.closedBraces_closes closes,
          further.braceDepth_eq_zero]
        have := ih isPart
        have : (0 : Int) ≤ (Kind.mark bracket.closing).closedBraces := by cases bracket <;> decide
        omega
      · exact ih' ends

end Nested

/-! ## The body of a class -/

/-- The tokens behind the opening brace of a group of braces, up to the end of the file. -/
structure BracedBody where
  inner : List Token
  closing : Token
  rest : List Token
  nested : Nested inner
  closes : closing.kind = .mark .rbrace

namespace BracedBody

variable (body : BracedBody) {c d : Cursor}

/-- A cursor stands in a body, in front of its closing brace. -/
def At (c : Cursor) : Prop :=
  ∃ part, part <:+ body.inner ∧ c.ahead = part ++ body.closing :: body.rest

/-- In how many braces the parts of a body stand that stand in no further braces. -/
def depth : Int := braceDepth (body.closing :: body.rest)

theorem depth_eq : body.depth = 1 + braceDepth body.rest := by
  rw [depth, braceDepth, body.closes]
  rfl

variable {body}

theorem At.depth_le (isAt : body.At c) : body.depth ≤ c.depth := by
  obtain ⟨part, isPart, ahead⟩ := isAt
  have := body.nested.braceDepth_nonneg isPart
  rw [Cursor.depth, ahead, braceDepth_append]
  exact Int.le_add_of_nonneg_left this

theorem At.exists_next? (isAt : body.At c) : ∃ past, c.next? = some past := by
  obtain ⟨part, -, ahead⟩ := isAt
  have nonempty : c.kinds ≠ [] := by simp [kinds, ahead]
  obtain ⟨kind, rest, isNext⟩ := List.exists_cons_of_ne_nil nonempty
  obtain ⟨past, isNext, -⟩ := next?_of_kinds isNext
  exact ⟨past, isNext⟩

/-- What is next in a body is its closing brace or stands in front of it. -/
theorem At.next?_cases (isAt : body.At c) {past : c.Past} (isNext : c.next? = some past) :
    (past.token = body.closing ∧ past.rest.ahead = body.rest) ∨
      ∃ part, past.token :: part <:+ body.inner ∧
        past.rest.ahead = part ++ body.closing :: body.rest := by
  obtain ⟨part, isPart, ahead⟩ := isAt
  rw [ahead_of_next? isNext] at ahead
  cases part with
  | nil => exact .inl (List.cons.inj ahead)
  | cons token part =>
      obtain ⟨rfl, same⟩ := List.cons.inj ahead
      exact .inr ⟨part, isPart, same⟩

/-- Behind any token but a closing brace a cursor still stands in the body. -/
theorem At.rest (isAt : body.At c) {past : c.Past} (isNext : c.next? = some past)
    (other : past.token.kind ≠ .mark .rbrace) : body.At past.rest := by
  obtain ⟨same, -⟩ | ⟨part, isPart, ahead⟩ := isAt.next?_cases isNext
  · exact absurd (same ▸ body.closes) other
  · exact ⟨part, (List.suffix_cons _ _).trans isPart, ahead⟩

/-- A closing brace in a body closes the body if and only if it stands in no further braces. -/
theorem At.closes_iff (isAt : body.At c) {past : c.Past} (isNext : c.next? = some past)
    (isBrace : past.token.kind = .mark .rbrace) :
    past.rest.ahead = body.rest ↔ c.depth = body.depth := by
  have depth := depth_of_next? isNext
  rw [isBrace, show (Kind.mark .rbrace).closedBraces = 1 from rfl] at depth
  rw [body.depth_eq, depth]
  constructor
  · intro same
    rw [Cursor.depth, same]
  · intro same
    obtain ⟨-, ahead⟩ | ⟨part, isPart, ahead⟩ := isAt.next?_cases isNext
    · exact ahead
    · -- behind a brace that stands in front of the last one there are still more to be closed
      have := body.nested.braceDepth_nonneg ((List.suffix_cons _ _).trans isPart)
      have := body.depth_eq
      rw [Cursor.depth, ahead, braceDepth_append, ← BracedBody.depth] at same
      omega

/-- A group in a body is passed as a whole. -/
theorem at_restOfGroup (isAt : body.At c) {past : c.Past} (isNext : c.next? = some past)
    {bracket : Bracket} (opens : past.token.kind.opens? = some bracket) (opened : Span) :
    body.At (restOfGroup bracket opened past.rest).rest ∧
      (restOfGroup bracket opened past.rest).rest.depth = c.depth := by
  obtain ⟨same, -⟩ | ⟨part, isPart, ahead⟩ := isAt.next?_cases isNext
  · rw [same, body.closes] at opens
    cases opens
  obtain ⟨inner, closing, rest, nested, closes, rfl⟩ := body.nested.exists_group opens isPart
  have stops : ∃ behind, (restOfGroup bracket opened past.rest).rest =
      ⟨behind, rest ++ body.closing :: body.rest, past.rest.stop⟩ := by
    generalize past.rest = d at ahead
    obtain ⟨behind, tokens, stop⟩ := d
    obtain rfl : tokens = inner ++ closing :: (rest ++ body.closing :: body.rest) := by
      simpa using ahead
    have passed : (closeAll ⟨bracket.opening, opened⟩ bracket [bracket]
        ⟨behind, inner ++ closing :: (rest ++ body.closing :: body.rest), stop⟩).stopped =
          ⟨.ok (), ⟨closing :: (inner.reverse ++ behind), rest ++ body.closing :: body.rest,
            stop⟩⟩ := by
      rw [closeAll_nested nested, closeAll_closing _ _ _ _ _ _ _ closes]
      unfold closeAll
      rfl
    obtain ⟨_, same⟩ := Outcome.stopped_bind passed fun _ d _ =>
      (.ok (d.spanFrom opened) : Outcome false d Span)
    exact ⟨_, rest_of_stopped same⟩
  obtain ⟨behind, stops⟩ := stops
  rw [stops]
  refine ⟨⟨rest, ?_, rfl⟩, ?_⟩
  · refine List.IsSuffix.trans ?_ isPart
    exact ⟨past.token :: (inner ++ [closing]), by simp⟩
  · rw [Cursor.depth, Cursor.depth, ahead_of_next? isNext, ahead, List.append_assoc,
      List.cons_append, Nested.braceDepth_group opens closes, nested.braceDepth_eq_zero]
    exact (Int.zero_add _).symm

/-- **Skipping to the next member passes groups as a whole**, so it stays in as many braces. -/
theorem at_skipToMember {c : Cursor} (isAt : body.At c) :
    body.At c.skipToMember.val ∧ c.skipToMember.val.depth = c.depth := by
  obtain ⟨past, isNext⟩ := isAt.exists_next?
  have fewer := past.less
  have depth := depth_of_next? isNext
  rw [Cursor.skipToMember, isNext]
  dsimp only
  split
  · exact ⟨isAt, rfl⟩
  · next kind =>
      rw [kind] at depth
      exact ⟨isAt.rest isNext (by simp [kind]), depth.trans (Int.zero_add _) |>.symm⟩
  · next kind => exact at_restOfGroup isAt isNext (by rw [kind]; rfl) _
  · next noClose _ _ =>
      split
      · next bracket opens =>
          obtain ⟨isAt', depth'⟩ := at_restOfGroup isAt isNext opens past.token.span
          have := (restOfGroup bracket past.token.span past.rest).reaches.remaining_le
          obtain ⟨isAt'', depth''⟩ := at_skipToMember isAt'
          exact ⟨isAt'', depth''.trans depth'⟩
      · next opens =>
          have noOpen : past.token.kind ≠ .mark .lbrace := fun brace => by
            rw [brace] at opens
            cases opens
          rw [Kind.closedBraces_eq_zero noOpen noClose, Int.zero_add] at depth
          obtain ⟨isAt', depth'⟩ := at_skipToMember (isAt.rest isNext noClose)
          exact ⟨isAt', depth'.trans depth.symm⟩
termination_by c.remaining
decreasing_by all_goals omega

/-- Where a member cannot even begin, its first token is passed alone: an opening brace leads
into a group, and any other token leaves as many braces open. -/
theorem At.skipped_first (isAt : body.At c) {past : c.Past} (isNext : c.next? = some past)
    (noClose : past.token.kind ≠ .mark .rbrace) :
    body.At past.rest.skipToMember.val ∧ c.depth ≤ past.rest.skipToMember.val.depth ∧
      (past.rest.skipToMember.val.depth = c.depth ↔ past.token.kind ≠ .mark .lbrace) := by
  obtain ⟨isAt', depth⟩ := at_skipToMember (isAt.rest isNext noClose)
  have change := depth_of_next? isNext
  rw [depth]
  refine ⟨isAt', ?_⟩
  by_cases brace : past.token.kind = .mark .lbrace
  · rw [brace, show (Kind.mark .lbrace).closedBraces = -1 from rfl] at change
    simp only [brace, ne_eq, not_true_eq_false, iff_false]
    omega
  · rw [Kind.closedBraces_eq_zero brace noClose, Int.zero_add] at change
    simp [brace, change]

end BracedBody

/-! ## Members that parse -/

namespace Cursor

variable {c : Cursor} {n : Int}

section Members

variable (within : c.depth ≤ n)

include within

theorem endsWithin_ascription : c.ascription.EndsWithin n := by
  unfold ascription
  split
  · next past found =>
      exact .lax (.map (.go (Rules.endsWithin_fullType (Rules.endWithin_all _)
        (depth_mark?_le found (by decide) within) _)) fun _ _ => id)
  · exact .ok within

theorem endsWithin_initial : c.initial.EndsWithin n := by
  unfold initial
  split
  · next past found =>
      exact .lax (.map (.go (Rules.endsWithin_assignmentFrom (Rules.endWithin_all _)
        (depth_mark?_le found (by decide) within) _)) fun _ _ => id)
  · exact .ok within

theorem endsWithin_parameters : c.parameters.EndsWithin n :=
  Rules.endsWithin_parameters (Rules.endWithin_all c) within _

theorem endsWithin_resultAscription : c.resultAscription.EndsWithin n :=
  Rules.endsWithin_resultAscription (Rules.endWithin_all c) within _

theorem endsWithin_skipCallableTail : c.skipCallableTail.EndsWithin n :=
  Rules.endsWithin_skipCallableTail (Rules.endWithin_all c) within _

theorem endsWithin_skipBody : c.skipBody.EndsWithin n :=
  .ite (fun _ => .lax (.map (endsWithin_skipGroup within) fun _ _ => id)) fun _ =>
    endsWithin_optionalSemicolon within

theorem endsWithin_skipComputedClassMember : c.skipComputedClassMember.EndsWithin n :=
  .andThen (endsWithin_skipGroup within) fun _ _ _ within =>
    .bind (endsWithin_optionalMark within (by decide)) fun _ _ _ within =>
      .bind (endsWithin_ascription within) fun _ _ _ within =>
        .bind (endsWithin_initial within) fun _ _ _ within =>
          .ite (fun _ => .lax (endsWithin_skipCallableTail within)) fun _ =>
            endsWithin_optionalSemicolon within

theorem endsWithin_constructorAfter (start : Span) : (c.constructorAfter start).EndsWithin n :=
  .andThen (endsWithin_parameters within) fun _ _ _ within =>
    .bind (endsWithin_skipBody within) fun _ _ _ within => .ok within

theorem endsWithin_methodAfter (start : Span) (modifiers : Modifiers) (isGetter : Bool)
    (name : String) (optional : Bool) :
    (c.methodAfter start modifiers isGetter name optional).EndsWithin n :=
  .bind (endsWithin_skipAnglesIfAny within) fun _ _ _ within =>
    .andThen (endsWithin_parameters within) fun _ _ _ within =>
      .bind (endsWithin_resultAscription within) fun _ _ _ within =>
        .bind (endsWithin_skipBody within) fun _ _ _ within => .ok within

theorem endsWithin_propertyAfter (start : Span) (modifiers : Modifiers) (name : String)
    (optional : Bool) : (c.propertyAfter start modifiers name optional).EndsWithin n :=
  .bind (endsWithin_ascription within) fun _ _ _ within =>
    .bind (endsWithin_initial within) fun _ _ _ within =>
      .bind (endsWithin_optionalSemicolon within) fun _ _ _ within => .ok within

theorem endsWithin_namedMember (start : Span) (modifiers : Modifiers) (isGetter : Bool) :
    (c.namedMember start modifiers isGetter).EndsWithin n :=
  .bind (endsWithin_optionalMark within (by decide)) fun _ _ _ within =>
    .andThen (endsWithin_propertyName within) fun _ _ _ within =>
      .bind (endsWithin_optionalMark within (by decide)) fun _ _ _ within =>
        .bind (endsWithin_optionalMark within (by decide)) fun _ _ _ within =>
          .ite (fun _ => .lax (endsWithin_constructorAfter within _)) fun _ =>
            .ite (fun _ => .lax (endsWithin_methodAfter within _ _ _ _ _)) fun _ =>
              endsWithin_propertyAfter within _ _ _ _

theorem endsWithin_memberAfter (start : Span) (modifiers : Modifiers) :
    (c.memberAfter start modifiers).EndsWithin n := by
  have named : ((c.namedMember start modifiers false).map some).EndsWithin n :=
    .map (endsWithin_namedMember within _ _ _) fun _ _ => id
  have word {text : String} {past : c.Past} (isNext : c.next? = some past)
      (sees : c.seesAccessorWord text = true) : past.rest.depth ≤ n := by
    refine depth_rest_le isNext (fun brace => ?_) within
    rw [seesAccessorWord, seesName, kind?_of_kinds (kinds_of_next? isNext), brace] at sees
    simp at sees
  refine .ite (fun _ => .map (endsWithin_skipGroup within) fun _ _ => id) fun _ => ?_
  refine .ite (fun _ => .map (endsWithin_skipComputedClassMember within) fun _ _ => id) fun _ => ?_
  split
  · exact named
  next past isNext =>
  refine .ite (fun sees => .go ?_) fun _ => .ite (fun sees => .go ?_) fun _ => named
  · exact .map (endsWithin_namedMember (word isNext sees) _ _ _) fun _ _ => id
  · exact .andThen (endsWithin_propertyName (word isNext sees)) fun _ _ _ within =>
      .map (endsWithin_skipCallableTail within) fun _ _ => id

/-- **A member that parses stops in no more braces than it starts in.** -/
theorem endsWithin_classMember : c.classMember.EndsWithin n := by
  unfold classMember
  split
  · next past found => exact .go (.ok (depth_mark?_le found (by decide) within))
  · exact .bind (Rules.endsWithin_decorators (Rules.endWithin_all c) _ _ within)
      fun _ _ _ within => .bind (endsWithin_modifiers _ within) fun _ _ _ within =>
        endsWithin_memberAfter within _ _

end Members

/-! ## Attempts to read a member -/

/-- The places at which a class attempts to read a member, where its members are read on from a
cursor. -/
def memberStarts (c : Cursor) : List Cursor :=
  match c.mark? .rbrace with
  | some _ => []
  | none =>
    match c.next? with
    | none => []
    | some past =>
      have := past.memberEnd.property.2
      c :: memberStarts past.memberEnd.val
termination_by c.remaining

theorem memberStarts_of_closed {last : c.Past} (closed : c.mark? .rbrace = some last) :
    c.memberStarts = [] := by
  rw [memberStarts, closed]

theorem memberStarts_of_opened {past : c.Past} (isNext : c.next? = some past)
    (opened : c.mark? .rbrace = none) :
    c.memberStarts = c :: past.memberEnd.val.memberStarts := by
  rw [memberStarts, opened, isNext]

/-- The attempt to read a member passes no closing brace that it has not opened: on its way it
never stands in fewer braces than it starts in. -/
def KeepsBraces (c : Cursor) : Prop :=
  ∀ passed ≤ c.remaining - c.classMember.rest.remaining, c.depth ≤ braceDepth (c.ahead.drop passed)

/-- The attempt to read a member fails, and leaves recovery in braces: it stops inside some that it
has opened, or in front of one where it starts, which recovery passes alone. -/
def FailsInBraces (c : Cursor) : Prop :=
  c.classMember.result.isOk = false ∧
    (c.depth < c.classMember.rest.depth ∨ c.classMember.rest = c ∧ c.seesMark .lbrace = true)

instance (c : Cursor) : Decidable c.KeepsBraces :=
  inferInstanceAs (Decidable (∀ passed ≤ _, c.depth ≤ braceDepth (c.ahead.drop passed)))

instance (c : Cursor) : Decidable c.FailsInBraces := inferInstanceAs (Decidable (_ ∧ (_ ∨ _)))

theorem KeepsBraces.depth_le (keeps : c.KeepsBraces) : c.depth ≤ c.classMember.rest.depth := by
  obtain ⟨passed, ahead, -, -⟩ := c.classMember.reaches
  have count : c.remaining - c.classMember.rest.remaining = passed.length := by
    rw [remaining, remaining, ahead, List.length_append, Nat.add_sub_cancel]
  have last := keeps passed.length (Nat.le_of_eq count.symm)
  rwa [ahead, List.drop_left] at last

/-- An attempt that passes no closing brace of others stays in front of that of the class. -/
theorem KeepsBraces.at_rest {body : BracedBody} (keeps : c.KeepsBraces) (isAt : body.At c) :
    body.At c.classMember.rest := by
  have inside := isAt.depth_le
  obtain ⟨part, isPart, ahead⟩ := isAt
  obtain ⟨passed, ahead', -, -⟩ := c.classMember.reaches
  obtain ⟨more, rfl, isRest⟩ | ⟨more, rfl, isRest⟩ :=
    List.append_eq_append_iff.1 (ahead.symm.trans ahead')
  · cases more with
    | nil => exact ⟨[], List.nil_suffix, isRest.symm⟩
    | cons token more =>
        -- behind the closing brace of the class it would stand in fewer braces
        have count : part.length + 1 ≤ c.remaining - c.classMember.rest.remaining := by
          rw [remaining, remaining, ahead', List.length_append, Nat.add_sub_cancel]
          simp
        have last := keeps _ count
        rw [ahead, ← List.drop_drop, List.drop_left, List.drop_one, List.tail_cons] at last
        have := body.depth_eq
        omega
  · exact ⟨more, (List.suffix_append _ _).trans isPart, isRest⟩

/-- Where recovery goes on after an attempt that fails: it stands in as many braces as the attempt
stopped in, or in those of the brace that it passes alone. -/
theorem KeepsBraces.recovered {body : BracedBody} (keeps : c.KeepsBraces) (isAt : body.At c)
    {past : c.Past} (isNext : c.next? = some past) (opened : c.mark? .rbrace = none) :
    body.At (recoverMember past c.classMember.rest c.classMember.reaches).val ∧
      c.depth ≤ (recoverMember past c.classMember.rest c.classMember.reaches).val.depth ∧
      ((recoverMember past c.classMember.rest c.classMember.reaches).val.depth = c.depth ↔
        ¬(c.depth < c.classMember.rest.depth ∨
          c.classMember.rest = c ∧ c.seesMark .lbrace = true)) := by
  rw [recoverMember_val]
  split
  · next same =>
      have stays : c.classMember.rest = c := c.classMember.reaches.eq_of_remaining same
      have noClose : past.token.kind ≠ .mark .rbrace := fun brace => by
        rw [mark?, nextIf?, isNext] at opened
        simp [brace] at opened
      have sees : c.seesMark .lbrace = decide (past.token.kind = .mark .lbrace) :=
        seesMark_eq (kinds_of_next? isNext) .lbrace
      obtain ⟨isAt', atLeast, same⟩ := isAt.skipped_first isNext noClose
      refine ⟨isAt', atLeast, same.trans ?_⟩
      rw [stays, sees]
      simp
  · next moved =>
      obtain ⟨isAt', depth⟩ := BracedBody.at_skipToMember (keeps.at_rest isAt)
      have atLeast := keeps.depth_le
      rw [depth]
      refine ⟨isAt', atLeast, ?_⟩
      constructor
      · rintro same (deeper | ⟨stays, -⟩)
        · omega
        · exact moved (congrArg remaining stays)
      · intro none
        have := fun deeper => none (.inl deeper)
        omega

/-- **A member leaves the class in as many braces unless it fails inside braces**: one that parses
closes what it opens, and recovery passes whole groups. -/
theorem KeepsBraces.memberEnd {body : BracedBody} (keeps : c.KeepsBraces) (isAt : body.At c)
    {past : c.Past} (isNext : c.next? = some past) (opened : c.mark? .rbrace = none) :
    body.At past.memberEnd.val ∧ c.depth ≤ past.memberEnd.val.depth ∧
      (past.memberEnd.val.depth = c.depth ↔ ¬c.FailsInBraces) := by
  have atLeast := keeps.depth_le
  have atRest := keeps.at_rest isAt
  have recovered := keeps.recovered isAt isNext opened
  have atMost : c.classMember.EndsWithin c.depth := endsWithin_classMember (Int.le_refl _)
  unfold Past.memberEnd FailsInBraces
  generalize c.classMember = member at *
  obtain ⟨⟨result, d⟩, reaches, moved⟩ := member
  cases result with
  | ok value =>
      have same : d.depth = c.depth := Int.le_antisymm (atMost value rfl) atLeast
      exact ⟨atRest, atLeast, iff_of_true same fun failed => by cases failed.1⟩
  | error error =>
      obtain ⟨isAt', deeper, same⟩ := recovered
      exact ⟨isAt', deeper, same.trans (not_congr ⟨fun lost => ⟨rfl, lost⟩, And.right⟩)⟩

/-- **The members of a class end at a closing brace that stands in as many braces as they start in
if and only if no attempt fails inside braces**, by induction on the members. -/
theorem membersAfter_closes {body : BracedBody} (opening : Opening) (earlier : List ClassMember)
    (c : Cursor) (isAt : body.At c)
    (keeps : ∀ d ∈ c.memberStarts, d.KeepsBraces) :
    ∃ members e, ∃ past : e.Past,
      (membersAfter opening earlier c).stopped = ⟨.ok members, past.rest⟩ ∧
        body.At e ∧ e.next? = some past ∧ past.token.kind = .mark .rbrace ∧ c.depth ≤ e.depth ∧
        (e.depth = c.depth ↔ ∀ d ∈ c.memberStarts, ¬d.FailsInBraces) := by
  obtain ⟨past, isNext⟩ := isAt.exists_next?
  cases opened : c.mark? .rbrace with
  | some last =>
      obtain ⟨isLast, isBrace⟩ := next?_of_nextIf? opened
      refine ⟨earlier.reverse, c, last, ?_, isAt, isLast, of_decide_eq_true isBrace,
        Int.le_refl _, ?_⟩
      · rw [membersAfter.eq_def, opened]
        rfl
      · rw [memberStarts_of_closed opened]
        exact iff_of_true rfl (List.forall_mem_nil _)
  | none =>
      rw [memberStarts_of_opened isNext opened, List.forall_mem_cons] at keeps
      obtain ⟨atEnd, deeper, same⟩ := keeps.1.memberEnd isAt isNext opened
      have fewer := past.memberEnd.property.2
      obtain ⟨members, e, last, stopped, isAt', isLast, isBrace, deeper', same'⟩ :=
        membersAfter_closes opening (c.memberAdded ++ earlier) past.memberEnd.val atEnd keeps.2
      refine ⟨members, e, last, ?_, isAt', isLast, isBrace, Int.le_trans deeper deeper', ?_⟩
      · rw [(membersAfter_next opened isNext opening earlier).2, stopped]
      · rw [memberStarts_of_opened isNext opened, List.forall_mem_cons, ← same, ← same']
        omega
termination_by c.remaining

/-! ## Whole bodies -/

/-- Cursors that are reached from the same one are the same if the same tokens are ahead. -/
theorem Reaches.eq_of_ahead {d d' : Cursor} (reaches : c.Reaches d) (reaches' : c.Reaches d')
    (same : d.ahead = d'.ahead) : d = d' := by
  obtain ⟨behind, tokens, stop⟩ := d
  obtain ⟨behind', tokens', stop'⟩ := d'
  obtain ⟨passed, ahead, rfl, rfl⟩ := reaches
  obtain ⟨passed', ahead', rfl, rfl⟩ := reaches'
  cases (same : tokens = tokens')
  rw [ahead] at ahead'
  rw [List.append_cancel_right ahead']

theorem exists_nested_of_skipGroup {opening : Token} {tokens : List Token} {span : Span}
    {d : Cursor} (ahead : c.ahead = opening :: tokens) (opens : opening.kind = .mark .lbrace)
    (passed : c.skipGroup.stopped = ⟨.ok span, d⟩) :
    ∃ inner closing, Nested inner ∧ tokens = inner ++ closing :: d.ahead := by
  obtain ⟨behind, ahead', stop⟩ := c
  cases ahead
  exact nested_of_skipGroup opens passed

theorem next?_of_seesMark {mark : Mark} (sees : c.seesMark mark = true) :
    ∃ past : c.Past, c.next? = some past ∧ past.token.kind = .mark mark := by
  obtain ⟨kind, rest, ahead⟩ : ∃ kind rest, c.kinds = kind :: rest := by
    refine List.exists_cons_of_ne_nil fun none => ?_
    rw [seesMark, kind?, ← List.head?_map, show c.ahead.map Token.kind = [] from none] at sees
    cases sees
  obtain ⟨past, isNext, isKind, -⟩ := next?_of_kinds ahead
  rw [seesMark_eq ahead, decide_eq_true_iff] at sees
  exact ⟨past, isNext, isKind.trans sees⟩

/-- What is next is a brace that opens a body. -/
theorem exists_body {span : Span} (opens : c.seesMark .lbrace = true)
    (grouped : c.skipGroup.result = .ok span) :
    ∃ (body : BracedBody) (past : c.Past), c.next? = some past ∧
      past.token.kind = .mark .lbrace ∧ past.rest.ahead = body.inner ++ body.closing :: body.rest ∧
        c.skipGroup.rest.ahead = body.rest := by
  obtain ⟨past, isNext, opens⟩ := next?_of_seesMark opens
  have depth := endsWithin_skipGroup (Int.le_refl c.depth) span grouped
  rw [depth_of_next? isNext, opens, show (Kind.mark .lbrace).closedBraces = -1 from rfl] at depth
  have stopped : c.skipGroup.stopped = ⟨.ok span, c.skipGroup.rest⟩ := by
    rw [← grouped]
    rfl
  obtain ⟨inner, closing, nested, same⟩ :=
    exists_nested_of_skipGroup (ahead_of_next? isNext) opens stopped
  generalize c.skipGroup.rest = d at same depth ⊢
  have closes : closing.kind = .mark .rbrace := by
    rw [Cursor.depth, Cursor.depth, same, braceDepth_append, braceDepth,
      nested.braceDepth_eq_zero] at depth
    unfold Kind.closedBraces at depth
    split at depth
    · next kind => exact kind
    · omega
    · omega
  exact ⟨⟨inner, closing, d.ahead, nested, closes⟩, past, isNext, opens, same, rfl⟩

theorem expectMark_of_next? {past : c.Past} {mark : Mark} (isNext : c.next? = some past)
    (isMark : past.token.kind = .mark mark) :
    (c.expectMark mark).stopped = ⟨.ok past.token, past.rest⟩ := by
  have agrees : past.token.kind.agrees (.mark mark) = true := by
    rw [isMark]
    exact decide_eq_true rfl
  rw [expectMark, expect, isNext]
  dsimp only
  rw [if_pos agrees]
  rfl

/-- The members of a body are those from behind its opening brace on. -/
theorem stopped_classBody {past : c.Past} (isNext : c.next? = some past)
    (opens : past.token.kind = .mark .lbrace) :
    c.classBody.stopped = (past.rest.membersAfter ⟨.lbrace, past.token.span⟩ []).stopped := by
  obtain ⟨_, same⟩ := stopped_andThen (expectMark_of_next? isNext opens) fun opened d _ =>
    d.membersAfter ⟨.lbrace, opened.span⟩ []
  exact same

/-- The places at which the body of a class attempts to read a member. -/
def bodyMemberStarts (c : Cursor) : List Cursor :=
  match c.next? with
  | some past => past.rest.memberStarts
  | none => []

/-- **The body of a class always ends, and it ends at its own closing brace if and only if no
attempt to read a member fails inside braces**, where no attempt passes a closing brace that it has
not opened. -/
theorem classBody_ends {span : Span} (opens : c.seesMark .lbrace = true)
    (grouped : c.skipGroup.result = .ok span) (keeps : ∀ d ∈ c.bodyMemberStarts, d.KeepsBraces) :
    (∃ members, c.classBody.result = .ok members) ∧
      c.skipGroup.rest.remaining ≤ c.classBody.rest.remaining ∧
        (c.classBody.rest = c.skipGroup.rest ↔ ∀ d ∈ c.bodyMemberStarts, ¬d.FailsInBraces) := by
  obtain ⟨body, past, isNext, isBrace, ahead, behind⟩ := exists_body opens grouped
  have starts : c.bodyMemberStarts = past.rest.memberStarts := by rw [bodyMemberStarts, isNext]
  rw [starts] at keeps ⊢
  have isAt : body.At past.rest := ⟨body.inner, List.suffix_refl _, ahead⟩
  have depth : past.rest.depth = body.depth := by
    rw [Cursor.depth, ahead, braceDepth_append, body.nested.braceDepth_eq_zero]
    exact Int.zero_add _
  obtain ⟨members, e, last, stopped, isAt', isLast, isClose, -, same⟩ :=
    membersAfter_closes ⟨.lbrace, past.token.span⟩ [] past.rest isAt keeps
  rw [← stopped_classBody isNext isBrace] at stopped
  have rest : c.classBody.rest = last.rest := rest_of_stopped stopped
  refine ⟨⟨members, congrArg Stopped.result stopped⟩, ?_, ?_⟩
  · rw [rest, remaining, remaining, behind]
    obtain ⟨-, isRest⟩ | ⟨part, -, isRest⟩ := isAt'.next?_cases isLast
    · rw [isRest]
    · rw [isRest, List.length_append, List.length_cons]
      omega
  · have ends : c.classBody.rest = c.skipGroup.rest ↔ last.rest.ahead = body.rest := by
      rw [← behind, ← rest]
      exact ⟨congrArg Cursor.ahead, c.classBody.reaches.eq_of_ahead c.skipGroup.reaches⟩
    rw [ends, isAt'.closes_iff isLast isClose, ← depth, same]

/-! ## Two classes -/

theorem exists_ok_of_isOk {α : Type} {result : Except ParseError α} (isOk : result.isOk = true) :
    ∃ value, result = .ok value := by
  cases result with
  | ok value => exact ⟨value, rfl⟩
  | error error => cases isOk

/-- The body of a class whose first member is malformed inside the parentheses of a call. -/
def brokenCall : Cursor :=
  let list := TokenList.ofText "\x7b x = f(\x7b a \x7d b); y: string \x7d".toList
  .start list.tokens list.stop

/-- The body of a class whose first member is malformed inside the braces of an object. -/
def brokenObject : Cursor :=
  let list := TokenList.ofText "\x7b x = \x7b a b \x7d; y: string \x7d".toList
  .start list.tokens list.stop

/-- A member that is malformed inside parentheses does not lose the rest of its class. -/
theorem classBody_ends_brokenCall :
    brokenCall.classBody.errors.length = 1 ∧
      (∃ members, brokenCall.classBody.result = .ok members) ∧
        brokenCall.classBody.rest = brokenCall.skipGroup.rest := by
  have facts : (brokenCall.seesMark .lbrace = true ∧ brokenCall.skipGroup.result.isOk = true) ∧
      brokenCall.classBody.errors.length = 1 ∧
        ∀ d ∈ brokenCall.bodyMemberStarts, d.KeepsBraces ∧ ¬d.FailsInBraces := by
    decide +kernel
  obtain ⟨⟨opens, grouped⟩, count, all⟩ := facts
  obtain ⟨span, grouped⟩ := exists_ok_of_isOk grouped
  obtain ⟨succeeded, -, ends⟩ := classBody_ends opens grouped fun d inside => (all d inside).1
  exact ⟨count, succeeded, ends.2 fun d inside => (all d inside).2⟩

/-- **A member that is malformed inside braces loses the rest of its class**: the class ends where
these braces are closed. -/
theorem rest_of_class_lost : ¬∀ (c : Cursor) (span : Span), c.seesMark .lbrace = true →
    c.skipGroup.result = .ok span → (∃ members, c.classBody.result = .ok members) ∧
      c.classBody.rest = c.skipGroup.rest := by
  intro claimed
  have facts : (brokenObject.seesMark .lbrace = true ∧ brokenObject.skipGroup.result.isOk = true) ∧
      brokenObject.classBody.rest.remaining ≠ brokenObject.skipGroup.rest.remaining := by
    decide +kernel
  obtain ⟨⟨opens, grouped⟩, early⟩ := facts
  obtain ⟨span, grouped⟩ := exists_ok_of_isOk grouped
  exact early (congrArg remaining (claimed brokenObject _ opens grouped).2)

end Cursor

end InjectionCheck
