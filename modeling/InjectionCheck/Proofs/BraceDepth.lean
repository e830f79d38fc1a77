import InjectionCheck.Proofs.Readings
import InjectionCheck.Proofs.Successes

/-!
# In how many braces a rule stops

A cursor stands in as many braces as are closed ahead of it and not opened there. A rule that
succeeds stops in no more braces than it started in (`Outcome.EndsWithin`): what it opens it
closes. It may stop in fewer, since some rules pass closing braces that they have not opened: so
do groups in angle brackets, and the heritage clauses of a class without a name. A rule that fails
may stop in more braces.

Here it is said of tokens, groups and words, and of the rules that take the recursive rules as an
argument, given that it holds of those (`Rules.EndWithin`).
-/

set_option autoImplicit false

namespace InjectionCheck

/-! ## Depth -/

/-- How many braces fewer there are behind a token than in front of it. -/
def Kind.closedBraces : Kind → Int
  | .mark .rbrace => 1
  | .mark .lbrace => -1
  | _ => 0

/-- How many braces are closed in some tokens and not opened there. -/
def braceDepth : List Token → Int
  | [] => 0
  | token :: tokens => token.kind.closedBraces + braceDepth tokens

theorem braceDepth_append (tokens others : List Token) :
    braceDepth (tokens ++ others) = braceDepth tokens + braceDepth others := by
  induction tokens with
  | nil => exact (Int.zero_add _).symm
  | cons token tokens ih => rw [List.cons_append, braceDepth, braceDepth, ih, Int.add_assoc]

/-- A token that opens no brace leaves at most as many braces to be closed. -/
theorem Kind.closedBraces_nonneg {kind : Kind} (other : kind ≠ .mark .lbrace) :
    0 ≤ kind.closedBraces := by
  unfold closedBraces
  split
  · decide
  · exact absurd rfl other
  · exact Int.le_refl 0

theorem Kind.closedBraces_eq_zero {kind : Kind} (noOpening : kind ≠ .mark .lbrace)
    (noClosing : kind ≠ .mark .rbrace) : kind.closedBraces = 0 := by
  unfold closedBraces
  split
  · exact absurd rfl noClosing
  · exact absurd rfl noOpening
  · rfl

theorem Kind.closedBraces_opens {kind : Kind} {bracket : Bracket}
    (opens : kind.opens? = some bracket) :
    kind.closedBraces = -(Kind.mark bracket.closing).closedBraces := by
  cases kind with
  | mark sign => cases sign <;> cases opens <;> rfl
  | _ => cases opens

theorem Kind.closedBraces_closes {kind : Kind} {bracket : Bracket}
    (closes : kind.closes? = some bracket) :
    kind.closedBraces = (Kind.mark bracket.closing).closedBraces := by
  cases kind with
  | mark sign => cases sign <;> cases closes <;> rfl
  | _ => cases closes

theorem Kind.closedBraces_of_agrees {kind kind' : Kind} (agrees : kind.agrees kind' = true) :
    kind.closedBraces = kind'.closedBraces := by
  unfold Kind.agrees at agrees
  split at agrees
  · rfl
  · rfl
  · rw [of_decide_eq_true agrees]

theorem Kind.ne_lbrace_of_opens? {kind : Kind} (opens : kind.opens? = none) :
    kind ≠ .mark .lbrace := by
  rintro rfl
  cases opens

namespace Cursor

/-- In how many braces a cursor stands. -/
def depth (c : Cursor) : Int := braceDepth c.ahead

variable {c : Cursor} {n : Int}

theorem depth_of_next? {past : c.Past} (isNext : c.next? = some past) :
    c.depth = past.token.kind.closedBraces + past.rest.depth := by
  rw [depth, ahead_of_next? isNext]
  rfl

/-- Behind a token that opens no brace a cursor stands in no more braces. -/
theorem depth_rest_le {past : c.Past} (isNext : c.next? = some past)
    (other : past.token.kind ≠ .mark .lbrace) (within : c.depth ≤ n) : past.rest.depth ≤ n := by
  have := Kind.closedBraces_nonneg other
  rw [depth_of_next? isNext] at within
  omega

theorem depth_nextIf?_le {test : Kind → Bool} {past : c.Past} (found : c.nextIf? test = some past)
    (noBrace : test (.mark .lbrace) = false) (within : c.depth ≤ n) : past.rest.depth ≤ n := by
  obtain ⟨isNext, holds⟩ := next?_of_nextIf? found
  refine depth_rest_le isNext (fun brace => ?_) within
  rw [brace, noBrace] at holds
  cases holds

theorem depth_mark?_le {mark : Mark} {past : c.Past} (found : c.mark? mark = some past)
    (noBrace : mark ≠ .lbrace) (within : c.depth ≤ n) : past.rest.depth ≤ n :=
  depth_nextIf?_le found (decide_eq_false fun same => noBrace (Kind.mark.inj same).symm) within

theorem depth_keyword?_le {word : Keyword} {past : c.Past} (found : c.keyword? word = some past)
    (within : c.depth ≤ n) : past.rest.depth ≤ n :=
  depth_nextIf?_le found (decide_eq_false nofun) within

theorem depth_name?_le {text : String} {past : c.Past} (found : c.name? text = some past)
    (within : c.depth ≤ n) : past.rest.depth ≤ n :=
  depth_nextIf?_le found (decide_eq_false nofun) within

end Cursor

/-- If a rule succeeds, it stops in at most as many braces as a number says. -/
abbrev Outcome.EndsWithin {α : Type} {moves : Bool} {c : Cursor} (n : Int)
    (outcome : Outcome moves c α) : Prop :=
  outcome.Ensures fun _ d => d.depth ≤ n

/-! ## Tokens -/

namespace Cursor

open Outcome

section Tokens

variable {c : Cursor} {n : Int} (within : c.depth ≤ n)

include within

/-- Behind a token of a kind there are as many braces fewer as a token of this kind closes. -/
theorem endsWithin_expect (kind : Kind) :
    (c.expect kind).EndsWithin (n - kind.closedBraces) := by
  unfold expect
  split
  · next past isNext =>
      refine .ite (fun agrees => .go (.ok ?_)) fun _ => .fail
      rw [depth_of_next? isNext, Kind.closedBraces_of_agrees agrees] at within
      omega
  · exact .fail

theorem endsWithin_expectMark {mark : Mark} (noBrace : mark ≠ .lbrace) :
    (c.expectMark mark).EndsWithin n := by
  have : 0 ≤ (Kind.mark mark).closedBraces :=
    Kind.closedBraces_nonneg fun same => noBrace (Kind.mark.inj same)
  exact (endsWithin_expect within (.mark mark)).mono fun _ d atMost => by omega

theorem endsWithin_expectKeyword (word : Keyword) : (c.expectKeyword word).EndsWithin n :=
  (endsWithin_expect within (.keyword word)).mono fun _ d atMost => by
    simpa [Kind.closedBraces] using atMost

theorem endsWithin_expectName : c.expectName.EndsWithin n := by
  unfold expectName
  split
  · next past isNext =>
      split
      · next text isName => exact .go (.ok (depth_rest_le isNext (by simp [isName]) within))
      · exact .fail
  · exact .fail

theorem endsWithin_optional {test : Kind → Bool} (noBrace : test (.mark .lbrace) = false) :
    (c.optional test).EndsWithin n := by
  unfold optional
  split
  · next past found => exact .lax (.go (.ok (depth_nextIf?_le found noBrace within)))
  · exact .ok within

theorem endsWithin_optionalMark {mark : Mark} (noBrace : mark ≠ .lbrace) :
    (c.optionalMark mark).EndsWithin n :=
  endsWithin_optional within (decide_eq_false fun same => noBrace (Kind.mark.inj same).symm)

theorem endsWithin_optionalSemicolon : c.optionalSemicolon.EndsWithin n :=
  .map (endsWithin_optionalMark within (by decide)) fun _ _ => id

theorem endsWithin_optionalModifier (word : String) : (c.optionalModifier word).EndsWithin n := by
  unfold optionalModifier
  exact .ite (fun _ => endsWithin_optional within (decide_eq_false nofun)) fun _ => .ok within

theorem endsWithin_propertyName : c.propertyName.EndsWithin n := by
  unfold propertyName
  split
  · next past isNext =>
      split
      · next name isName =>
          refine .go (.ok (depth_rest_le isNext (fun brace => ?_) within))
          rw [brace] at isName
          cases isName
      · exact .fail
  · exact .fail

theorem endsWithin_properName : c.properName.EndsWithin n := by
  refine .andThen (endsWithin_propertyName within) fun property d _ within => ?_
  split
  · exact .ok within
  · exact .fail

end Tokens

/-! ## Groups -/

/-- The braces among some brackets. -/
def openBraces : List Bracket → Int
  | [] => 0
  | bracket :: brackets => (Kind.mark bracket.closing).closedBraces + openBraces brackets

theorem endsWithin_closeAll (opening : Opening) (outer : Bracket) (brackets : List Bracket)
    {c : Cursor} {n : Int} (within : c.depth ≤ n + openBraces brackets) :
    (closeAll opening outer brackets c).EndsWithin n := by
  cases brackets with
  | nil =>
      unfold closeAll
      exact .ok (by simpa [openBraces] using within)
  | cons innermost others =>
      unfold closeAll
      split
      · exact .fail
      next past isNext =>
      have := past.less
      rw [depth_of_next? isNext] at within
      split
      · next bracket opens =>
          refine .lax (.go (endsWithin_closeAll opening outer _ ?_))
          rw [Kind.closedBraces_opens opens] at within
          rw [openBraces, openBraces]
          rw [openBraces] at within
          omega
      next opens =>
      split
      · next bracket closes =>
          refine .ite (fun same => ?_) fun _ => .fail
          refine .lax (.go (endsWithin_closeAll opening outer _ ?_))
          rw [Kind.closedBraces_closes closes, same] at within
          rw [openBraces] at within
          omega
      · refine .lax (.go (endsWithin_closeAll opening outer _ ?_))
        have := Kind.closedBraces_nonneg (Kind.ne_lbrace_of_opens? opens)
        omega
termination_by c.remaining

/-- The rest of a group closes its bracket. -/
theorem endsWithin_restOfGroup {bracket : Bracket} (opened : Span) {c : Cursor} {n : Int}
    (within : c.depth ≤ n + (Kind.mark bracket.closing).closedBraces) :
    (restOfGroup bracket opened c).EndsWithin n :=
  .bind (endsWithin_closeAll _ _ [bracket] (by simpa [openBraces] using within))
    fun _ _ _ within => .ok within

section Groups

variable {c : Cursor} {n : Int} (within : c.depth ≤ n)

include within

/-- A group that starts with the next token is passed as a whole. -/
theorem endsWithin_groupBehind {past : c.Past} (isNext : c.next? = some past) {bracket : Bracket}
    (opens : past.token.kind.opens? = some bracket) (opened : Span) :
    (restOfGroup bracket opened past.rest).EndsWithin n := by
  refine endsWithin_restOfGroup opened ?_
  rw [depth_of_next? isNext, Kind.closedBraces_opens opens] at within
  omega

theorem endsWithin_skipGroup : c.skipGroup.EndsWithin n := by
  unfold skipGroup
  split
  · exact .fail
  next past isNext =>
  split
  · next bracket opens => exact .go (endsWithin_groupBehind within isNext opens _)
  · exact .fail

end Groups

theorem endsWithin_closeAngles (opening : Opening) (count : Nat) {c : Cursor} {n : Int}
    (within : c.depth ≤ n) : (closeAngles opening count c).EndsWithin n := by
  cases count with
  | zero =>
      unfold closeAngles
      exact .ok within
  | succ count =>
      unfold closeAngles
      split
      · exact .fail
      next past isNext =>
      have := past.less
      split
      · next bracket opens =>
          refine .lax (.go (.bind (endsWithin_groupBehind within isNext opens _)
            fun _ d atMost within => ?_))
          exact endsWithin_closeAngles opening _ within
      · next opens =>
          have again (count : Nat) := endsWithin_closeAngles opening count
            (depth_rest_le isNext (Kind.ne_lbrace_of_opens? opens) within)
          exact .ite (fun _ => .lax (.go (again _))) fun _ =>
            .ite (fun _ => .lax (.go (again _))) fun _ => .lax (.go (again _))
termination_by c.remaining

section Angles

variable {c : Cursor} {n : Int} (within : c.depth ≤ n)

include within

theorem endsWithin_skipAngles : c.skipAngles.EndsWithin n :=
  .andThen (endsWithin_expectMark within (by decide)) fun _ _ _ within =>
    endsWithin_closeAngles _ _ within

theorem endsWithin_skipAnglesIfAny : c.skipAnglesIfAny.EndsWithin n := by
  unfold skipAnglesIfAny
  exact .ite (fun _ => .lax (endsWithin_skipAngles within)) fun _ => .ok within

end Angles

theorem endsWithin_modifiers (earlier : Modifiers) {c : Cursor} {n : Int} (within : c.depth ≤ n) :
    (c.modifiers earlier).EndsWithin n := by
  unfold modifiers
  split
  · next past isNext =>
      split
      · next word isName =>
          have := past.less
          refine .ite (fun _ => ?_) fun _ => .ok within
          split
          · exact .lax (.go (endsWithin_modifiers _
              (depth_rest_le isNext (by simp [isName]) within)))
          · exact .ok within
      · exact .ok within
  · exact .ok within
termination_by c.remaining

end Cursor

/-! ## Recursive rules -/

open Cursor Outcome

/-- The recursive rules stop in no more braces than they start in, if they succeed. -/
structure Rules.EndWithin {limit : Cursor} (rules : Rules limit) : Prop where
  assignment {n : Int} (c : Cursor) (inside) (within : c.depth ≤ n) :
    (rules.assignment c inside).EndsWithin n
  expression {n : Int} (c : Cursor) (inside) (within : c.depth ≤ n) :
    (rules.expression c inside).EndsWithin n
  binary {n : Int} (least : Nat) (c : Cursor) (inside) (within : c.depth ≤ n) :
    (rules.binary least c inside).EndsWithin n
  unary {n : Int} (c : Cursor) (inside) (within : c.depth ≤ n) :
    (rules.unary c inside).EndsWithin n
  construction {n : Int} (c : Cursor) (inside) (within : c.depth ≤ n) :
    (rules.construction c inside).EndsWithin n
  type {n : Int} (c : Cursor) (inside) (within : c.depth ≤ n) :
    (rules.type c inside).EndsWithin n
  typeOperand {n : Int} (c : Cursor) (inside) (within : c.depth ≤ n) :
    (rules.typeOperand c inside).EndsWithin n

namespace Rules

variable {limit : Cursor} {rules : Rules limit} {n : Int} {c : Cursor}

/-- Elements up to a closing mark stop in as many braces fewer as this mark closes. -/
theorem endsWithin_elements {α : Type} (opening : Opening) {closing : Mark}
    (noBrace : closing ≠ .lbrace) (missing : ParseError → ParseError)
    {element : (c : Cursor) → c.remaining < limit.remaining → Outcome true c α}
    (each : ∀ c inside, c.depth ≤ n → (element c inside).EndsWithin n) (earlier : List α)
    {c : Cursor} (inside) (within : c.depth ≤ n) :
    (elements opening closing missing element earlier c inside).EndsWithin
      (n - (Kind.mark closing).closedBraces) := by
  unfold elements
  split
  · next past found =>
      obtain ⟨isNext, isMark⟩ := next?_of_nextIf? found
      rw [depth_of_next? isNext, of_decide_eq_true isMark] at within
      exact .go (.ok (by omega))
  · refine .ite (fun _ => .fail) fun _ => ?_
    refine .andThen (each c inside within) fun value d less within => ?_
    split
    · next past found =>
        have := past.less
        exact .go (endsWithin_elements opening noBrace missing each _ _
          (depth_mark?_le found (by decide) within))
    · exact .map (.mapError (endsWithin_expect within _)) fun _ _ => id
termination_by c.remaining

section Words

variable (ends : rules.EndWithin) (within : c.depth ≤ n)

include ends within

theorem endsWithin_spreadable (inside) : (rules.spreadable c inside).EndsWithin n := by
  unfold spreadable
  split
  · next past found =>
      exact .go (.andThen (ends.assignment _ _ (depth_mark?_le found (by decide) within))
        fun _ _ _ within => .ok within)
  · exact ends.assignment c inside within

theorem endsWithin_arguments (inside) : (rules.arguments c inside).EndsWithin n := by
  refine .andThen (endsWithin_expectMark within (by decide)) fun opened d _ within => ?_
  refine (endsWithin_elements _ (by decide) _ (fun c inside within =>
    endsWithin_spreadable ends within inside) _ _ within).mono fun _ e atMost => ?_
  simpa [Kind.closedBraces] using atMost

theorem endsWithin_optionalArguments (inside) :
    (rules.optionalArguments c inside).EndsWithin n := by
  unfold optionalArguments
  exact .ite (fun _ => .lax (endsWithin_arguments ends within _)) fun _ => .ok within

end Words

theorem endsWithin_lastPart (name : String) {c : Cursor} (within : c.depth ≤ n) :
    (lastPart name c).EndsWithin n := by
  unfold lastPart
  split
  · next past found =>
      have := past.less
      exact .lax (.go (.andThen (endsWithin_properName (depth_mark?_le found (by decide) within))
        fun _ _ _ within => endsWithin_lastPart _ within))
  · exact .ok within
termination_by c.remaining

section Decorators

variable (ends : rules.EndWithin)

include ends

theorem endsWithin_decoratorAfter (sign : Span) (inside) (within : c.depth ≤ n) :
    (rules.decoratorAfter sign c inside).EndsWithin n :=
  .andThen (endsWithin_expectName within) fun _ _ _ within =>
    .bind (endsWithin_lastPart _ within) fun _ _ _ within =>
      .bind (endsWithin_skipAnglesIfAny within) fun _ _ _ within =>
        .bind (endsWithin_optionalArguments ends within _) fun _ _ _ within => .ok within

theorem endsWithin_decorators (earlier : List Decorator) {c : Cursor} (inside)
    (within : c.depth ≤ n) : (rules.decorators earlier c inside).EndsWithin n := by
  unfold decorators
  split
  · next past found =>
      have := past.less
      exact .lax (.go (.andThen (endsWithin_decoratorAfter ends _ _
        (depth_mark?_le found (by decide) within)) fun _ _ _ within =>
          endsWithin_decorators _ _ within))
  · exact .ok within
termination_by c.remaining

end Decorators

theorem endsWithin_parameterName (within : c.depth ≤ n) : (parameterName c).EndsWithin n := by
  unfold parameterName
  split
  · next past isNext =>
      split
      · next isName => exact .go (.ok (depth_rest_le isNext (by simp [isName]) within))
      · next isWord => exact .go (.ok (depth_rest_le isNext (by simp [isWord]) within))
      · exact .map (endsWithin_skipGroup within) fun _ _ => id
      · exact .map (endsWithin_skipGroup within) fun _ _ => id
      · exact .fail
  · exact .fail

section Parameters

variable (ends : rules.EndWithin) (within : c.depth ≤ n)

include ends within

theorem endsWithin_ascription (inside) : (rules.ascription c inside).EndsWithin n := by
  unfold ascription
  split
  · next past found =>
      exact .lax (.map (.go (ends.type _ _ (depth_mark?_le found (by decide) within)))
        fun _ _ => id)
  · exact .ok within

theorem endsWithin_initial (inside) : (rules.initial c inside).EndsWithin n := by
  unfold initial
  split
  · next past found =>
      exact .lax (.map (.go (ends.assignment _ _ (depth_mark?_le found (by decide) within)))
        fun _ _ => id)
  · exact .ok within

theorem endsWithin_parameter (inside) : (rules.parameter c inside).EndsWithin n :=
  .bind (endsWithin_decorators ends [] _ within) fun _ _ _ within =>
    .bind (endsWithin_modifiers _ within) fun _ _ _ within =>
      .bind (endsWithin_optionalMark within (by decide)) fun _ _ _ within =>
        .andThen (endsWithin_parameterName within) fun _ _ _ within =>
          .bind (endsWithin_optionalMark within (by decide)) fun _ _ _ within =>
            .bind (endsWithin_ascription ends within _) fun _ _ _ within =>
              .bind (endsWithin_initial ends within _) fun _ _ _ within => .ok within

theorem endsWithin_parameters (inside) : (rules.parameters c inside).EndsWithin n := by
  refine .andThen (endsWithin_expectMark within (by decide)) fun opened d _ within => ?_
  refine (endsWithin_elements _ (by decide) _ (fun c inside within =>
    endsWithin_parameter ends within inside) _ _ within).mono fun _ e atMost => ?_
  simpa [Kind.closedBraces] using atMost

end Parameters

end Rules

end InjectionCheck
