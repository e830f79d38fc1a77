import InjectionCheck.Grammar.Words
import Mathlib.Logic.Function.Iterate

/-!
# Loops that end

A loop of the grammar is written with the evidence that it goes on with fewer tokens ahead. Here
each loop is written once more without this evidence, as a single turn that is given what to do
next (its pass), and two facts are proved of it: the loop is what its pass gives when it goes on
with the loop, and what a pass gives depends on what comes next only where fewer tokens are ahead.
So a pass advances or exits. A loop with these two facts ends (`EndsAs`): to go round more often
than there are tokens ahead gives the loop, whatever the last turn is told to do next.

This module has the loops that pass groups and statements and those that look ahead.
-/

set_option autoImplicit false

namespace InjectionCheck

/-! ## Turns of a loop -/

/-- A loop whose pass advances or exits, where `size` is what is left to do. -/
structure EndsAs {ι : Type} {result : ι → Type} (size : ι → Nat)
    (pass : ((i : ι) → result i) → (i : ι) → result i) (loop : (i : ι) → result i) : Prop where
  /-- One turn that goes on with the loop is the loop. -/
  turns : ∀ i, loop i = pass loop i
  /-- A turn goes on only where less is left to do. -/
  advances : ∀ i next next', (∀ j, size j < size i → next j = next' j) →
    pass next i = pass next' i
  /-- More turns than there is left to do give the loop, whatever stands at the bottom. -/
  ends : ∀ bottom count i, size i < count → pass^[count] bottom i = loop i

/-- A loop ends if its turns advance or exit. -/
theorem EndsAs.of_advances {ι : Type} {result : ι → Type} {size : ι → Nat}
    {pass : ((i : ι) → result i) → (i : ι) → result i} {loop : (i : ι) → result i}
    (turns : ∀ i, loop i = pass loop i)
    (advances : ∀ i next next', (∀ j, size j < size i → next j = next' j) →
      pass next i = pass next' i) :
    EndsAs size pass loop where
  turns := turns
  advances := advances
  ends bottom count := by
    induction count with
    | zero => exact fun i small => absurd small (Nat.not_lt_zero _)
    | succ count ih =>
        intro i small
        rw [Function.iterate_succ_apply', turns i]
        exact advances i _ _ fun j less => ih j (Nat.lt_of_lt_of_le less (Nat.le_of_lt_succ small))

/-- A loop over cursors that carries a state ends by the number of tokens ahead. -/
abbrev LoopEnds {State : Type} {result : Cursor → Type}
    (pass : (State → (c : Cursor) → result c) → State → (c : Cursor) → result c)
    (loop : State → (c : Cursor) → result c) : Prop :=
  @EndsAs (State × Cursor) (fun i => result i.2) (fun i => i.2.remaining)
    (fun next i => pass (fun state c => next (state, c)) i.1 i.2) (fun i => loop i.1 i.2)

/-! ## One rule after another -/

namespace Outcome

variable {α β : Type} {moves : Bool} {c : Cursor}

/-- What follows a rule matters only where the rule stops. -/
theorem bind_congr {outcome : Outcome false c α}
    {next next' : (value : α) → (d : Cursor) → d.remaining ≤ c.remaining → Outcome moves d β}
    (same : ∀ value d atMost, next value d atMost = next' value d atMost) :
    outcome.bind next = outcome.bind next' := by
  rw [funext fun value => funext fun d => funext (same value d)]

/-- What follows a rule that passes a token matters only where fewer tokens are ahead. -/
theorem andThen_congr {outcome : Outcome true c α}
    {next next' : (value : α) → (d : Cursor) → d.remaining < c.remaining → Outcome moves d β}
    (same : ∀ value d less, next value d less = next' value d less) :
    outcome.andThen next = outcome.andThen next' := by
  rw [funext fun value => funext fun d => funext (same value d)]

/-- What follows a rule that is tried matters only where the rule stops. -/
theorem tried_congr {outcome : Outcome moves c α} {otherwise : Outcome false c β}
    {next next' : (value : α) → (d : Cursor) → c.Reaches d → d.remaining ≤ c.remaining →
      Outcome false c β}
    (same : ∀ value d reaches atMost, next value d reaches atMost = next' value d reaches atMost) :
    outcome.tried next otherwise = outcome.tried next' otherwise := by
  rw [funext fun value => funext fun d => funext fun reaches => funext (same value d reaches)]

end Outcome

namespace Cursor

/-- What follows a rule behind a token matters only where fewer tokens are ahead. -/
theorem Past.go_andThen_congr {α β : Type} {moves : Bool} {c : Cursor} (past : c.Past)
    {outcome : Outcome true past.rest α}
    {next next' : (value : α) → (d : Cursor) → d.remaining < past.rest.remaining →
      Outcome moves d β}
    (same : ∀ value d less, d.remaining < c.remaining → next value d less = next' value d less) :
    past.go (outcome.andThen next) = past.go (outcome.andThen next') :=
  congrArg past.go (Outcome.andThen_congr fun value d less =>
    same value d less (Nat.lt_trans less past.less))

/-! ## Groups -/

/-- One turn of `closeAll`. -/
def closeAllPass (opening : Opening) (outer : Bracket)
    (next : List Bracket → (c : Cursor) → Outcome false c Unit) :
    (brackets : List Bracket) → (c : Cursor) → Outcome false c Unit
  | [], _ => .ok ()
  | innermost :: others, c =>
    match c.next? with
    | none => .fail (.unclosed opening outer.closing c.span)
    | some past =>
      match past.token.kind.opens? with
      | some bracket => (past.go (next (bracket :: innermost :: others) past.rest)).lax
      | none =>
        match past.token.kind.closes? with
        | some bracket =>
          if bracket = innermost then (past.go (next others past.rest)).lax
          else .fail (c.expected (.token (some (.mark innermost.closing))))
        | none => (past.go (next (innermost :: others) past.rest)).lax

theorem closeAll_ends (opening : Opening) (outer : Bracket) :
    LoopEnds (closeAllPass opening outer) (closeAll opening outer) := by
  refine .of_advances (fun i => ?_) fun i next next' same => ?_
  · rw [closeAll.eq_def]
    rfl
  · obtain ⟨brackets, c⟩ := i
    cases brackets with
    | nil => rfl
    | cons innermost others =>
        dsimp only [closeAllPass]
        cases c.next? with
        | none => rfl
        | some past => simp only [same (_, past.rest) past.less]

/-- One turn of `closeAngles`. -/
def closeAnglesPass (opening : Opening) (next : Nat → (c : Cursor) → Outcome false c Unit) :
    (depth : Nat) → (c : Cursor) → Outcome false c Unit
  | 0, _ => .ok ()
  | depth + 1, c =>
    match c.next? with
    | none => .fail (.unclosed opening .gt c.span)
    | some past =>
      match past.token.kind.opens? with
      | some bracket =>
        (past.go ((restOfGroup bracket past.token.span past.rest).bind fun _ d _ =>
          next (depth + 1) d)).lax
      | none =>
        if past.token.kind = .mark .lt then (past.go (next (depth + 2) past.rest)).lax
        else if past.token.kind = .mark .gt then (past.go (next depth past.rest)).lax
        else (past.go (next (depth + 1) past.rest)).lax

theorem closeAngles_ends (opening : Opening) :
    LoopEnds (closeAnglesPass opening) (closeAngles opening) := by
  refine .of_advances (fun i => ?_) fun i next next' same => ?_
  · rw [closeAngles.eq_def]
    rfl
  · obtain ⟨depth, c⟩ := i
    cases depth with
    | zero => rfl
    | succ depth =>
        dsimp only [closeAnglesPass]
        cases c.next? with
        | none => rfl
        | some past =>
            have group (bracket : Bracket) :
                ((restOfGroup bracket past.token.span past.rest).bind fun _ d _ =>
                  next (depth + 1, d)) =
                (restOfGroup bracket past.token.span past.rest).bind fun _ d _ =>
                  next' (depth + 1, d) :=
              Outcome.bind_congr fun _ d atMost =>
                same (_, d) (Nat.lt_of_le_of_lt atMost past.less)
            simp only [same (_, past.rest) past.less, group]

/-! ## Statements -/

/-- One turn of `restOfStatement`. -/
def restOfStatementPass (next : (c : Cursor) → Outcome false c Unit) (c : Cursor) :
    Outcome false c Unit :=
  match c.next? with
  | none => .ok ()
  | some past =>
    let kind := past.token.kind
    if kind = .mark .semicolon then (past.go (.ok ())).lax
    else if kind.startsItem then .ok ()
    else
      match kind.opens? with
      | some bracket =>
        (past.go ((restOfGroup bracket past.token.span past.rest).bind fun _ d _ => next d)).lax
      | none =>
        if kind.closes?.isSome then .fail (c.expected .statement)
        else (past.go (next past.rest)).lax

theorem restOfStatement_ends : EndsAs remaining restOfStatementPass restOfStatement := by
  refine .of_advances (fun c => ?_) fun c next next' same => ?_
  · rw [restOfStatement.eq_def]
    rfl
  · unfold restOfStatementPass
    cases c.next? with
    | none => rfl
    | some past =>
        have group (bracket : Bracket) :
            ((restOfGroup bracket past.token.span past.rest).bind fun _ d _ => next d) =
              (restOfGroup bracket past.token.span past.rest).bind fun _ d _ => next' d :=
          Outcome.bind_congr fun _ d atMost => same d (Nat.lt_of_le_of_lt atMost past.less)
        simp only [same past.rest past.less, group]

end Cursor

/-! ## Looking ahead -/

namespace Lookahead

/-- One turn of the search for a closing bracket. -/
def closeIndexPass (next : List Token → Nat → Nat → Option Nat) :
    List Token → (depth passed : Nat) → Option Nat
  | [], _, _ => none
  | token :: rest, depth, passed =>
    if token.kind.opens?.isSome then next rest (depth + 1) (passed + 1)
    else if token.kind.closes?.isSome then
      match depth with
      | 0 => none
      | 1 => some passed
      | depth + 2 => next rest (depth + 1) (passed + 1)
    else next rest depth (passed + 1)

theorem closeIndex_ends :
    EndsAs (fun i : List Token × Nat × Nat => i.1.length)
      (fun next i => closeIndexPass (fun tokens depth passed => next (tokens, depth, passed))
        i.1 i.2.1 i.2.2)
      (fun i => closeIndex?.go i.1 i.2.1 i.2.2) := by
  refine .of_advances (fun i => ?_) fun i next next' same => ?_
  · rw [closeIndex?.go.eq_def]
    rfl
  · obtain ⟨tokens, depth, passed⟩ := i
    cases tokens with
    | nil => rfl
    | cons token rest => simp only [closeIndexPass, same (rest, _, _) (Nat.lt_succ_self _)]

/-- One turn of the search for a closing angle bracket. -/
def angleCloseIndexPass (next : List Token → Nat → Nat → Option Nat) :
    List Token → (depth passed : Nat) → Option Nat
  | [], _, _ => none
  | token :: rest, depth, passed =>
    match token.kind with
    | .mark .lt => next rest (depth + 1) (passed + 1)
    | .mark .gt =>
      match depth with
      | 0 | 1 => some passed
      | depth + 2 => next rest (depth + 1) (passed + 1)
    | .mark .lparen | .mark .lbracket | .mark .lbrace =>
      match closeIndex? (token :: rest) with
      | some index => next (rest.drop index) depth (passed + index + 1)
      | none => none
    | .mark .semicolon => none
    | _ => next rest depth (passed + 1)

/-- What is left behind a group inside other tokens is shorter than they are. -/
theorem length_drop_lt (token : Token) (rest : List Token) (index : Nat) :
    (rest.drop index).length < (token :: rest).length := by
  rw [List.length_drop, List.length_cons]
  omega

theorem angleCloseIndex_ends :
    EndsAs (fun i : List Token × Nat × Nat => i.1.length)
      (fun next i => angleCloseIndexPass (fun tokens depth passed => next (tokens, depth, passed))
        i.1 i.2.1 i.2.2)
      (fun i => angleCloseIndex?.go i.1 i.2.1 i.2.2) := by
  refine .of_advances (fun i => ?_) fun i next next' same => ?_
  · rw [angleCloseIndex?.go.eq_def]
    rfl
  · obtain ⟨tokens, depth, passed⟩ := i
    cases tokens with
    | nil => rfl
    | cons token rest =>
        simp only [angleCloseIndexPass, same (rest, _, _) (Nat.lt_succ_self _),
          same (rest.drop _, _, _) (length_drop_lt token rest _)]

/-- One turn of the search for the arrow behind a return type. -/
def ascriptionThenArrowPass (next : List Token → Bool) : List Token → Bool
  | [] => false
  | token :: rest =>
    match token.kind with
    | .mark .arrow => true
    | .mark .lparen | .mark .lbracket | .mark .lbrace =>
      match closeIndex? (token :: rest) with
      | some index => next (rest.drop index)
      | none => false
    | .mark .lt =>
      match angleCloseIndex? (token :: rest) with
      | some index => next (rest.drop index)
      | none => false
    | .mark .comma | .mark .semicolon | .mark .rparen | .mark .rbracket | .mark .rbrace
    | .mark .eq => false
    | _ => next rest

theorem ascriptionThenArrow_ends :
    EndsAs List.length ascriptionThenArrowPass ascriptionThenArrow := by
  refine .of_advances (fun tokens => ?_) fun tokens next next' same => ?_
  · rw [ascriptionThenArrow.eq_def]
    rfl
  · cases tokens with
    | nil => rfl
    | cons token rest =>
        simp only [ascriptionThenArrowPass, same rest (Nat.lt_succ_self _),
          same (rest.drop _) (length_drop_lt token rest _)]

/-- One turn of the search for the question mark of a conditional type. -/
def reachesQuestionPass (next : List Token → Bool) : List Token → Bool
  | [] => false
  | token :: rest =>
    match token.kind with
    | .mark .question => true
    | .mark .lparen | .mark .lbracket | .mark .lbrace =>
      match closeIndex? (token :: rest) with
      | some index => next (rest.drop index)
      | none => false
    | .mark .rparen | .mark .rbracket | .mark .rbrace | .mark .comma | .mark .gt
    | .mark .semicolon | .mark .colon => false
    | _ => next rest

theorem reachesQuestion_ends : EndsAs List.length reachesQuestionPass reachesQuestion := by
  refine .of_advances (fun tokens => ?_) fun tokens next next' same => ?_
  · rw [reachesQuestion.eq_def]
    rfl
  · cases tokens with
    | nil => rfl
    | cons token rest =>
        simp only [reachesQuestionPass, same rest (Nat.lt_succ_self _),
          same (rest.drop _) (length_drop_lt token rest _)]

end Lookahead

end InjectionCheck
