import InjectionCheck.Proofs.AbreastExpressions
import InjectionCheck.Proofs.AppendedExpressions
import InjectionCheck.Proofs.OperatorTrees

/-!
# Parenthesised branches of conditional expressions

A parenthesised branch of a conditional expression and the colon behind it look like the parameters
of an arrow function and the start of its return type. Which of the two they are is decided by
looking for an arrow behind the colon.

Where that finds none, a conditional expression with a parenthesised first branch is read as it is
meant: each branch as it is read alone. The first branch has to be well nested, since the search for
its closing parenthesis counts brackets, and no angle bracket of it may be closed behind it.

It finds one as well where the second branch is itself an arrow function without parentheses around
it. Then the first branch can only be read as a function, with its parentheses as the parameters,
also where it is none (`Cursor.branch_taken_for_parameters`). `Cursor.assignment_conditional` says
both.
-/

set_option autoImplicit false

namespace InjectionCheck

open Cursor Outcome

/-! ## Tokens of the same kinds -/

theorem SameKinds.of_map_eq {tokens tokens' : List Token}
    (same : tokens.map Token.kind = tokens'.map Token.kind) : SameKinds tokens tokens' := by
  induction tokens generalizing tokens' with
  | nil =>
      obtain rfl := List.map_eq_nil_iff.1 same.symm
      exact .nil
  | cons token rest ih =>
      obtain ⟨token', rest', rfl, first, others⟩ := List.map_eq_cons_iff.1 same.symm
      exact .cons first (ih others.symm)

theorem Nested.of_sameKinds {tokens tokens' : List Token} (nested : Nested tokens)
    (same : SameKinds tokens tokens') : Nested tokens' := by
  induction nested generalizing tokens' with
  | nil =>
      cases same
      exact .nil
  | token opens closes _ ih =>
      obtain _ | ⟨first, others⟩ := same
      exact .token (first ▸ opens) (first ▸ closes) (ih others)
  | group opens closes _ _ ih ih' =>
      obtain _ | ⟨first, others⟩ := same
      obtain ⟨inner, _, rfl, inside, others⟩ := SameKinds.exists_append others
      obtain _ | ⟨last, further⟩ := others
      exact .group (first ▸ opens) (last ▸ closes) (ih inside) (ih' further)

theorem SameKinds.kind_ne {tokens tokens' : List Token} (same : SameKinds tokens tokens')
    {kind : Kind} (none : ∀ token ∈ tokens, token.kind ≠ kind) :
    ∀ token ∈ tokens', token.kind ≠ kind := by
  induction same with
  | nil => exact none
  | cons first _ ih =>
      obtain ⟨isOther, others⟩ := List.forall_mem_cons.1 none
      exact List.forall_mem_cons.2 ⟨first ▸ isOther, ih others⟩

namespace Lookahead

theorem ascriptionThenArrow_of_sameKinds {tokens tokens' : List Token}
    (same : SameKinds tokens tokens') :
    ascriptionThenArrow tokens = ascriptionThenArrow tokens' :=
  ascriptionThenArrow_varies (.of_sameKinds same)

theorem ClosesNoAngles.of_sameKinds {tokens tokens' : List Token}
    (closesNone : ClosesNoAngles tokens) (same : SameKinds tokens tokens') :
    ClosesNoAngles tokens' := by
  induction same with
  | nil => trivial
  | @cons _ _ rest rest' first others ih =>
      refine ⟨fun closes => ?_, ih closesNone.2⟩
      obtain ⟨noOpening, noArrow⟩ := closesNone.1 (first ▸ closes)
      refine ⟨?_, ascriptionThenArrow_of_sameKinds others ▸ noArrow⟩
      rwa [← kindAt?_varies (show Varies (rest.drop 0) (rest'.drop 0) from .of_sameKinds others)]

end Lookahead

/-- An expression is read alike from tokens of the same kinds, spans aside. -/
theorem Cursor.gives_assignment_of_sameKinds {c d : Cursor} {value : Expression}
    (gives : c.assignment.Gives (· = value) []) (same : SameKinds c.ahead d.ahead) :
    d.assignment.Gives (·.unplaced = value.unplaced) [] := by
  let r : Revision :=
    { origin := c
      origin' := d
      gap := []
      gap' := []
      shape := .none
      settled _ _ _ less := absurd less (Nat.not_lt_zero _) }
  have start : r.Abreast c d := ⟨.refl c, .refl d, c.ahead, d.ahead, same, by simp [r], by simp [r]⟩
  have abreast : Outcome.Abreast r (SameUnder Expression.unplaced) c.assignment d.assignment :=
    Rules.abreast_assignmentFrom (Rules.abreast_all c d) start _ _
  obtain ⟨_, rest, succeeded, rfl, ended⟩ := gives
  generalize c.assignment = outcome, d.assignment = outcome' at abreast succeeded
  obtain ⟨⟨result, e⟩, _, _⟩ := outcome
  obtain ⟨⟨result', e'⟩, _, _⟩ := outcome'
  cases succeeded
  obtain entered | ⟨rests, results⟩ := abreast
  · exact absurd entered (Nat.not_lt_zero _)
  cases results with
  | ok related =>
      refine ⟨_, e', rfl, related.symm, ?_⟩
      rw [kinds, List.map_eq_nil_iff] at ended ⊢
      have atEnd : e'.atEnd = true := rests.atEnd.trans (List.isEmpty_iff.2 ended)
      exact List.isEmpty_iff.1 atEnd

/-- With further tokens behind it an expression is read as without them. -/
theorem Appendix.gives_assignment (a : Appendix) {c : Cursor} {right : Expression → Prop}
    (within : a.Within c) (gives : c.assignment.Gives right []) :
    (a.extend c).assignment.Gives right (a.tail.map Token.kind) := by
  have extends_ : c.assignment.Extends a (a.extend c).assignment :=
    Rules.extends_assignmentFrom (Rules.extend_all a c (a.extend c)) _ _ within
  obtain ⟨value, d, succeeded, isRight, ended⟩ := gives
  cases extends_ with
  | succeeds succeeded' same _ =>
      cases succeeded.symm.trans succeeded'
      refine ⟨value, _, same, isRight, ?_⟩
      rw [kinds, List.map_eq_nil_iff] at ended
      rw [kinds, ahead_extend, ended, List.nil_append]
  | fails failed => cases succeeded.symm.trans failed

/-! ## Branches -/

namespace Lookahead

/-- Where parentheses and a colon are ahead, an arrow function starts if an arrow is found behind
the colon. -/
theorem startsArrow_colon {opening closing : Token} {inner : List Token}
    (opens : opening.kind = .mark .lparen) (closes : closing.kind = .mark .rparen)
    (nested : Nested inner) (colon : Span) (rest : List Token) :
    startsArrow (opening :: (inner ++ closing :: ⟨.mark .colon, colon⟩ :: rest)) =
      ascriptionThenArrow rest := by
  obtain ⟨_, left⟩ := opening
  cases opens
  rw [startsArrow, groupThenArrow, closeIndex?_group rfl (closes ▸ rfl) nested]
  simp

end Lookahead

namespace Rules

variable {limit c : Cursor} {rules : Rules limit} {mark : Mark} {rest : List Kind}
  {right : Expression → Prop}

theorem all_assignment (limit c : Cursor) (inside) :
    (all limit).assignment c inside = c.assignment := by
  rw [all]
  rfl

theorem all_expression (limit c : Cursor) (inside) :
    (all limit).expression c inside = c.expression := by
  rw [all]
  rfl

/-- A question mark or a colon belongs to no operand. -/
theorem gives_suffixes_of_divides (divides : mark ∈ [.question, .colon]) (start : Span)
    (operand : Expression) {inside} (ahead : c.kinds = .mark mark :: rest) :
    (rules.suffixes start operand c inside).Gives (· = operand) (.mark mark :: rest) := by
  obtain ⟨past, isNext, isMark, _⟩ := next?_of_kinds ahead
  rw [suffixes, isNext]
  dsimp only
  rw [isMark]
  obtain rfl | rfl : mark = .question ∨ mark = .colon := by simpa using divides
  · exact .ok rfl ahead
  · exact .ok rfl ahead

/-- A question mark or a colon is no operator. -/
theorem gives_operators_of_divides (divides : mark ∈ [.question, .colon]) (least : Nat)
    (start : Span) (left : Expression) {inside} (ahead : c.kinds = .mark mark :: rest) :
    (rules.operators least start left c inside).Gives (· = left) (.mark mark :: rest) := by
  obtain ⟨past, isNext, isMark, _⟩ := next?_of_kinds ahead
  rw [operators, isNext, operatorPrecedence?, kind?_of_kinds ahead]
  dsimp only
  rw [isMark, if_neg (by simp)]
  obtain rfl | rfl : mark = .question ∨ mark = .colon := by simpa using divides
  · exact .ok rfl ahead
  · exact .ok rfl ahead

theorem gives_binaryFrom_of_divides (divides : mark ∈ [.question, .colon]) {inside}
    (operand : (rules.operand c inside).Gives right (.mark mark :: rest)) (least : Nat) :
    (rules.binaryFrom least c inside).Gives right (.mark mark :: rest) :=
  operand.andThen fun value _ _ isRight ahead =>
    (gives_operators_of_divides divides least _ value ahead).mono fun _ same => same ▸ isRight

end Rules

namespace Cursor

variable {c : Cursor} {rest : List Kind} {right : Expression → Prop}

/-- An expression in front of a closing parenthesis has no further part. -/
theorem gives_expression (gives : c.assignment.Gives right (.mark .rparen :: rest)) :
    c.expression.Gives right (.mark .rparen :: rest) := by
  refine Outcome.Gives.andThen gives fun first d _ isRight ahead => ?_
  rw [Rules.sequence, mark?_eq_none ahead (by simp)]
  exact .ok isRight ahead

/-- An operand in parentheses is the expression inside these. -/
theorem gives_operand_group {limit : Cursor} {past : c.Past} (isNext : c.next? = some past)
    (opens : past.token.kind = .mark .lparen) {mark : Mark} (divides : mark ∈ [.question, .colon])
    (inner : past.rest.assignment.Gives right (.mark .rparen :: .mark mark :: rest)) {inside} :
    ((Rules.all limit).operand c inside).Gives right (.mark mark :: rest) := by
  have kinds := kinds_of_next? isNext
  rw [opens] at kinds
  have whole : ((Rules.all limit).expression past.rest (past.lt_of_le inside)).Gives right
      (.mark .rparen :: .mark mark :: rest) := by
    rw [Rules.all_expression]
    exact gives_expression inner
  have primary : ((Rules.all limit).primary c inside).Gives right (.mark mark :: rest) := by
    rw [Rules.primary, isNext]
    dsimp only
    rw [opens]
    refine .go (whole.andThen fun value d _ isRight ahead => ?_)
    exact .map (.mapError (gives_expectMark ahead)) fun _ _ => isRight
  have noPrefix : Rules.seesPrefixOperator c = false := by
    rw [Rules.seesPrefixOperator, kind?_of_kinds kinds]
    rfl
  rw [Rules.operand, isNext]
  dsimp only
  rw [noPrefix, if_neg Bool.false_ne_true, opens, if_neg (by simp), Rules.suffixed,
    kind?_of_kinds kinds, if_neg (by simp)]
  refine primary.andThen fun value d _ isRight ahead => ?_
  exact (Rules.gives_suffixes_of_divides divides _ value ahead).mono fun _ same => same ▸ isRight

/-- A conditional expression to which nothing is assigned is read as it is. -/
theorem gives_assignment_of_conditional {left : List Kind} (noAsync : c.name? "async" = none)
    (noArrow : Lookahead.startsArrow c.ahead = false)
    (conditional : ((Rules.all c).conditional c c.le_self).Gives right left)
    (other : ∀ kind ∈ left.head?, kind.precedence? = none ∧ kind ≠ .mark .eq) :
    c.assignment.Gives right left := by
  rw [assignment, Rules.assignmentFrom, noAsync]
  dsimp only
  rw [noArrow, if_neg Bool.false_ne_true]
  refine conditional.andThen fun target d _ isRight ahead => ?_
  rw [← ahead] at other ⊢
  exact (Rules.gives_assignedValue_none other).mono fun _ same => same ▸ isRight

/-- Parentheses in front of a colon are an expression, if no arrow is found behind the colon. -/
theorem gives_assignment_group {past : c.Past} (isNext : c.next? = some past)
    (opens : past.token.kind = .mark .lparen) (noArrow : Lookahead.startsArrow c.ahead = false)
    (inner : past.rest.assignment.Gives right (.mark .rparen :: .mark .colon :: rest)) :
    c.assignment.Gives right (.mark .colon :: rest) := by
  have kinds := kinds_of_next? isNext
  rw [opens] at kinds
  have operand {inside} : ((Rules.all c).operand c inside).Gives right (.mark .colon :: rest) :=
    gives_operand_group isNext opens (by simp) inner
  refine gives_assignment_of_conditional (name?_eq_none kinds (by simp)) noArrow ?_
    (by simp [Kind.precedence?, Mark.precedence?])
  refine (Rules.gives_binaryFrom_of_divides (by simp) operand 1).andThen
    fun test d _ isRight ahead => ?_
  rw [mark?_eq_none ahead (by simp)]
  exact .ok isRight ahead

variable {inner second : List Token}

/-- Where parentheses and a colon are ahead, an arrow function starts if an arrow is found behind
the colon. -/
theorem startsArrow_branch
    (ahead : c.kinds =
      .mark .lparen :: (inner.map Token.kind ++ .mark .rparen :: .mark .colon ::
        second.map Token.kind))
    (nested : Nested inner) :
    Lookahead.startsArrow c.ahead = Lookahead.ascriptionThenArrow second := by
  let tokens : List Token :=
    ⟨.mark .lparen, .origin⟩ ::
      (inner ++ ⟨.mark .rparen, .origin⟩ :: ⟨.mark .colon, .origin⟩ :: second)
  have same : SameKinds c.ahead tokens :=
    .of_map_eq (ahead.trans (by simp [tokens]))
  rw [Lookahead.startsArrow_varies (.of_sameKinds same)]
  exact Lookahead.startsArrow_colon rfl rfl nested _ _

/-- Where an arrow is found behind the colon, parentheses are read as the parameters of an arrow
function, if they are read at all. -/
theorem ensures_assignment_branch
    (ahead : c.kinds =
      .mark .lparen :: (inner.map Token.kind ++ .mark .rparen :: .mark .colon ::
        second.map Token.kind))
    (nested : Nested inner) (arrow : Lookahead.ascriptionThenArrow second = true) :
    c.assignment.Ensures fun value _ => value.form = .function := by
  have function {α : Type} {d : Cursor} (rule : Outcome true d α) :
      (rule.andThen fun _ e _ =>
        (.ok (e.expressionFrom c.span .function) : Outcome false e Expression)).Ensures
          fun value _ => value.form = .function :=
    (Ensures.always rule).andThen fun _ _ _ _ => .ok rfl
  rw [assignment, Rules.assignmentFrom, name?_eq_none ahead (by simp)]
  dsimp only
  rw [startsArrow_branch ahead nested, arrow, if_pos rfl]
  refine (Ensures.always _).andThen fun _ _ _ _ => (Ensures.always _).andThen fun _ _ _ _ => ?_
  exact .ite (fun _ => function _) fun _ => function _

/-- An expression is read in front of a closing parenthesis as it is read alone. -/
theorem gives_assignment_inside {first : Cursor} {consequent : Expression} {others : List Token}
    (ahead : c.kinds = first.kinds ++ .mark .rparen :: others.map Token.kind)
    (isFirst : first.assignment.Gives (· = consequent) []) (nested : Nested first.ahead)
    (settled : (∀ token ∈ first.ahead, token.kind ≠ .mark .lt) ∨
      Lookahead.ClosesNoAngles others) :
    c.assignment.Gives (·.unplaced = consequent.unplaced)
      (.mark .rparen :: others.map Token.kind) := by
  obtain ⟨front, further, split, sameFront, behind⟩ := List.map_eq_append_iff.1 ahead
  obtain ⟨closing, others', rfl, closes, sameOthers⟩ := List.map_eq_cons_iff.1 behind
  have same : SameKinds first.ahead front := .of_map_eq sameFront.symm
  let a : Appendix :=
    { front := front
      closing := closing
      others := others'
      nested := nested.of_sameKinds same
      closes := closes
      settled := settled.imp same.kind_ne (·.of_sameKinds (.of_map_eq sameOthers.symm)) }
  let alone : Cursor := ⟨c.behind, front, c.stop⟩
  have isExtended : a.extend alone = c := by
    rw [Appendix.extend]
    exact congrArg (Cursor.mk _ · _) split.symm
  have gives := a.gives_assignment (c := alone) List.suffix_rfl
    (gives_assignment_of_sameKinds isFirst same)
  have isTail : a.tail.map Token.kind = .mark .rparen :: others.map Token.kind := by
    rw [← sameOthers, ← closes]
    rfl
  rwa [isExtended, isTail] at gives

/-- An expression in parentheses is read in front of a colon as it is read alone. -/
theorem gives_assignment_branch {first : Cursor} {consequent : Expression}
    (ahead : c.kinds =
      .mark .lparen :: (first.kinds ++ .mark .rparen :: .mark .colon :: second.map Token.kind))
    (isFirst : first.assignment.Gives (· = consequent) []) (nested : Nested first.ahead)
    (noArrow : Lookahead.ascriptionThenArrow second = false)
    (settled : (∀ token ∈ first.ahead, token.kind ≠ .mark .lt) ∨
      Lookahead.ClosesNoAngles second) :
    c.assignment.Gives (·.unplaced = consequent.unplaced)
      (.mark .colon :: second.map Token.kind) := by
  obtain ⟨past, isNext, opens, inside⟩ := next?_of_kinds ahead
  refine gives_assignment_group isNext opens ((startsArrow_branch ahead nested).trans noArrow) ?_
  have settled' : (∀ token ∈ first.ahead, token.kind ≠ .mark .lt) ∨
      Lookahead.ClosesNoAngles (⟨.mark .colon, .origin⟩ :: second) :=
    settled.imp_right fun closesNone => ⟨fun closes => absurd closes (by simp), closesNone⟩
  exact gives_assignment_inside inside isFirst nested settled'

/-! ## Conditional expressions of a name -/

section Test

variable {name : String} (ahead : c.kinds = .name name :: .mark .question :: rest)
include ahead

theorem startsArrow_test : Lookahead.startsArrow c.ahead = false := by
  obtain ⟨⟨_, _⟩, tokens, split, rfl, further⟩ := List.map_eq_cons_iff.1 ahead
  obtain ⟨⟨_, _⟩, tokens, rfl, rfl, -⟩ := List.map_eq_cons_iff.1 further
  rw [split]
  rfl

variable (plain : name ∉ ["async", "await", "delete"])
include plain

theorem name?_async_test : c.name? "async" = none := by
  refine name?_eq_none ahead ?_
  rintro ⟨⟩
  exact absurd plain (by decide)

theorem gives_test : ((Rules.all c).binaryFrom 1 c c.le_self).Gives
    (fun value => value.unplaced = ⟨.name name, .origin⟩) (.mark .question :: rest) := by
  refine Rules.gives_binaryFrom_of_divides (by simp) ?_ 1
  exact Rules.gives_operand_name ahead plain fun value d inside left =>
    Rules.gives_suffixes_of_divides (by simp) _ value left

end Test

/-- Where an arrow is found behind the colon, the first branch of a conditional expression is a
function. -/
theorem ensures_assignment_conditional {name : String}
    (ahead : c.kinds = .name name :: .mark .question :: .mark .lparen ::
      (inner.map Token.kind ++ .mark .rparen :: .mark .colon :: second.map Token.kind))
    (plain : name ∉ ["async", "await", "delete"]) (nested : Nested inner)
    (arrow : Lookahead.ascriptionThenArrow second = true) :
    c.assignment.Ensures fun value _ => ∀ test consequent alternative,
      value.form = .conditional test consequent alternative → consequent.form = .function := by
  rw [assignment, Rules.assignmentFrom, name?_async_test ahead plain]
  dsimp only
  rw [startsArrow_test ahead, if_neg Bool.false_ne_true]
  have conditional : ((Rules.all c).conditional c c.le_self).Ensures fun value _ =>
      ∀ test consequent alternative,
        value.form = .conditional test consequent alternative → consequent.form = .function := by
    refine (Ensures.of_gives (gives_test ahead plain)).andThen fun test d _ isTest => ?_
    obtain ⟨past, isNext, ahead⟩ := mark?_of_kinds isTest.2
    rw [isNext]
    dsimp only
    refine .lax (.go ?_)
    rw [Rules.all_assignment]
    refine (ensures_assignment_branch ahead nested arrow).andThen fun branch e _ isFunction => ?_
    refine (Ensures.always _).andThen fun _ _ _ _ => (Ensures.always _).andThen fun _ _ _ _ => ?_
    exact .ok fun _ _ _ same => by cases same; exact isFunction
  refine conditional.andThen fun target d _ isFunction => ?_
  refine (Ensures.always _).bind fun _ e _ _ => ?_
  split
  · exact .ok isFunction
  · refine .lax (.go ((Ensures.always _).andThen fun _ _ _ _ => ?_))
    exact .ok fun _ _ _ same => by cases same

/-- **A conditional expression with a parenthesised first branch is read as it is meant, where no
arrow is found behind the colon.** Where one is found, none is read whose first branch is not a
function. -/
theorem assignment_conditional {first second : Cursor} {name : String}
    {consequent alternative : Expression}
    (ahead : c.kinds = .name name :: .mark .question :: .mark .lparen ::
      (first.kinds ++ .mark .rparen :: .mark .colon :: second.kinds))
    (plain : name ∉ ["async", "await", "delete"])
    (isFirst : first.assignment.Gives (· = consequent) [])
    (isSecond : second.assignment.Gives (· = alternative) [])
    (nested : Nested first.ahead)
    (settled : (∀ token ∈ first.ahead, token.kind ≠ .mark .lt) ∨
      Lookahead.ClosesNoAngles second.ahead) :
    (Lookahead.ascriptionThenArrow second.ahead = false →
      c.assignment.Gives (fun value => value.unplaced = Expression.unplaced
        ⟨.conditional ⟨.name name, .origin⟩ consequent alternative, .origin⟩) []) ∧
    (Lookahead.ascriptionThenArrow second.ahead = true →
      c.assignment.Ensures fun value _ => ∀ test branch other,
        value.form = .conditional test branch other → branch.form = .function) := by
  refine ⟨fun noArrow => ?_, ensures_assignment_conditional ahead plain nested⟩
  refine gives_assignment_of_conditional (name?_async_test ahead plain) (startsArrow_test ahead) ?_
    (by simp)
  refine (gives_test ahead plain).andThen fun test d _ isTest ahead => ?_
  obtain ⟨past, isNext, ahead⟩ := mark?_of_kinds ahead
  rw [isNext]
  dsimp only
  refine .lax (.go ?_)
  rw [Rules.all_assignment]
  refine (gives_assignment_branch ahead isFirst nested noArrow settled).andThen
    fun consequent' e _ isConsequent ahead => ?_
  refine (gives_expectMark ahead).andThen fun _ e' _ _ ahead => ?_
  rw [Rules.all_assignment]
  refine (gives_assignment_of_sameKinds isSecond (.of_map_eq ahead.symm)).andThen
    fun alternative' f _ isAlternative ended => .ok ?_ ended
  rw [expressionFrom, Expression.unplaced, Expression.unplaced, ExpressionForm.unplaced,
    ExpressionForm.unplaced, isTest, isConsequent, isAlternative]
  rfl

/-! ## Two conditional expressions -/

/-- A cursor in front of tokens of some kinds. -/
def ofKinds (kinds : List Kind) : Cursor := .start (kinds.map (⟨·, .origin⟩)) .origin

/-- The expression `x ? (a < b) : c > d` is read as it is meant, although `< b) : c >` could be
type arguments. -/
theorem assignment_conditional_comparisons :
    ∃ consequent alternative : Expression,
      (ofKinds [.name "a", .mark .lt, .name "b"]).assignment.Gives (· = consequent) [] ∧
      (ofKinds [.name "c", .mark .gt, .name "d"]).assignment.Gives (· = alternative) [] ∧
      (ofKinds [.name "x", .mark .question, .mark .lparen, .name "a", .mark .lt, .name "b",
        .mark .rparen, .mark .colon, .name "c", .mark .gt, .name "d"]).assignment.Gives
          (fun value => value.unplaced = Expression.unplaced
            ⟨.conditional ⟨.name "x", .origin⟩ consequent alternative, .origin⟩) [] := by
  obtain ⟨consequent, isFirst⟩ :=
    exists_gives (ofKinds [.name "a", .mark .lt, .name "b"]).assignment []
      (by decide +kernel) (by decide +kernel)
  obtain ⟨alternative, isSecond⟩ :=
    exists_gives (ofKinds [.name "c", .mark .gt, .name "d"]).assignment []
      (by decide +kernel) (by decide +kernel)
  have nested : Nested (ofKinds [.name "a", .mark .lt, .name "b"]).ahead :=
    .token rfl rfl (.token rfl rfl (.token rfl rfl .nil))
  exact ⟨consequent, alternative, isFirst, isSecond,
    (assignment_conditional rfl (by decide) isFirst isSecond nested (.inr (by decide +kernel))).1
      (by decide +kernel)⟩

/-- **A parenthesised first branch is taken for the parameters of an arrow function, where the
second branch is an arrow function**: `x ? (y) : z => z` is not read as a conditional expression
with the branches `y` and `z => z`. -/
theorem branch_taken_for_parameters :
    ¬∀ (c first second : Cursor) (name : String) (consequent alternative : Expression),
      c.kinds = .name name :: .mark .question :: .mark .lparen ::
        (first.kinds ++ .mark .rparen :: .mark .colon :: second.kinds) →
      name ∉ ["async", "await", "delete"] →
      first.assignment.Gives (· = consequent) [] →
      second.assignment.Gives (· = alternative) [] →
      c.assignment.Gives (fun value => value.unplaced = Expression.unplaced
        ⟨.conditional ⟨.name name, .origin⟩ consequent alternative, .origin⟩) [] := by
  intro claimed
  obtain ⟨consequent, isFirst⟩ :=
    exists_gives (ofKinds [.name "y"]).assignment [] (by decide +kernel) (by decide +kernel)
  obtain ⟨alternative, isSecond⟩ :=
    exists_gives (ofKinds [.name "z", .mark .arrow, .name "z"]).assignment []
      (by decide +kernel) (by decide +kernel)
  let c : Cursor :=
    ofKinds [.name "x", .mark .question, .mark .lparen, .name "y", .mark .rparen, .mark .colon,
      .name "z", .mark .arrow, .name "z"]
  have fails : c.assignment.result.isOk = false := by decide +kernel
  obtain ⟨value, d, succeeded, -, -⟩ :=
    claimed c _ _ "x" consequent alternative rfl (by decide) isFirst isSecond
  rw [Outcome.result, succeeded] at fails
  cases fails

end Cursor

end InjectionCheck
