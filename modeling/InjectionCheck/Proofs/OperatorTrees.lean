import InjectionCheck.Proofs.AbreastExpressions
import InjectionCheck.Proofs.Readings
import InjectionCheck.Proofs.Successes

/-!
# Operators in a row

Names with operators between them, up to a semicolon, are read as a tree. In a row of names many
trees can be seen; there is one in which every operator has operators on its left that bind at
least as tightly, and operators on its right that bind tighter (`Climbs.eq`). This is the tree that
is read (`assignment_row`).

A `<` in such a row might start type arguments. They may even parse, but no arguments of a call
can follow them: behind a `>` there is a name (`Row.ensures_typeArguments`). So the attempt is
given up, and the sign is an operator.

The rule that joins operands carries how tightly operators have to bind. Every operator of the tree
that it has built so far binds at least as tightly as the operator in front of which it stands.
-/

set_option autoImplicit false

namespace InjectionCheck

open Cursor Outcome

/-! ## Trees -/

/-- How tightly an operator binds. -/
def Mark.tightness (sign : Mark) : Nat := sign.precedence?.getD 0

theorem Mark.tightness_pos {sign : Mark} (isOperator : sign.precedence?.isSome = true) :
    1 ≤ sign.tightness := by
  cases sign <;> first | decide | cases isOperator

/-- Names joined by operators. -/
inductive OperatorTree where
  | operand (name : String)
  | node (left : OperatorTree) (sign : Mark) (right : OperatorTree)
deriving DecidableEq, Repr

namespace OperatorTree

/-- The tokens that a tree is written with. -/
def kinds : OperatorTree → List Kind
  | .operand name => [.name name]
  | .node left sign right => left.kinds ++ .mark sign :: right.kinds

/-- The expression that a tree stands for, spans aside. -/
def expression : OperatorTree → Expression
  | .operand name => ⟨.name name, .origin⟩
  | .node left _ right => ⟨.binary left.expression right.expression, .origin⟩

/-- All operators of a tree bind at least as tightly as a number says. -/
def AtLeast (tree : OperatorTree) (least : Nat) : Prop :=
  ∀ sign, .mark sign ∈ tree.kinds → least ≤ sign.tightness

/-- On the left of every operator there are operators that bind at least as tightly, and on its
right operators that bind tighter. -/
def Climbs : OperatorTree → Prop
  | .operand _ => True
  | .node left sign right =>
    left.Climbs ∧ right.Climbs ∧ left.AtLeast sign.tightness ∧ right.AtLeast (sign.tightness + 1)

variable {tree left right : OperatorTree} {sign : Mark} {least : Nat}

theorem atLeast_operand (name : String) : (operand name).AtLeast least := by
  intro sign isSign
  rw [kinds, List.mem_singleton] at isSign
  cases isSign

theorem AtLeast.mono {fewer : Nat} (atLeast : tree.AtLeast least) (le : fewer ≤ least) :
    tree.AtLeast fewer :=
  fun sign isSign => Nat.le_trans le (atLeast sign isSign)

theorem atLeast_node :
    (node left sign right).AtLeast least ↔
      left.AtLeast least ∧ least ≤ sign.tightness ∧ right.AtLeast least := by
  simp only [AtLeast, kinds, List.mem_append, List.mem_cons, Kind.mark.injEq]
  constructor
  · intro all
    exact ⟨fun other isLeft => all other (.inl isLeft), all sign (.inr (.inl rfl)),
      fun other isRight => all other (.inr (.inr isRight))⟩
  · rintro ⟨atLeft, here, atRight⟩ other (isLeft | rfl | isRight)
    · exact atLeft other isLeft
    · exact here
    · exact atRight other isRight

/-- A tree that is written with one name is that name. -/
theorem eq_operand_of_kinds {name : String} (same : tree.kinds = [.name name]) :
    tree = .operand name := by
  cases tree with
  | operand name' =>
      cases same
      rfl
  | node left sign right =>
      have inside : Kind.mark sign ∈ (node left sign right).kinds := by simp [kinds]
      rw [same, List.mem_singleton] at inside
      cases inside

/-- Two trees cannot part the same row at different operators: the later one would have the
earlier one on its left, and the earlier one the later one on its right. -/
theorem Climbs.not_later {left' right' : OperatorTree} {sign' : Mark} {part : List Kind}
    (climbs : (node left sign right).Climbs) (climbs' : (node left' sign' right').Climbs)
    (isLeft : left.kinds = left'.kinds ++ .mark sign' :: part)
    (isRight : right'.kinds = part ++ .mark sign :: right.kinds) : False := by
  have onLeft : sign.tightness ≤ sign'.tightness := climbs.2.2.1 sign' (by simp [isLeft])
  have onRight : sign'.tightness + 1 ≤ sign.tightness := climbs'.2.2.2 sign (by simp [isRight])
  omega

/-- **There is at most one tree in which operators climb that is written with given tokens.** -/
theorem Climbs.eq {other : OperatorTree} (climbs : tree.Climbs) (climbs' : other.Climbs)
    (same : tree.kinds = other.kinds) : tree = other := by
  induction tree generalizing other with
  | operand name => exact (eq_operand_of_kinds same.symm).symm
  | node left sign right ihLeft ihRight =>
      cases other with
      | operand name => exact eq_operand_of_kinds same
      | node left' sign' right' =>
          obtain ⟨part, isLeft', isRest⟩ | ⟨part, isLeft, isRest⟩ :=
            List.append_eq_append_iff.1 same
          · cases part with
            | nil =>
                obtain ⟨rfl, sameRight⟩ : sign = sign' ∧ right.kinds = right'.kinds := by
                  simpa using isRest
                rw [ihLeft climbs.1 climbs'.1 (by simpa using isLeft'.symm),
                  ihRight climbs.2.1 climbs'.2.1 sameRight]
            | cons kind part =>
                obtain ⟨rfl, isRight⟩ := List.cons.inj isRest
                exact (climbs'.not_later climbs isLeft' isRight).elim
          · cases part with
            | nil =>
                obtain ⟨rfl, sameRight⟩ : sign' = sign ∧ right'.kinds = right.kinds := by
                  simpa using isRest
                rw [ihLeft climbs.1 climbs'.1 (by simpa using isLeft),
                  ihRight climbs.2.1 climbs'.2.1 sameRight.symm]
            | cons kind part =>
                obtain ⟨rfl, isRight⟩ := List.cons.inj isRest
                exact (climbs.not_later climbs' isLeft isRight).elim

end OperatorTree

/-! ## Rows -/

/-- A name that is an operand wherever it stands, and not the start of a function or an operator in
front of an operand. -/
def PlainName (name : String) : Prop := name ∉ ["async", "await", "delete"]

instance (name : String) : Decidable (PlainName name) := inferInstanceAs (Decidable (_ ∉ _))

/-- The tokens of some names, with an operator in front of each. -/
def operatorKinds (further : List (Mark × String)) : List Kind :=
  further.flatMap fun part => [.mark part.1, .name part.2]

@[simp] theorem operatorKinds_nil : operatorKinds [] = [] := rfl

@[simp] theorem operatorKinds_cons (part : Mark × String) (others : List (Mark × String)) :
    operatorKinds (part :: others) = .mark part.1 :: .name part.2 :: operatorKinds others := rfl

@[simp] theorem operatorKinds_append (taken rest : List (Mark × String)) :
    operatorKinds (taken ++ rest) = operatorKinds taken ++ operatorKinds rest :=
  List.flatMap_append

/-- An operator and a name behind it. -/
def Joins (part : Mark × String) : Prop := part.1.precedence?.isSome = true ∧ PlainName part.2

instance (part : Mark × String) : Decidable (Joins part) := inferInstanceAs (Decidable (_ ∧ _))

/-- Tokens that stand behind a name of a row: operators with names behind them, a semicolon, and
what comes after it. -/
def Row (after kinds : List Kind) : Prop :=
  ∃ further, (∀ part ∈ further, Joins part) ∧
    kinds = operatorKinds further ++ .mark .semicolon :: after

namespace Row

variable {after kinds : List Kind}

/-- A mark that may stand behind a name of a row. -/
def Ends (sign : Mark) : Prop := sign = .semicolon ∨ sign.precedence?.isSome = true

instance (sign : Mark) : Decidable (Ends sign) := inferInstanceAs (Decidable (_ ∨ _))

/-- Behind a name of a row there is the semicolon, or an operator and a name. -/
theorem cases (row : Row after kinds) :
    kinds = .mark .semicolon :: after ∨
      ∃ sign name rest, kinds = .mark sign :: .name name :: rest ∧
        sign.precedence?.isSome = true ∧ Row after rest := by
  obtain ⟨further, joins, rfl⟩ := row
  cases further with
  | nil => exact .inl rfl
  | cons part others =>
      obtain ⟨isPart, joins⟩ := List.forall_mem_cons.1 joins
      exact .inr ⟨part.1, part.2, _, rfl, isPart.1, others, joins, rfl⟩

theorem exists_mark (row : Row after kinds) :
    ∃ sign rest, kinds = .mark sign :: rest ∧ Ends sign := by
  obtain rfl | ⟨sign, name, rest, rfl, isOperator, _⟩ := row.cases
  · exact ⟨_, _, rfl, .inl rfl⟩
  · exact ⟨_, _, rfl, .inr isOperator⟩

end Row

/-- Tokens that stand in front of a name of a row. -/
def NameNext (after kinds : List Kind) : Prop :=
  ∃ name rest, kinds = .name name :: rest ∧ Row after rest

/-- Tokens that stand behind or in front of a name of a row. -/
def InRow (after kinds : List Kind) : Prop := Row after kinds ∨ NameNext after kinds

namespace InRow

variable {after : List Kind} {c : Cursor}

/-- In a row there is a name next, or a mark that may stand behind one. -/
theorem exists_kind (inRow : InRow after c.kinds) :
    ∃ kind rest, c.kinds = kind :: rest ∧
      ((∃ name, kind = .name name) ∨ ∃ sign, kind = .mark sign ∧ Row.Ends sign) := by
  obtain row | ⟨name, rest, ahead, _⟩ := inRow
  · obtain ⟨sign, rest, ahead, ends⟩ := row.exists_mark
    exact ⟨_, rest, ahead, .inr ⟨sign, rfl, ends⟩⟩
  · exact ⟨_, rest, ahead, .inl ⟨name, rfl⟩⟩

theorem mark?_eq_none (inRow : InRow after c.kinds) {sign : Mark} (noEnd : ¬Row.Ends sign) :
    c.mark? sign = none := by
  obtain ⟨kind, rest, ahead, ⟨name, rfl⟩ | ⟨sign', rfl, ends⟩⟩ := inRow.exists_kind
  · exact Cursor.mark?_eq_none ahead nofun
  · refine Cursor.mark?_eq_none ahead ?_
    rintro ⟨⟩
    exact noEnd ends

theorem seesMark_eq_false (inRow : InRow after c.kinds) {sign : Mark} (noEnd : ¬Row.Ends sign) :
    c.seesMark sign = false := by
  obtain ⟨kind, rest, ahead, ⟨name, rfl⟩ | ⟨sign', rfl, ends⟩⟩ := inRow.exists_kind
  · rw [seesMark_eq ahead, decide_eq_false nofun]
  · rw [seesMark_eq ahead, decide_eq_false]
    rintro ⟨⟩
    exact noEnd ends

theorem keyword?_eq_none (inRow : InRow after c.kinds) (word : Keyword) :
    c.keyword? word = none := by
  obtain ⟨kind, rest, ahead, ⟨name, rfl⟩ | ⟨sign, rfl, _⟩⟩ := inRow.exists_kind
  · exact Cursor.keyword?_eq_none ahead nofun
  · exact Cursor.keyword?_eq_none ahead nofun

/-- Behind a mark of a row there is a name, unless it is the semicolon. -/
theorem nameNext_of_next? (inRow : InRow after c.kinds) {past : c.Past}
    (isNext : c.next? = some past) {sign : Mark} (isMark : past.token.kind = .mark sign)
    (notLast : sign ≠ .semicolon) : NameNext after past.rest.kinds := by
  have ahead := kinds_of_next? isNext
  rw [isMark] at ahead
  rw [ahead] at inRow
  obtain row | ⟨name, rest, same, _⟩ := inRow
  · obtain same | ⟨sign', name, rest, same, _, behind⟩ := row.cases
    · exact absurd (Kind.mark.inj (List.cons.inj same).1) notLast
    · exact ⟨name, rest, (List.cons.inj same).2, behind⟩
  · cases (List.cons.inj same).1

theorem nameNext_of_mark? (inRow : InRow after c.kinds) {sign : Mark} {past : c.Past}
    (isNext : c.mark? sign = some past) (notLast : sign ≠ .semicolon) :
    NameNext after past.rest.kinds := by
  rw [mark?, nextIf?] at isNext
  split at isNext
  · next past' isNext' =>
      split at isNext
      · next isMark =>
          cases isNext
          exact inRow.nameNext_of_next? isNext' (of_decide_eq_true isMark) notLast
      · cases isNext
  · cases isNext

end InRow

/-! ## Types in a row

A type that is read in front of a name of a row stops in the row. -/

namespace Rules

variable {limit : Cursor} {rules : Rules limit} {after : List Kind} {c : Cursor}

/-- A rule that is entered in front of a name of a row stops in the row, if it succeeds. -/
def StaysInRow {α : Type} {moves : Bool} {allowed : Cursor → Prop} (after : List Kind)
    (rule : (c : Cursor) → allowed c → Outcome moves c α) : Prop :=
  ∀ (c : Cursor) (inside : allowed c), NameNext after c.kinds →
    (rule c inside).Ensures fun _ d => InRow after d.kinds

theorem ensures_expectMark (inRow : InRow after c.kinds) {sign : Mark}
    (notLast : sign ≠ .semicolon) :
    (c.expectMark sign).Ensures fun _ d => NameNext after d.kinds := by
  refine Outcome.Ensures.expectMark.mono fun _ d passed => ?_
  obtain ⟨past, isNext, isSign, rfl⟩ := passed
  exact inRow.nameNext_of_next? isNext isSign notLast

/-- Type arguments in a row have a name behind them, and so no arguments of a call. -/
theorem ensures_typeArguments (types : StaysInRow after rules.type) {inside} {rest : List Kind}
    (ahead : c.kinds = .mark .lt :: rest) (named : NameNext after rest) :
    (rules.typeArguments c inside).Ensures fun _ d => NameNext after d.kinds := by
  refine .andThen (.of_gives (gives_expectMark ahead)) fun opened d less isNext => ?_
  rw [← isNext.2] at named
  have ⟨name, others, isName, _⟩ := named
  rw [elements, Cursor.mark?_eq_none isName (by simp)]
  dsimp only
  refine .ite (fun _ => .fail) fun _ => ?_
  refine .andThen (types d _ named) fun type e _ inRow => ?_
  rw [inRow.mark?_eq_none (by decide)]
  exact .map (.mapError (ensures_expectMark inRow (by decide))) fun _ _ => id

theorem ensures_namedTypeAfter (types : StaysInRow after rules.type) (start : Span)
    (name : String) {inside} (row : Row after c.kinds) :
    (rules.namedTypeAfter start name c inside).Ensures fun _ d => InRow after d.kinds := by
  rw [namedTypeAfter, InRow.seesMark_eq_false (.inl row) (by decide), if_neg Bool.false_ne_true]
  refine .ite (fun sees => ?_) fun _ => .ok (.inl row)
  obtain last | ⟨sign, name, rest, ahead, _, behind⟩ := row.cases
  · rw [seesMark_eq last] at sees
    cases of_decide_eq_true sees
  · rw [seesMark_eq ahead] at sees
    rw [of_decide_eq_true sees] at ahead
    exact .bind (.lax (ensures_typeArguments types ahead ⟨name, rest, rfl, behind⟩))
      fun _ d _ named => .ok (.inr named)

theorem staysInRow_primaryType (types : StaysInRow after rules.type) :
    StaysInRow after rules.primaryType := by
  rintro c inside ⟨name, rest, ahead, row⟩
  obtain ⟨past, isNext, isName, rfl⟩ := next?_of_kinds ahead
  rw [primaryType, isNext]
  dsimp only
  rw [isName]
  split
  any_goals contradiction
  · rw [InRow.keyword?_eq_none (.inl row)]
    exact .go (ensures_namedTypeAfter types _ _ row)
  · exact .go (ensures_namedTypeAfter types _ _ row)
  · next other => exact absurd rfl (other name)

theorem staysInRow_suffixedType (types : StaysInRow after rules.type) :
    StaysInRow after rules.suffixedType := by
  intro c inside named
  refine .andThen (staysInRow_primaryType types c inside named) fun type d less inRow => ?_
  rw [typeSuffixes, inRow.mark?_eq_none (by decide)]
  exact .ok inRow

/-- Behind a name of a row there is no operand of a word in front of a type. -/
theorem staysInRow_operandType (types : StaysInRow after rules.type) :
    StaysInRow after rules.operandType := by
  intro c inside named
  have suffixed := staysInRow_suffixedType types c inside named
  obtain ⟨name, rest, ahead, row⟩ := named
  obtain ⟨past, isNext, isName, rfl⟩ := next?_of_kinds ahead
  obtain ⟨sign, rest, ahead', ends⟩ := row.exists_mark
  obtain ⟨second, isSecond, isMark, _⟩ := next?_of_kinds ahead'
  have noOperand : past.rest.kind?.any Kind.startsTypeOperand = false := by
    rw [kind?_of_kinds ahead']
    revert ends
    cases sign <;> decide
  rw [operandType, isNext]
  dsimp only
  rw [noOperand, Cursor.name?_eq_none ahead' nofun, isSecond]
  dsimp only
  rw [isMark]
  split <;> exact suffixed

theorem ensures_furtherMembers {sign : Mark} (notLast : sign ≠ .semicolon)
    {member : (c : Cursor) → c.remaining ≤ limit.remaining → Outcome true c TypeExpression}
    (stays : StaysInRow after member) (earlier : List TypeExpression) (c : Cursor) (inside)
    (inRow : InRow after c.kinds) :
    (furtherMembers sign member earlier c inside).Ensures fun _ d => InRow after d.kinds := by
  rw [furtherMembers]
  split
  · next past isNext =>
      refine .lax (.go (.andThen (stays _ _ (inRow.nameNext_of_mark? isNext notLast))
        fun type d less inRow => ?_))
      have := past.less
      exact ensures_furtherMembers notLast stays _ d _ inRow
  · exact .ok inRow
termination_by c.remaining

theorem staysInRow_intersectionType (types : StaysInRow after rules.type) :
    StaysInRow after rules.intersectionType := by
  intro c inside named
  have ⟨name, rest, ahead, _⟩ := named
  refine .bind (.of_gives (gives_optionalMark_none ahead nofun)) fun _ d _ same => ?_
  rw [← ahead] at same
  refine .andThen (staysInRow_operandType types d _ (same.2 ▸ named)) fun _ e _ inRow => ?_
  exact .bind (ensures_furtherMembers (by decide) (staysInRow_operandType types) _ e _ inRow)
    fun _ f _ inRow => .ok inRow

theorem staysInRow_unionType (types : StaysInRow after rules.type) :
    StaysInRow after rules.unionType := by
  intro c inside named
  have ⟨name, rest, ahead, _⟩ := named
  refine .bind (.of_gives (gives_optionalMark_none ahead nofun)) fun _ d _ same => ?_
  rw [← ahead] at same
  refine .andThen (staysInRow_intersectionType types d _ (same.2 ▸ named)) fun _ e _ inRow => ?_
  exact .bind (ensures_furtherMembers (by decide) (staysInRow_intersectionType types) _ e _ inRow)
    fun _ f _ inRow => .ok inRow

theorem staysInRow_fullType (types : StaysInRow after rules.type) :
    StaysInRow after rules.fullType := by
  intro c inside named
  refine .andThen (staysInRow_unionType types c inside named) fun type d _ inRow => ?_
  rw [inRow.keyword?_eq_none]
  exact .ok inRow

/-- **A type in front of a name of a row stops in the row.** -/
theorem staysInRow_type (after : List Kind) (limit : Cursor) :
    StaysInRow after (all limit).type := by
  intro c inside named
  rw [all_type]
  exact staysInRow_fullType (staysInRow_type after c) c c.le_self named
termination_by limit.remaining

/-! ## Operands -/

variable {name : String} {rest : List Kind}

/-- **Type arguments are given up in a row**: no arguments of a call are behind them. -/
theorem gives_suffixes (types : StaysInRow after rules.type) (start : Span) (operand : Expression)
    {inside} (row : Row after c.kinds) :
    (rules.suffixes start operand c inside).Gives (· = operand) c.kinds := by
  obtain ⟨sign, rest, ahead, ends⟩ := row.exists_mark
  obtain ⟨past, isNext, isMark, _⟩ := next?_of_kinds ahead
  rw [suffixes, isNext]
  dsimp only
  rw [isMark]
  have noEnd {other : Mark} (noEnd : ¬Row.Ends other) : sign ≠ other := fun same =>
    noEnd (same ▸ ends)
  split
  iterate 4 · next same => exact absurd (Kind.mark.inj same) (noEnd (by decide))
  · next same =>
      rw [same] at ahead
      have named : NameNext after rest := by
        obtain last | ⟨_, name, others, ahead', _, behind⟩ := row.cases
        · rw [ahead] at last
          cases last
        · rw [ahead] at ahead'
          exact ⟨name, others, (List.cons.inj ahead').2, behind⟩
      have given : (Outcome.ok operand : Outcome false c Expression).Gives (· = operand) c.kinds :=
        .ok rfl rfl
      refine given.congr (stopped_tried fun _ succeeded _ _ => ?_)
      obtain ⟨name, others, isName, _⟩ := ensures_typeArguments types ahead named _ succeeded
      rw [seesMark_eq isName, if_neg (by simp)]
  · next same => exact absurd (Kind.mark.inj same) (noEnd (by decide))
  · next same => cases same
  · exact .ok rfl rfl

/-- A name is read as an operand if nothing behind it belongs to it. -/
theorem gives_operand_name {inside} (ahead : c.kinds = .name name :: rest) (plain : PlainName name)
    (stops : ∀ (value : Expression) (d : Cursor) (inside), d.kinds = rest →
      (rules.suffixes c.span value d inside).Gives (· = value) rest) :
    (rules.operand c inside).Gives
      (fun value => value.unplaced = (OperatorTree.operand name).expression) rest := by
  obtain ⟨past, isNext, isName, rfl⟩ := next?_of_kinds ahead
  have noPrefix : seesPrefixOperator c = false := by
    rw [seesPrefixOperator, kind?_of_kinds ahead]
    split
    · next same => cases same; exact absurd plain (by decide)
    · next same => cases same; exact absurd plain (by decide)
    · next same => cases same; rfl
    · rfl
  have primary : (rules.primary c inside).Gives
      (fun value => value.unplaced = (OperatorTree.operand name).expression) past.rest.kinds := by
    rw [Rules.primary, isNext]
    dsimp only
    rw [isName]
    split
    any_goals contradiction
    · next same => cases same; exact absurd plain (by decide)
    · next same => cases same; exact .go (.ok rfl rfl)
    · exact absurd rfl (‹∀ text, Kind.name name = .name text → False› name)
  rw [operand, isNext]
  dsimp only
  rw [noPrefix, isName, if_neg Bool.false_ne_true, if_neg nofun, suffixed, kind?_of_kinds ahead,
    if_neg nofun]
  refine primary.andThen fun value d less isRight left => ?_
  exact (stops value d _ left).mono fun _ same => same ▸ isRight

theorem gives_operand (types : StaysInRow after rules.type) {inside}
    (ahead : c.kinds = .name name :: rest) (plain : PlainName name) (row : Row after rest) :
    (rules.operand c inside).Gives
      (fun value => value.unplaced = (OperatorTree.operand name).expression) rest := by
  refine gives_operand_name ahead plain fun value d _ left => ?_
  rw [← left] at row ⊢
  exact gives_suffixes types c.span value row

/-! ## Operators -/

/-- A tree that has been built in front of some operators: its own operators climb, and they bind
at least as tightly as a number says and as the first operator ahead. -/
structure StandsBefore (least : Nat) (further : List (Mark × String)) (tree : OperatorTree) :
    Prop where
  climbs : tree.Climbs
  atLeast : tree.AtLeast least
  next : ∀ part ∈ further.head?, tree.AtLeast part.1.tightness

/-- What is built up to an operator that does not bind tightly enough: the value is a tree that is
written with some tokens and the operators that are taken. -/
structure Joined (least : Nat) (front : List Kind) (taken rest : List (Mark × String))
    (after : List Kind) (tree : OperatorTree) (value : Expression) (d : Cursor) : Prop where
  climbs : tree.Climbs
  atLeast : tree.AtLeast least
  stops : ∀ part ∈ rest.head?, part.1.tightness < least
  written : tree.kinds = front ++ operatorKinds taken
  value : value.unplaced = tree.expression
  ahead : d.kinds = operatorKinds rest ++ .mark .semicolon :: after

/-- A rule takes in some of the operators ahead, behind the tokens in front of them. -/
def TakesIn (least : Nat) (front : List Kind) (further : List (Mark × String))
    (after : List Kind) (value : Expression) (d : Cursor) : Prop :=
  ∃ taken rest tree, further = taken ++ rest ∧ Joined least front taken rest after tree value d

section Building

variable {least : Nat} {front : List Kind} {further taken rest : List (Mark × String)}
  {tree right : OperatorTree} {sign : Mark} {value : Expression} {d : Cursor}

theorem standsBefore_operand (name : String) : StandsBefore least further (.operand name) :=
  ⟨trivial, OperatorTree.atLeast_operand name, fun _ _ => OperatorTree.atLeast_operand name⟩

/-- A tree and what is read behind its next operator are joined, and stand before the operator
behind them: it binds no tighter than the one that joins them. -/
theorem StandsBefore.node (before : StandsBefore least ((sign, name) :: further) tree)
    (binds : least ≤ sign.tightness)
    (joined : Joined (sign.tightness + 1) front taken rest after right value d) :
    StandsBefore least rest (.node tree sign right) := by
  have atLeast : (OperatorTree.node tree sign right).AtLeast sign.tightness :=
    OperatorTree.atLeast_node.2
      ⟨before.next _ rfl, Nat.le_refl _, joined.atLeast.mono (Nat.le_succ _)⟩
  refine ⟨⟨before.climbs, joined.climbs, before.next _ rfl, joined.atLeast⟩, atLeast.mono binds, ?_⟩
  intro part isNext
  exact atLeast.mono (Nat.le_of_lt_succ (joined.stops part isNext))

/-- What is taken in behind a joined tree is taken in behind its left part. -/
theorem TakesIn.of_node (parted : further = taken ++ rest)
    (written : right.kinds = .name name :: operatorKinds taken)
    (takes : TakesIn least (OperatorTree.node tree sign right).kinds rest after value d) :
    TakesIn least tree.kinds ((sign, name) :: further) after value d := by
  obtain ⟨taken', rest', tree', parted', joined⟩ := takes
  refine ⟨(sign, name) :: taken ++ taken', rest', tree', by simp [parted, parted'],
    { joined with written := ?_ }⟩
  simp [joined.written, OperatorTree.kinds, written]

end Building

theorem operatorPrecedence?_of_kinds {sign : Mark} (ahead : c.kinds = .mark sign :: rest) :
    c.operatorPrecedence? = sign.precedence? := by
  rw [operatorPrecedence?, kind?_of_kinds ahead]
  rfl

/-- In front of a second operand there is no second star. -/
theorem gives_noStar {condition : Prop} [Decidable condition]
    (ahead : c.kinds = .name name :: rest) :
    (if condition then c.optionalMark .star else .ok false).Gives (fun _ => True)
      (.name name :: rest) := by
  split
  · exact (gives_optionalMark_none ahead nofun).mono fun _ _ => trivial
  · exact .ok trivial ahead

/-- **The operators behind a tree that bind at least as tightly as a number says are taken into
it**, by induction on the operators ahead: those behind a second operand are ahead of it. -/
theorem then_operators (limit : Cursor) (least : Nat) (start : Span) (left : Expression)
    (further : List (Mark × String)) (tree : OperatorTree) (c : Cursor) (inside)
    (joins : ∀ part ∈ further, Joins part)
    (ahead : c.kinds = operatorKinds further ++ .mark .semicolon :: after)
    (before : StandsBefore least further tree) (same : left.unplaced = tree.expression) :
    ((all limit).operators least start left c inside).Then fun value d _ =>
      TakesIn least tree.kinds further after value d := by
  have kept (stops : ∀ part ∈ further.head?, part.1.tightness < least) :
      TakesIn least tree.kinds further after left c :=
    ⟨[], further, tree, rfl, before.climbs, before.atLeast, stops, (List.append_nil _).symm, same,
      ahead⟩
  match further with
  | [] =>
      obtain ⟨past, isNext, isLast, _⟩ := next?_of_kinds ahead
      rw [operators, isNext]
      dsimp only
      rw [isLast, if_neg (by simp), operatorPrecedence?_of_kinds ahead]
      exact .ok (kept nofun)
  | (sign, name) :: others =>
      obtain ⟨⟨isOperator, plain⟩, joins⟩ := List.forall_mem_cons.1 joins
      obtain ⟨precedence, isOperator⟩ := Option.isSome_iff_exists.1 isOperator
      obtain rfl : sign.tightness = precedence := by
        rw [Mark.tightness, show sign.precedence? = _ from isOperator, Option.getD_some]
      obtain ⟨past, isNext, isMark, second⟩ := next?_of_kinds ahead
      have noCompound : c.seesCompoundAssignment = false := by
        rw [seesCompoundAssignment, peek?_eq, ahead]
        simp
      rw [operators, isNext]
      dsimp only
      rw [isMark, if_neg (by simp), operatorPrecedence?_of_kinds ahead, isOperator, noCompound]
      dsimp only
      split
      · next stops =>
          refine .ok (kept fun part isPart => ?_)
          obtain rfl : (sign, name) = part := Option.some.inj isPart
          simpa using stops
      · next notStopped =>
          have binds : least ≤ sign.tightness := Nat.le_of_not_lt (not_or.1 notStopped).1
          refine .lax (.go (.bind (.of_gives (gives_noStar second)) fun _ d _ second => .lax ?_))
          have right : ((all limit).binary (sign.tightness + 1) d
              (past.after_lt_of_le ‹_› (Nat.le_of_lt inside))).Then fun value e _ =>
                TakesIn (sign.tightness + 1) [.name name] others after value e := by
            rw [all]
            refine .andThen (.of_gives (gives_operand (staysInRow_type after d) second.2 plain
              ⟨others, joins, rfl⟩)) fun value e less read => ?_
            exact then_operators d _ _ _ others (.operand name) e _ joins read.2
              (standsBefore_operand name) read.1
          refine .andThen right ?_
          rintro value e less ⟨taken, rest, tree', parted, joined⟩
          have fewer : rest.length ≤ others.length := by
            rw [parted, List.length_append]
            omega
          refine (then_operators limit least start _ rest (.node tree sign tree') e _
            (fun part inside => joins part (parted ▸ List.mem_append_right _ inside)) joined.ahead
            (before.node binds joined) ?_).mono fun _ _ => .of_node parted joined.written
          simp only [expressionFrom, Expression.unplaced, ExpressionForm.unplaced, same,
            joined.value, OperatorTree.expression]
termination_by further.length
decreasing_by all_goals simp only [List.length_cons]; omega

/-- A row is read up to its semicolon, as a tree in which operators climb. -/
def ReadsRow (first : String) (further : List (Mark × String)) (after : List Kind)
    (value : Expression) (d : Cursor) : Prop :=
  ∃ tree : OperatorTree, tree.kinds = .name first :: operatorKinds further ∧ tree.Climbs ∧
    value.unplaced = tree.expression ∧ d.kinds = .mark .semicolon :: after

theorem then_binaryFrom {further : List (Mark × String)} {inside}
    (ahead : c.kinds = .name name :: (operatorKinds further ++ .mark .semicolon :: after))
    (plain : PlainName name) (joins : ∀ part ∈ further, Joins part) :
    ((all limit).binaryFrom 1 c inside).Then fun value d _ =>
      ReadsRow name further after value d := by
  refine .andThen (.of_gives (gives_operand (staysInRow_type after limit) ahead plain
    ⟨further, joins, rfl⟩)) fun value d less read => ?_
  refine (then_operators limit 1 _ _ further (.operand name) d _ joins read.2
    (standsBefore_operand name) read.1).mono ?_
  rintro value e ⟨taken, rest, tree, rfl, joined⟩
  cases rest with
  | nil =>
      refine ⟨tree, ?_, joined.climbs, joined.value, joined.ahead⟩
      simp [joined.written, OperatorTree.kinds]
  | cons part others =>
      have isOperator := (joins part (List.mem_append_right _ List.mem_cons_self)).1
      exact absurd (joined.stops part rfl) (Nat.not_lt.2 (Mark.tightness_pos isOperator))

end Rules

/-! ## Whole rows -/

/-- No arrow function starts at a name of a row. -/
theorem Row.startsArrow_eq_false {after rest : List Kind} {name : String} (row : Row after rest)
    {tokens : List Token} (same : tokens.map Token.kind = .name name :: rest) :
    Lookahead.startsArrow tokens = false := by
  obtain ⟨sign, others, rfl, ends⟩ := row.exists_mark
  obtain ⟨⟨kind, span⟩, tokens, rfl, isName, same⟩ := List.map_eq_cons_iff.1 same
  obtain ⟨⟨kind', span'⟩, tokens, rfl, isMark, _⟩ := List.map_eq_cons_iff.1 same
  cases isName
  cases isMark
  revert ends
  cases sign <;> first | exact fun _ => rfl | exact fun ends => absurd ends (by decide)

/-- Where neither an operator nor an equals sign is next, nothing is assigned. -/
theorem Rules.gives_assignedValue_none {limit c : Cursor} {rules : Rules limit} {start : Span}
    {target : Expression} {inside}
    (other : ∀ kind ∈ c.kinds.head?, kind.precedence? = none ∧ kind ≠ .mark .eq) :
    (rules.assignedValue start target c inside).Gives (· = target) c.kinds := by
  have unread : (c.optional fun _ => c.seesCompoundAssignment).Gives (· = false) c.kinds := by
    have none : (c.nextIf? fun _ => c.seesCompoundAssignment) = none := by
      cases isKinds : c.kinds with
      | nil => exact nextIf?_of_ended isKinds _
      | cons kind rest =>
          refine nextIf?_eq_none isKinds ?_
          rw [seesCompoundAssignment, kind?_of_kinds isKinds, Option.bind_some,
            (other kind (by simp [isKinds])).1]
          exact Bool.and_false _
    rw [Cursor.optional, none]
    exact .ok rfl rfl
  refine unread.bind fun _ d _ _ left => ?_
  have noSign : d.mark? .eq = none := by
    cases isKinds : c.kinds with
    | nil => exact nextIf?_of_ended (left.trans isKinds) _
    | cons kind rest =>
        exact mark?_eq_none (left.trans isKinds) (other kind (by simp [isKinds])).2
  rw [noSign]
  exact .ok rfl left

/-- **A row of names with operators between them, up to a semicolon, is read as the one tree in
which every operator has on its left operators that bind at least as tightly and on its right
operators that bind tighter; the semicolon is next.** -/
theorem Cursor.assignment_row {c : Cursor} {first : String} {further : List (Mark × String)}
    {after : List Kind}
    (ahead : c.kinds = .name first :: (operatorKinds further ++ .mark .semicolon :: after))
    (plain : ∀ name ∈ first :: further.map Prod.snd, name ∉ ["async", "await", "delete"])
    (operators : ∀ sign ∈ further.map Prod.fst, sign.precedence?.isSome = true) :
    ∃ tree : OperatorTree, tree.kinds = .name first :: operatorKinds further ∧ tree.Climbs ∧
      (∀ other : OperatorTree, other.kinds = tree.kinds → other.Climbs → other = tree) ∧
      ∃ value, c.assignment.result = .ok value ∧ value.unplaced = tree.expression ∧
        c.assignment.rest.kinds = .mark .semicolon :: after := by
  obtain ⟨isPlain, plain⟩ := List.forall_mem_cons.1 plain
  have joins : ∀ part ∈ further, Joins part := fun part inside =>
    ⟨operators _ (List.mem_map_of_mem inside), plain _ (List.mem_map_of_mem inside)⟩
  have row : Row after (operatorKinds further ++ .mark .semicolon :: after) := ⟨further, joins, rfl⟩
  have noAsync : c.name? "async" = none := by
    refine name?_eq_none ahead ?_
    rintro ⟨⟩
    exact absurd isPlain (by decide)
  have read : c.assignment.Then fun value d _ => Rules.ReadsRow first further after value d := by
    rw [assignment, Rules.assignmentFrom, noAsync]
    dsimp only
    rw [row.startsArrow_eq_false ahead, if_neg Bool.false_ne_true]
    have conditional : ((Rules.all c).conditional c c.le_self).Then fun value d _ =>
        Rules.ReadsRow first further after value d := by
      refine .andThen (Rules.then_binaryFrom ahead isPlain joins) ?_
      rintro test d less read
      have ⟨_, _, _, _, left⟩ := read
      rw [mark?_eq_none left (by simp)]
      exact .ok read
    refine .andThen conditional ?_
    rintro target d less ⟨tree, written, climbs, same, left⟩
    refine (Then.of_gives (Rules.gives_assignedValue_none (by simp [left, Kind.precedence?,
      Mark.precedence?]))).mono ?_
    rintro _ e ⟨rfl, ahead⟩
    exact ⟨tree, written, climbs, same, ahead.trans left⟩
  obtain ⟨value, succeeded, tree, written, climbs, same, left⟩ := read
  exact ⟨tree, written, climbs, fun other written' climbs' => climbs'.eq climbs written', value,
    succeeded, same, left⟩

/-- The tokens `a < b > c + d * e - f;`. -/
def comparedSums : Cursor :=
  .start
    (([.name "a", .mark .lt, .name "b", .mark .gt, .name "c", .mark .plus, .name "d", .mark .star,
      .name "e", .mark .minus, .name "f", .mark .semicolon] : List Kind).map (⟨·, .origin⟩)) .origin

/-- The row `a < b > c + d * e - f` is read as `(a < b) > ((c + (d * e)) - f)`, although `< b >`
could be type arguments. -/
theorem Cursor.assignment_row_comparedSums :
    let tree : OperatorTree :=
      .node (.node (.operand "a") .lt (.operand "b")) .gt
        (.node (.node (.operand "c") .plus (.node (.operand "d") .star (.operand "e"))) .minus
          (.operand "f"))
    ∃ value, comparedSums.assignment.result = .ok value ∧ value.unplaced = tree.expression ∧
      comparedSums.assignment.rest.kinds = [.mark .semicolon] := by
  intro tree
  have climbs : tree.Climbs := by
    simp [tree, OperatorTree.Climbs, OperatorTree.atLeast_node, OperatorTree.atLeast_operand,
      Mark.tightness, Mark.precedence?]
  obtain ⟨read, written, climbs', _, found⟩ :=
    @assignment_row comparedSums "a"
      [(.lt, "b"), (.gt, "c"), (.plus, "d"), (.star, "e"), (.minus, "f")] []
      (by decide) (by decide) (by decide)
  rw [climbs'.eq climbs (written.trans (by decide))] at found
  exact found

end InjectionCheck
