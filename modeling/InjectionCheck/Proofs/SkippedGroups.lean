import InjectionCheck.Proofs.AppendedTokens
import Mathlib.Order.Bounds.Defs

/-!
# Passing groups and looking for their ends

The rule that passes a group keeps the brackets that are open, and the search for the end of a
group only counts them. They agree wherever the rule succeeds: it stops behind the shortest
part of the tokens that is well nested, and the search ends at the last token of it. Where there
is no such part, the rule stops at the first token that closes another bracket than the innermost
open one, or at the end. The same holds of groups in angle brackets as long as the bracketed
groups inside are well nested (`Cursor.skips_agree`).

What is passed while brackets are open is told by `Leaves`: a part of the tokens, and the brackets
that it leaves open.
-/

set_option autoImplicit false

namespace InjectionCheck

theorem Kind.eq_of_opens? {kind : Kind} {bracket : Bracket} (opens : kind.opens? = some bracket) :
    kind = .mark bracket.opening := by
  cases kind with
  | mark sign => cases sign <;> cases opens <;> rfl
  | _ => cases opens

/-- Two parts that are well nested are so one after the other. -/
theorem Nested.append {first second : List Token} (nested : Nested first)
    (nested' : Nested second) : Nested (first ++ second) := by
  induction nested with
  | nil => exact nested'
  | token opens closes _ ih => exact .token opens closes ih
  | group opens closes inside _ _ ih =>
      rw [List.cons_append, List.append_assoc, List.cons_append]
      exact .group opens closes inside ih

/-! ## Brackets that are left open -/

/-- Tokens with the brackets that they leave open, the innermost one first. -/
inductive Leaves : List Token → List Bracket → Prop where
  | nested {inner : List Token} (nested : Nested inner) : Leaves inner []
  | opening {front inner : List Token} {opening : Token} {brackets : List Bracket}
    {bracket : Bracket} (leaves : Leaves front brackets)
    (opens : opening.kind.opens? = some bracket) (inside : Nested inner) :
    Leaves (front ++ opening :: inner) (bracket :: brackets)

namespace Leaves

variable {front more : List Token} {token : Token} {bracket : Bracket} {brackets : List Bracket}

/-- What is well nested leaves the same brackets open. -/
theorem append (leaves : Leaves front brackets) (nested : Nested more) :
    Leaves (front ++ more) brackets := by
  cases leaves with
  | nested inner => exact .nested (inner.append nested)
  | opening leaves opens inside =>
      rw [List.append_assoc, List.cons_append]
      exact .opening leaves opens (inside.append nested)

theorem plain (leaves : Leaves front brackets) (opens : token.kind.opens? = none)
    (closes : token.kind.closes? = none) : Leaves (front ++ [token]) brackets :=
  leaves.append (.token opens closes .nil)

theorem opened (leaves : Leaves front brackets) (opens : token.kind.opens? = some bracket) :
    Leaves (front ++ [token]) (bracket :: brackets) :=
  .opening leaves opens .nil

/-- The innermost bracket is closed. -/
theorem closed (leaves : Leaves front (bracket :: brackets))
    (closes : token.kind.closes? = some bracket) : Leaves (front ++ [token]) brackets := by
  cases leaves with
  | opening leaves opens inside =>
      rw [List.append_assoc, List.cons_append]
      exact leaves.append (.group opens closes inside .nil)

end Leaves

/-- The first token closes another bracket than the innermost open one. -/
def Mismatch (brackets : List Bracket) (tokens : List Token) : Prop :=
  ∃ token bracket innermost, tokens.head? = some token ∧ token.kind.closes? = some bracket ∧
    brackets.head? = some innermost ∧ bracket ≠ innermost

namespace Cursor

/-- What is passed while a bracket is open keeps it open, below those that it leaves open. -/
theorem closeAll_leaves {front : List Token} {brackets : List Bracket}
    (leaves : Leaves front brackets) (opening : Opening) (outer innermost : Bracket)
    (others : List Bracket) (behind rest : List Token) (stop : Span) :
    (closeAll opening outer (innermost :: others) ⟨behind, front ++ rest, stop⟩).stopped =
      (closeAll opening outer (brackets ++ innermost :: others)
        ⟨front.reverse ++ behind, rest, stop⟩).stopped := by
  induction leaves generalizing rest with
  | nested nested => exact closeAll_nested nested opening outer innermost others behind rest stop
  | @opening front inner first brackets bracket leaves opens inside ih =>
      obtain ⟨above, below, isStack⟩ :=
        List.exists_cons_of_ne_nil (l := brackets ++ innermost :: others) (by simp)
      have passed : (front ++ first :: inner).reverse ++ behind =
          inner.reverse ++ first :: (front.reverse ++ behind) := by simp
      rw [List.append_assoc, ih, passed, isStack, List.cons_append,
        closeAll_opening _ _ _ _ _ _ _ opens, closeAll_nested inside, List.cons_append, isStack]

/-- At a token that closes another bracket than the innermost open one the rule fails. -/
theorem closeAll_mismatch {brackets : List Bracket} {tokens : List Token}
    (mismatch : Mismatch brackets tokens) (opening : Opening) (outer : Bracket)
    (others : List Bracket) (behind : List Token) (stop : Span) :
    (closeAll opening outer (brackets ++ others) ⟨behind, tokens, stop⟩).rest =
      ⟨behind, tokens, stop⟩ := by
  obtain ⟨token, bracket, innermost, isFirst, closes, isInnermost, other⟩ := mismatch
  obtain ⟨rest, rfl⟩ := List.head?_eq_some_iff.1 isFirst
  obtain ⟨below, rfl⟩ := List.head?_eq_some_iff.1 isInnermost
  rw [List.cons_append, closeAll.eq_def]
  simp only [next?, Kind.opens?_eq_none_of_closes closes, closes, if_neg other]
  rfl

end Cursor

/-- Nothing that leaves brackets open goes on with a token that closes another bracket than the
innermost one. -/
theorem Leaves.not_append {front more : List Token} {brackets brackets' : List Bracket}
    (leaves : Leaves front brackets) (mismatch : Mismatch brackets more) :
    ¬Leaves (front ++ more) brackets' := by
  intro leaves'
  -- Below another bracket the rule passes either part, and stops in front of the token.
  have early := Cursor.closeAll_leaves leaves ⟨.lparen, .origin⟩ .paren .paren [] [] more .origin
  have late := Cursor.closeAll_leaves leaves' ⟨.lparen, .origin⟩ .paren .paren [] [] [] .origin
  have stops := Cursor.closeAll_mismatch mismatch ⟨.lparen, .origin⟩ .paren [.paren]
    (front.reverse ++ []) .origin
  rw [List.append_nil] at late
  have same : Stopped.rest (Outcome.stopped _) = Stopped.rest (Outcome.stopped _) :=
    congrArg Stopped.rest (early.symm.trans late)
  obtain ⟨token, -, -, isFirst, -⟩ := mismatch
  obtain ⟨rest, rfl⟩ := List.head?_eq_some_iff.1 isFirst
  have reaches := (Cursor.closeAll ⟨.lparen, .origin⟩ .paren (brackets' ++ [.paren])
    ⟨(front ++ token :: rest).reverse ++ [], [], .origin⟩).reaches.remaining_le
  have fewer : (token :: rest).length ≤ 0 := by
    refine Nat.le_trans (Nat.le_of_eq ?_) reaches
    exact congrArg Cursor.remaining (stops.symm.trans same)
  exact absurd fewer (Nat.not_succ_le_zero _)

namespace Cursor

/-- Where the rule fails, some brackets are open, and the end is reached or a token closes another
bracket than the innermost one. -/
theorem exists_leaves_of_closeAll {opening : Opening} {outer innermost : Bracket}
    {others : List Bracket} {front tokens : List Token} (behind : List Token) {stop : Span}
    (leaves : Leaves front (innermost :: others))
    (failed : (closeAll opening outer (innermost :: others)
      ⟨front.reverse ++ behind, tokens, stop⟩).result ≠ .ok ()) :
    ∃ more rest brackets, tokens = more ++ rest ∧ Leaves (front ++ more) brackets ∧
      (closeAll opening outer (innermost :: others)
        ⟨front.reverse ++ behind, tokens, stop⟩).rest =
          ⟨more.reverse ++ (front.reverse ++ behind), rest, stop⟩ ∧
      (rest = [] ∨ Mismatch brackets rest) := by
  match tokens with
  | [] =>
      refine ⟨[], [], _, rfl, by rwa [List.append_nil], ?_, .inl rfl⟩
      rw [closeAll.eq_def]
      rfl
  | token :: rest =>
      -- The rule goes on behind the token, with other brackets open.
      have further {innermost' : Bracket} {others' : List Bracket}
          (leaves' : Leaves (front ++ [token]) (innermost' :: others'))
          (step : (closeAll opening outer (innermost :: others)
              ⟨front.reverse ++ behind, token :: rest, stop⟩).stopped =
            (closeAll opening outer (innermost' :: others')
              ⟨token :: (front.reverse ++ behind), rest, stop⟩).stopped) :
          ∃ more rest' brackets, token :: rest = more ++ rest' ∧ Leaves (front ++ more) brackets ∧
            (closeAll opening outer (innermost :: others)
              ⟨front.reverse ++ behind, token :: rest, stop⟩).rest =
                ⟨more.reverse ++ (front.reverse ++ behind), rest', stop⟩ ∧
            (rest' = [] ∨ Mismatch brackets rest') := by
        have isBehind : token :: (front.reverse ++ behind) =
            (front ++ [token]).reverse ++ behind := by
          simp
        have failed' := fun succeeded => failed ((congrArg Stopped.result step).trans succeeded)
        rw [isBehind] at step failed'
        obtain ⟨more, rest', brackets, rfl, leaves'', stops, ends⟩ :=
          exists_leaves_of_closeAll behind leaves' failed'
        refine ⟨token :: more, rest', brackets, rfl, ?_, ?_, ends⟩
        · rwa [List.append_assoc] at leaves''
        · refine (congrArg Stopped.rest step).trans (stops.trans ?_)
          simp
      cases opens : token.kind.opens? with
      | some bracket => exact further (leaves.opened opens) (closeAll_opening _ _ _ _ _ _ _ opens)
      | none =>
          cases closes : token.kind.closes? with
          | none =>
              exact further (leaves.plain opens closes) (closeAll_other _ _ _ _ _ _ _ opens closes)
          | some bracket =>
              by_cases same : bracket = innermost
              · subst same
                have step := closeAll_closing opening outer bracket others
                  (front.reverse ++ behind) rest stop closes
                cases others with
                | nil =>
                    refine absurd ((congrArg Stopped.result step).trans ?_) failed
                    unfold closeAll
                    rfl
                | cons innermost others => exact further (leaves.closed closes) step
              · have mismatch : Mismatch (innermost :: others) (token :: rest) :=
                  ⟨token, bracket, innermost, rfl, closes, rfl, same⟩
                have stops := closeAll_mismatch mismatch opening outer [] (front.reverse ++ behind)
                  stop
                rw [List.append_nil] at stops
                exact ⟨[], token :: rest, _, rfl, by rwa [List.append_nil], stops, .inr mismatch⟩
termination_by tokens.length

end Cursor

/-! ## Positions -/

/-- The tokens from one position to another one behind it are well nested. -/
def NestedBetween (tokens : List Token) (p q : Nat) : Prop :=
  p < q ∧ q ≤ tokens.length ∧ Nested (tokens.extract p q)

/-- At a position behind another one stands a token that closes another bracket than the
innermost one that is open since then. -/
def MismatchAt (tokens : List Token) (p r : Nat) : Prop :=
  p ≤ r ∧ ∃ brackets, Leaves (tokens.extract p r) brackets ∧ Mismatch brackets (tokens.drop r)

section Positions

variable {tokens inner rest : List Token} {p q : Nat} {opening closing : Token} {bracket : Bracket}

theorem length_of_drop (ahead : tokens.drop p = rest) (notEnd : rest ≠ []) :
    tokens.length = p + rest.length := by
  subst ahead
  have inside : p < tokens.length :=
    Nat.lt_of_not_le fun outside => notEnd (List.drop_eq_nil_of_le outside)
  rw [List.length_drop]
  omega

theorem extract_of_drop (ahead : tokens.drop p = rest) (count : Nat) :
    tokens.extract p (p + count) = rest.take count := by
  subst ahead
  rw [List.extract_eq_take_drop, Nat.add_sub_cancel_left]

theorem extract_append {r : Nat} (front : p ≤ q) (back : q ≤ r) :
    tokens.extract p q ++ tokens.extract q r = tokens.extract p r := by
  obtain ⟨count, rfl⟩ := Nat.exists_eq_add_of_le front
  obtain ⟨more, rfl⟩ := Nat.exists_eq_add_of_le back
  rw [extract_of_drop rfl, extract_of_drop rfl, Nat.add_assoc, extract_of_drop rfl, List.take_add,
    List.drop_drop]

/-- A token that closes another bracket is the first one of every part that starts with it. -/
theorem Mismatch.extract {brackets : List Bracket} (mismatch : Mismatch brackets (tokens.drop p))
    (less : p < q) : Mismatch brackets (tokens.extract p q) := by
  obtain ⟨token, bracket, innermost, isFirst, others⟩ := mismatch
  refine ⟨token, bracket, innermost, ?_, others⟩
  rw [List.extract_eq_take_drop, List.head?_take, if_neg (by omega), isFirst]

/-- A group is well nested. -/
theorem nestedBetween_of_group (ahead : tokens.drop p = opening :: (inner ++ closing :: rest))
    (opens : opening.kind.opens? = some bracket) (closes : closing.kind.closes? = some bracket)
    (nested : Nested inner) : NestedBetween tokens p (p + inner.length + 2) := by
  have whole := length_of_drop ahead (List.cons_ne_nil _ _)
  refine ⟨by omega, ?_, ?_⟩
  · simp only [List.length_cons, List.length_append] at whole
    omega
  · rw [Nat.add_assoc, extract_of_drop ahead]
    have isGroup : (opening :: (inner ++ closing :: rest)).take (inner.length + 2) =
        opening :: (inner ++ closing :: []) := by
      rw [List.take_succ_cons, List.take_length_add_append]
      rfl
    rw [isGroup]
    exact .group opens closes nested .nil

/-- What is well nested and starts with a bracket starts with a group. -/
theorem exists_group_of_nestedBetween (ahead : tokens.drop p = opening :: rest)
    (opens : opening.kind.opens? = some bracket) (nested : NestedBetween tokens p q) :
    ∃ inner closing rest', Nested inner ∧ closing.kind.closes? = some bracket ∧
      rest = inner ++ closing :: rest' ∧ p + inner.length + 2 ≤ q := by
  obtain ⟨less, within, nested⟩ := nested
  obtain ⟨count, rfl⟩ := Nat.exists_eq_add_of_lt less
  rw [Nat.add_assoc, extract_of_drop ahead, List.take_succ_cons] at nested
  obtain ⟨inner, closing, others, inside, closes, isRest⟩ :=
    nested.exists_group opens (List.suffix_refl _)
  refine ⟨inner, closing, others ++ rest.drop count, inside, closes, ?_, ?_⟩
  · rw [← List.cons_append, ← List.append_assoc, ← isRest, List.take_append_drop]
  · have fits := (List.length_take_le count rest)
    rw [isRest, List.length_append, List.length_cons] at fits
    omega

end Positions

/-- The search for a closing angle bracket passes a group as a whole. -/
theorem Lookahead.angleCloseIndex?_go_group {opening closing : Token} {bracket : Bracket}
    {inner rest : List Token} {depth passed : Nat} (opens : opening.kind.opens? = some bracket)
    (closes : closing.kind.closes? = some bracket) (nested : Nested inner) :
    angleCloseIndex?.go (opening :: (inner ++ closing :: rest)) (depth + 1) passed =
      angleCloseIndex?.go rest (depth + 1) (passed + (inner.length + 2)) := by
  have isRest : (inner ++ closing :: rest).drop (inner.length + 1) = rest := by simp
  rw [angleCloseIndex?.go.eq_def]
  dsimp only
  rw [closeIndex?_group opens closes nested, Kind.eq_of_opens? opens]
  cases bracket
  all_goals
    dsimp only [Bracket.opening]
    rw [isRest]
    rfl

/-- The search does not end at a token that opens a bracket. -/
theorem Lookahead.lt_of_angleCloseIndex?_go {opening : Token} {bracket : Bracket}
    {rest : List Token} {depth passed index : Nat} (opens : opening.kind.opens? = some bracket)
    (found : angleCloseIndex?.go (opening :: rest) depth passed = some index) : passed < index := by
  obtain ⟨atLeast, closing, isAngle, isLast⟩ := drop_of_angleCloseIndex?_go found
  refine Nat.lt_of_le_of_ne atLeast fun same => ?_
  rw [same, Nat.sub_self, List.drop_zero] at isLast
  rw [← (List.cons.inj isLast).1, isAngle] at opens
  cases opens

namespace Cursor

variable {tokens : List Token} (stop : Span) {p : Nat}

theorem start_moveTo (tokens : List Token) (stop : Span) (p : Nat) :
    (start tokens stop).moveTo p = ⟨(tokens.take p).reverse, tokens.drop p, stop⟩ := rfl

/-- The rule passes a group, and the search for its end ends at its last token. -/
theorem skipGroup_of_group {opening closing : Token} {inner rest : List Token} {bracket : Bracket}
    (ahead : tokens.drop p = opening :: (inner ++ closing :: rest))
    (opens : opening.kind.opens? = some bracket) (closes : closing.kind.closes? = some bracket)
    (nested : Nested inner) :
    (∃ span, ((start tokens stop).moveTo p).skipGroup.result = .ok span) ∧
      ((start tokens stop).moveTo p).skipGroup.rest.position = p + inner.length + 2 ∧
      Lookahead.closeIndex? (tokens.drop p) = some (inner.length + 1) := by
  have whole := length_of_drop ahead (List.cons_ne_nil _ _)
  rw [start_moveTo, ahead]
  obtain ⟨span, stopped⟩ := skipGroup_group opens closes nested (tokens.take p).reverse rest stop
  refine ⟨⟨span, congrArg Stopped.result stopped⟩, ?_,
    Lookahead.closeIndex?_group opens closes nested rest⟩
  rw [Outcome.rest_of_stopped stopped]
  simp [position]
  omega

section Opening

variable {opening : Token} {rest : List Token} {bracket : Bracket}
  (ahead : tokens.drop p = opening :: rest) (opens : opening.kind.opens? = some bracket)

include ahead opens

/-- The rule passes the shortest part that is well nested. -/
theorem skipGroup_of_isLeast {q : Nat} (least : IsLeast {q | NestedBetween tokens p q} q) :
    (∃ span, ((start tokens stop).moveTo p).skipGroup.result = .ok span) ∧
      ((start tokens stop).moveTo p).skipGroup.rest.position = q ∧
      (Lookahead.closeIndex? (tokens.drop p)).map (p + ·) = some (q - 1) := by
  obtain ⟨inner, closing, rest', nested, closes, rfl, within⟩ :=
    exists_group_of_nestedBetween ahead opens least.1
  obtain ⟨succeeds, position, index⟩ := skipGroup_of_group stop ahead opens closes nested
  have isEnd : q = p + inner.length + 2 :=
    Nat.le_antisymm (least.2 (nestedBetween_of_group ahead opens closes nested)) within
  refine ⟨succeeds, position.trans isEnd.symm, ?_⟩
  rw [index, isEnd]
  rfl

/-- What the rule passes is the shortest part that is well nested. -/
theorem isLeast_of_skipGroup {span : Span}
    (succeeds : ((start tokens stop).moveTo p).skipGroup.result = .ok span) :
    IsLeast {q | NestedBetween tokens p q}
      ((start tokens stop).moveTo p).skipGroup.rest.position := by
  have stopped : ((start tokens stop).moveTo p).skipGroup.stopped =
      ⟨.ok span, ((start tokens stop).moveTo p).skipGroup.rest⟩ := by
    rw [← succeeds]
    rfl
  have isGroup := stopped
  rw [start_moveTo, ahead] at isGroup
  obtain ⟨inner, closing, nested, closes, isRest⟩ := group_of_skipGroup opens isGroup
  rw [isRest] at ahead
  obtain ⟨-, position, -⟩ := skipGroup_of_group stop ahead opens closes nested
  rw [position]
  refine ⟨nestedBetween_of_group ahead opens closes nested, fun q nested' => ?_⟩
  -- Every other part starts with a group, too, and the rule stops behind it.
  obtain ⟨inner', closing', rest', nested', closes', isRest', within⟩ :=
    exists_group_of_nestedBetween ahead opens nested'
  rw [isRest'] at ahead
  obtain ⟨-, position', -⟩ := skipGroup_of_group stop ahead opens closes' nested'
  omega

/-- **The rule that passes a group succeeds behind the shortest part that is well nested.** -/
theorem skipGroup_iff (q : Nat) :
    (∃ span, ((start tokens stop).moveTo p).skipGroup.result = .ok span) ∧
        ((start tokens stop).moveTo p).skipGroup.rest.position = q ↔
      IsLeast {q | NestedBetween tokens p q} q := by
  refine ⟨?_, fun least => ?_⟩
  · rintro ⟨⟨span, succeeds⟩, rfl⟩
    exact isLeast_of_skipGroup stop ahead opens succeeds
  · obtain ⟨succeeds, position, -⟩ := skipGroup_of_isLeast stop ahead opens least
    exact ⟨succeeds, position⟩

/-- **Where the rule fails, it stops at the first token that closes another bracket than the
innermost open one, or at the end.** -/
theorem isLeast_of_skipGroup_fails
    (fails : ∀ span, ((start tokens stop).moveTo p).skipGroup.result ≠ .ok span) :
    IsLeast {r | r = tokens.length ∨ MismatchAt tokens p r}
      ((start tokens stop).moveTo p).skipGroup.rest.position := by
  have whole := length_of_drop ahead (List.cons_ne_nil _ _)
  have isCursor : (start tokens stop).moveTo p =
      ⟨(tokens.take p).reverse, opening :: rest, stop⟩ := by
    rw [start_moveTo, ahead]
  rw [isCursor] at fails ⊢
  obtain ⟨closed, isClosed, sameRest, succeeds⟩ :=
    skipGroup_ends opens (tokens.take p).reverse rest stop
  have failed : closed.result ≠ .ok () := fun result => by
    obtain ⟨span, same⟩ := succeeds.2 result
    exact fails span same
  have leaves : Leaves [opening] [bracket] := (Leaves.nested .nil).opened opens
  rw [isClosed] at failed sameRest
  obtain ⟨more, rest', brackets, rfl, leaves', stops, ends⟩ :=
    exists_leaves_of_closeAll (tokens.take p).reverse leaves failed
  have isPosition :
      (skipGroup ⟨(tokens.take p).reverse, opening :: (more ++ rest'), stop⟩).rest.position =
        p + (more.length + 1) := by
    rw [sameRest]
    refine (congrArg position stops).trans ?_
    simp [position]
    omega
  have word : tokens.extract p (p + (more.length + 1)) = [opening] ++ more := by
    rw [extract_of_drop ahead, List.take_succ_cons, List.take_left]
    rfl
  have isRest : tokens.drop (p + (more.length + 1)) = rest' := by
    rw [← List.drop_drop, ahead]
    exact List.drop_left
  rw [isPosition]
  simp only [List.length_cons, List.length_append] at whole
  refine ⟨?_, ?_⟩
  · obtain rfl | mismatch := ends
    · exact .inl (by rw [whole, List.length_nil, Nat.add_zero])
    · refine .inr ⟨Nat.le_add_right _ _, brackets, ?_, ?_⟩
      · rwa [word]
      · rwa [isRest]
  · rintro r (rfl | ⟨behind, brackets', early, mismatch⟩)
    · omega
    · refine Nat.le_of_not_lt fun less => ?_
      have leaves'' : Leaves (tokens.extract p r ++ tokens.extract r (p + (more.length + 1)))
          brackets := by rwa [extract_append behind (Nat.le_of_lt less), word]
      exact early.not_append (mismatch.extract less) leaves''

end Opening

/-! ## Angle brackets -/

section Angles

variable (opening : Opening) (depth : Nat) {token : Token} (behind rest : List Token)

theorem closeAngles_lt (opens : token.kind = .mark .lt) :
    (closeAngles opening (depth + 1) ⟨behind, token :: rest, stop⟩).stopped =
      (closeAngles opening (depth + 2) ⟨token :: behind, rest, stop⟩).stopped := by
  have noBracket : token.kind.opens? = none := by rw [opens]; rfl
  rw [closeAngles.eq_def]
  simp only [next?, noBracket, if_pos opens]
  rfl

theorem closeAngles_gt (closes : token.kind = .mark .gt) :
    (closeAngles opening (depth + 1) ⟨behind, token :: rest, stop⟩).stopped =
      (closeAngles opening depth ⟨token :: behind, rest, stop⟩).stopped := by
  have noBracket : token.kind.opens? = none := by rw [closes]; rfl
  have noAngle : ¬token.kind = .mark .lt := by simp [closes]
  rw [closeAngles.eq_def]
  simp only [next?, noBracket, if_neg noAngle, if_pos closes]
  rfl

theorem closeAngles_other (noBracket : token.kind.opens? = none) (noAngle : token.kind ≠ .mark .lt)
    (noAngle' : token.kind ≠ .mark .gt) :
    (closeAngles opening (depth + 1) ⟨behind, token :: rest, stop⟩).stopped =
      (closeAngles opening (depth + 1) ⟨token :: behind, rest, stop⟩).stopped := by
  rw [closeAngles.eq_def]
  simp only [next?, noBracket, if_neg noAngle, if_neg noAngle']
  rfl

theorem closeAngles_group {closing : Token} {bracket : Bracket} {inner : List Token}
    (opens : token.kind.opens? = some bracket) (closes : closing.kind.closes? = some bracket)
    (nested : Nested inner) :
    (closeAngles opening (depth + 1) ⟨behind, token :: (inner ++ closing :: rest), stop⟩).stopped =
      (closeAngles opening (depth + 1)
        ⟨closing :: (inner.reverse ++ token :: behind), rest, stop⟩).stopped := by
  obtain ⟨span, passed⟩ := restOfGroup_group closes nested token.span (token :: behind) rest stop
  obtain ⟨_, same⟩ := Outcome.stopped_bind passed fun _ d _ => closeAngles opening (depth + 1) d
  rw [closeAngles.eq_def]
  simp only [next?, opens]
  exact same

end Angles

/-- Every bracket that opens from one position up to another one opens a group that is well
nested. -/
def GroupsNested (tokens : List Token) (p q : Nat) : Prop :=
  ∀ j, p ≤ j → j < q → ∀ opening ∈ tokens[j]?, opening.kind.opens?.isSome = true →
    ∃ r, NestedBetween tokens j r

theorem GroupsNested.exists_group {p q : Nat} (groups : GroupsNested tokens p q) (less : p < q)
    {opening : Token} {rest : List Token} {bracket : Bracket}
    (ahead : tokens.drop p = opening :: rest) (opens : opening.kind.opens? = some bracket) :
    ∃ inner closing rest', Nested inner ∧ closing.kind.closes? = some bracket ∧
      rest = inner ++ closing :: rest' := by
  have isNext : tokens[p]? = some opening := by rw [← List.head?_drop, ahead]; rfl
  obtain ⟨r, nested⟩ := groups p (Nat.le_refl p) less opening isNext (by rw [opens]; rfl)
  obtain ⟨inner, closing, rest', inside, closes, isRest, -⟩ :=
    exists_group_of_nestedBetween ahead opens nested
  exact ⟨inner, closing, rest', inside, closes, isRest⟩

/-- A cursor that is moved over some tokens stands behind them. -/
theorem start_moveTo_add (front : List Token) {rest : List Token}
    (ahead : tokens.drop p = front ++ rest) :
    (start tokens stop).moveTo (p + front.length) =
        ⟨front.reverse ++ (tokens.take p).reverse, rest, stop⟩ ∧
      tokens.drop (p + front.length) = rest := by
  have isFront : (tokens.drop p).take front.length = front := by rw [ahead, List.take_left]
  have isRest : (tokens.drop p).drop front.length = rest := by rw [ahead, List.drop_left]
  rw [start_moveTo, List.take_add, isFront, ← List.drop_drop, isRest, List.reverse_append]
  exact ⟨rfl, rfl⟩

theorem start_moveTo_next {token : Token} {rest : List Token}
    (ahead : tokens.drop p = token :: rest) :
    (start tokens stop).moveTo (p + 1) = ⟨token :: (tokens.take p).reverse, rest, stop⟩ ∧
      tokens.drop (p + 1) = rest :=
  start_moveTo_add stop [token] ahead

theorem start_moveTo_group {opening closing : Token} {inner rest : List Token}
    (ahead : tokens.drop p = opening :: (inner ++ closing :: rest)) :
    (start tokens stop).moveTo (p + (inner.length + 2)) =
        ⟨closing :: (inner.reverse ++ opening :: (tokens.take p).reverse), rest, stop⟩ ∧
      tokens.drop (p + (inner.length + 2)) = rest := by
  have front : tokens.drop p = opening :: (inner ++ [closing]) ++ rest := by
    rw [ahead, List.cons_append, List.append_assoc]
    rfl
  have moved := start_moveTo_add stop _ front
  have count : (opening :: (inner ++ [closing])).length = inner.length + 2 := by simp
  have isPassed : (opening :: (inner ++ [closing])).reverse ++ (tokens.take p).reverse =
      closing :: (inner.reverse ++ opening :: (tokens.take p).reverse) := by simp
  rwa [isPassed, count] at moved

/-- **The rule closes angle brackets where the search for the last one ends**, if the groups on
the way are well nested. -/
theorem closeAngles_of_angleCloseIndex? {p depth passed index : Nat} {opening : Opening}
    (found : Lookahead.angleCloseIndex?.go (tokens.drop p) (depth + 1) passed = some index)
    (groups : GroupsNested tokens p (p + (index - passed))) :
    (closeAngles opening (depth + 1) ((start tokens stop).moveTo p)).stopped =
      ⟨.ok (), (start tokens stop).moveTo (p + (index + 1 - passed))⟩ := by
  cases ahead : tokens.drop p with
  | nil =>
      rw [ahead, Lookahead.angleCloseIndex?.go] at found
      cases found
  | cons token rest =>
      have inside : p < tokens.length := by
        have whole := length_of_drop ahead (List.cons_ne_nil _ _)
        rw [List.length_cons] at whole
        omega
      have isCursor : (start tokens stop).moveTo p =
          ⟨(tokens.take p).reverse, token :: rest, stop⟩ := by rw [start_moveTo, ahead]
      obtain ⟨past, behind⟩ := start_moveTo_next stop ahead
      -- Both go on behind some tokens that they pass.
      have further {depth' : Nat} (count : Nat) (moves : 0 < count)
          (found : Lookahead.angleCloseIndex?.go (tokens.drop (p + count)) (depth' + 1)
            (passed + count) = some index)
          (step : (closeAngles opening (depth + 1) ((start tokens stop).moveTo p)).stopped =
            (closeAngles opening (depth' + 1) ((start tokens stop).moveTo (p + count))).stopped) :
          (closeAngles opening (depth + 1) ((start tokens stop).moveTo p)).stopped =
            ⟨.ok (), (start tokens stop).moveTo (p + (index + 1 - passed))⟩ := by
        have atLeast := (Lookahead.drop_of_angleCloseIndex?_go found).1
        have groups' : GroupsNested tokens (p + count) (p + count + (index - (passed + count))) :=
          fun j later less => groups j (by omega) (by omega)
        rw [step, closeAngles_of_angleCloseIndex? found groups',
          show p + count + (index + 1 - (passed + count)) = p + (index + 1 - passed) by omega]
      cases opens : token.kind.opens? with
      | some bracket =>
          rw [ahead] at found
          have less := Lookahead.lt_of_angleCloseIndex?_go opens found
          obtain ⟨inner, closing, rest', inside, closes, rfl⟩ :=
            groups.exists_group (by omega) ahead opens
          obtain ⟨past, behind⟩ := start_moveTo_group stop ahead
          rw [Lookahead.angleCloseIndex?_go_group opens closes inside, ← behind] at found
          refine further (inner.length + 2) (Nat.succ_pos _) found ?_
          rw [isCursor, closeAngles_group _ _ _ _ _ opens closes inside, past]
      | none =>
          rw [ahead, Lookahead.angleCloseIndex?.go.eq_def] at found
          dsimp only at found
          split at found
          · next kind =>
            refine further 1 Nat.one_pos (by rwa [behind]) ?_
            rw [isCursor, past, closeAngles_lt _ _ _ _ _ kind]
          · next kind =>
            have step := closeAngles_gt stop opening depth (tokens.take p).reverse rest kind
            rw [← isCursor, ← past] at step
            cases depth with
            | zero =>
                cases found
                rw [step, Nat.add_sub_cancel_left]
                unfold closeAngles
                rfl
            | succ depth => exact further 1 Nat.one_pos (by rwa [behind]) step
          iterate 3
            · next kind =>
              rw [kind] at opens
              cases opens
          · cases found
          · next noLt noGt _ _ _ _ =>
            refine further 1 Nat.one_pos (by rwa [behind]) ?_
            rw [isCursor, past, closeAngles_other _ _ _ _ _ opens noLt noGt]
termination_by tokens.length - p

/-- A group in angle brackets is passed up to the bracket that the search finds. -/
theorem skipAngles_of_angleCloseIndex? {opening : Token} {rest : List Token} {index : Nat}
    (ahead : tokens.drop p = opening :: rest) (opens : opening.kind = .mark .lt)
    (found : Lookahead.angleCloseIndex? (tokens.drop p) = some index)
    (groups : GroupsNested tokens (p + 1) (p + index)) :
    ((start tokens stop).moveTo p).skipAngles.stopped =
      ⟨.ok (), (start tokens stop).moveTo (p + index + 1)⟩ := by
  have isCursor : (start tokens stop).moveTo p =
      ⟨(tokens.take p).reverse, opening :: rest, stop⟩ := by rw [start_moveTo, ahead]
  obtain ⟨past, behind⟩ := start_moveTo_next stop ahead
  have passed : (((start tokens stop).moveTo p).expectMark .lt).stopped =
      ⟨.ok opening, (start tokens stop).moveTo (p + 1)⟩ := by
    have agrees : (Kind.mark .lt).agrees (.mark .lt) = true := by decide
    rw [isCursor, past, expectMark, expect]
    simp only [next?, opens, if_pos agrees]
    rfl
  obtain ⟨_, step⟩ := Outcome.stopped_andThen passed fun opened d _ =>
    closeAngles ⟨.lt, opened.span⟩ 1 d
  have found' : Lookahead.angleCloseIndex?.go (tokens.drop (p + 1)) (0 + 1) 1 = some index := by
    rw [ahead, Lookahead.angleCloseIndex?, Lookahead.angleCloseIndex?.go, opens] at found
    rw [behind]
    exact found
  have atLeast := (Lookahead.drop_of_angleCloseIndex?_go found').1
  have isEnd : p + 1 + (index - 1) = p + index := by omega
  rw [skipAngles, step, closeAngles_of_angleCloseIndex? stop found' (by rwa [isEnd])]
  congr 2
  omega

/-! ## Both -/

/-- **The rules that pass groups and the searches for their ends agree.** A group is passed exactly
up to the end of the shortest part that is well nested, and the search ends at the last token of
it. Otherwise the rule stops at the first token that closes another bracket than the innermost
open one, or at the end. A group in angle brackets is passed up to where the search ends, if all
brackets on the way open groups that are well nested. -/
theorem skips_agree (tokens : List Token) (stop : Span) (p : Nat) :
    let c := (start tokens stop).moveTo p
    (c.kind?.any (·.opens?.isSome) = true →
      (∀ q, (∃ span, c.skipGroup.result = .ok span) ∧ c.skipGroup.rest.position = q ↔
        IsLeast {q | NestedBetween tokens p q} q) ∧
      (∀ q, IsLeast {q | NestedBetween tokens p q} q →
        (Lookahead.closeIndex? c.ahead).map (p + ·) = some (q - 1)) ∧
      ((∀ span, c.skipGroup.result ≠ .ok span) →
        IsLeast {r | r = tokens.length ∨ MismatchAt tokens p r} c.skipGroup.rest.position)) ∧
    (c.seesMark .lt = true →
      ∀ closing, (Lookahead.angleCloseIndex? c.ahead).map (p + ·) = some closing →
        GroupsNested tokens (p + 1) closing →
          c.skipAngles.result = .ok () ∧ c.skipAngles.rest.position = closing + 1) := by
  intro c
  have isKind : c.kind? = (tokens.drop p).head?.map Token.kind := rfl
  have isAhead : c.ahead = tokens.drop p := rfl
  rw [isKind, isAhead]
  refine ⟨fun opens => ?_, fun opens closing found groups => ?_⟩
  · cases ahead : tokens.drop p with
    | nil =>
        rw [ahead] at opens
        cases opens
    | cons opening rest =>
        rw [ahead] at opens
        obtain ⟨bracket, opens⟩ := Option.isSome_iff_exists.1 opens
        rw [← ahead]
        exact ⟨skipGroup_iff stop ahead opens,
          fun q least => (skipGroup_of_isLeast stop ahead opens least).2.2,
          isLeast_of_skipGroup_fails stop ahead opens⟩
  · rw [seesMark, isKind, decide_eq_true_eq] at opens
    cases ahead : tokens.drop p with
    | nil =>
        rw [ahead] at opens
        cases opens
    | cons opening rest =>
        rw [ahead] at opens
        obtain ⟨index, isIndex, rfl⟩ := Option.map_eq_some_iff.1 found
        have stopped := skipAngles_of_angleCloseIndex? stop ahead (Option.some.inj opens) isIndex
          groups
        obtain ⟨-, last, -, isLast⟩ := Lookahead.drop_of_angleCloseIndex?_go isIndex
        have atLast : tokens.drop (p + index) = last :: (tokens.drop p).drop (index + 1) := by
          rw [← List.drop_drop]
          exact isLast.symm
        have whole := length_of_drop atLast (List.cons_ne_nil _ _)
        rw [List.length_cons] at whole
        refine ⟨congrArg Stopped.result stopped, ?_⟩
        refine (congrArg (fun stopped => stopped.rest.position) stopped).trans ?_
        rw [start_moveTo, position, List.length_reverse, List.length_take_of_le (by omega)]

/-- In `([])<()>` the group ends in front of the angle bracket, and the group in angle brackets at
the end. In `(]` the rule stops at the second token. -/
theorem skips_agree_brackets :
    let token (mark : Mark) : Token := ⟨.mark mark, .origin⟩
    let tokens := [.lparen, .lbracket, .rbracket, .rparen, .lt, .lparen, .rparen, .gt].map token
    IsLeast {q | NestedBetween tokens 0 q} 4 ∧
      (Lookahead.closeIndex? tokens).map (0 + ·) = some 3 ∧
      ((start tokens .origin).moveTo 4).skipAngles.rest.position = 8 ∧
      IsLeast {r | r = 2 ∨ MismatchAt ([.lparen, .rbracket].map token) 0 r} 1 := by
  intro token tokens
  have square : Nested [token .lbracket, token .rbracket] :=
    @Nested.group (token .lbracket) (token .rbracket) .square [] [] rfl rfl .nil .nil
  have isGroup : tokens.drop 0 = token .lparen :: ([token .lbracket, token .rbracket] ++
      token .rparen :: [.lt, .lparen, .rparen, .gt].map token) := rfl
  have opens : (token .lparen).kind.opens? = some .paren := rfl
  have closes : (token .rparen).kind.closes? = some .paren := rfl
  obtain ⟨passes, position, -⟩ := skipGroup_of_group .origin isGroup opens closes square
  have whole := ((skips_agree tokens .origin 0).1 rfl).1 4 |>.1 ⟨passes, position⟩
  have groups : GroupsNested tokens (4 + 1) 7 := by
    intro j later less opening isOpening isBracket
    obtain rfl | rfl : j = 5 ∨ j = 6 := by omega
    · have isGroup' : tokens.drop 5 = token .lparen :: ([] ++ token .rparen :: [token .gt]) := rfl
      exact ⟨7, nestedBetween_of_group isGroup' opens closes .nil⟩
    · cases isOpening
      cases isBracket
  have angles := (skips_agree tokens .origin 4).2 rfl 7 (by decide +kernel) groups
  refine ⟨whole, ((skips_agree tokens .origin 0).1 rfl).2.1 4 whole, angles.2, ?_⟩
  obtain ⟨closed, rfl, sameRest, succeeds⟩ := skipGroup_ends opens [] [token .rbracket] .origin
  have mismatch : Mismatch [.paren] [token .rbracket] :=
    ⟨_, .square, .paren, rfl, rfl, rfl, by decide⟩
  have stops := closeAll_mismatch mismatch ⟨.lparen, .origin⟩ .paren [] [token .lparen] .origin
  have fails (span : Span) : (skipGroup ⟨[], [token .lparen, token .rbracket], .origin⟩).result ≠
      .ok span := by
    intro succeeded
    have closed := succeeds.1 ⟨span, succeeded⟩
    rw [closeAll.eq_def] at closed
    cases closed
  have isLeast := ((skips_agree [token .lparen, token .rbracket] .origin 0).1 rfl).2.2 fails
  have isPosition : (skipGroup ⟨[], [token .lparen, token .rbracket], .origin⟩).rest.position = 1 :=
    congrArg Cursor.position (sameRest.trans stops)
  exact isPosition ▸ isLeast

end Cursor

end InjectionCheck
