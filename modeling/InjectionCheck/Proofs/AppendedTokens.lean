import InjectionCheck.Grammar.Expressions
import InjectionCheck.Proofs.NestedGroups

/-!
# Further tokens behind the last one

A rule runs on tokens up to their end, and it runs on the same tokens with further ones behind
them, of which the first one is a closing parenthesis (`Appendix`). If the first run succeeds, so
does the second one, with the same value and at the same place. If the first run fails, the second
one fails or passes some of the further tokens (`Outcome.Extends`).

The rules look ahead without a bound. The brackets of the first tokens are well nested, so that a
search for a bracket ends in both runs at the same place. A search for a closing angle bracket may
end among the further tokens only. So where there is an opening one among the first tokens, no
closing one among the further tokens may lead such a search to its goal
(`Lookahead.ClosesNoAngles`).

Here this is shown of the searches, and of the rules that pass marks, names, words and groups.
-/

set_option autoImplicit false

namespace InjectionCheck

/-! ## Closing angle brackets -/

namespace Lookahead

/-- Behind no closing angle bracket there is what a search goes on for behind it: a parenthesis,
or a return type with an arrow. -/
def ClosesNoAngles : List Token → Prop
  | [] => True
  | token :: rest =>
    (token.kind = .mark .gt →
      kindAt? rest 0 ≠ some (.mark .lparen) ∧ ascriptionThenArrow rest = false) ∧
    ClosesNoAngles rest

instance ClosesNoAngles.decidable : (tokens : List Token) → Decidable (ClosesNoAngles tokens)
  | [] => .isTrue trivial
  | _ :: rest =>
    have := decidable rest
    inferInstanceAs (Decidable (_ ∧ _))

theorem ClosesNoAngles.of_suffix {tokens rest : List Token} {closing : Token}
    (closesNone : ClosesNoAngles tokens) (ends : closing :: rest <:+ tokens)
    (closes : closing.kind = .mark .gt) :
    kindAt? rest 0 ≠ some (.mark .lparen) ∧ ascriptionThenArrow rest = false := by
  induction tokens with
  | nil => cases List.suffix_nil.1 ends
  | cons token tokens ih =>
      obtain same | ends := List.suffix_cons_iff.1 ends
      · obtain ⟨rfl, rfl⟩ := List.cons.inj same
        exact closesNone.1 closes
      · exact ih closesNone.2 ends

/-- A search for a closing bracket ends behind what is well nested. -/
theorem closeIndex?_group {opening closing : Token} {bracket : Bracket} {inner : List Token}
    (opens : opening.kind.opens? = some bracket) (closes : closing.kind.closes? = some bracket)
    (nested : Nested inner) (rest : List Token) :
    closeIndex? (opening :: (inner ++ closing :: rest)) = some (inner.length + 1) := by
  rw [closeIndex?, closeIndex?_go_opening opens, closeIndex?_go_nested nested,
    closeIndex?_go_last closes, Nat.zero_add, Nat.add_comm]

/-- In what is well nested a search for a closing bracket ends, and it ends there whatever is
behind it. -/
theorem exists_closeIndex?_append {front rest : List Token} {opening : Token}
    (nested : Nested front) (inside : opening :: rest <:+ front)
    (opens : opening.kind.opens?.isSome = true) :
    ∃ index ≤ rest.length, closeIndex? (opening :: rest) = some index ∧
      ∀ tail, closeIndex? (opening :: (rest ++ tail)) = some index := by
  obtain ⟨bracket, opens⟩ := Option.isSome_iff_exists.1 opens
  obtain ⟨inner, closing, others, group, closes, rfl⟩ := nested.exists_group opens inside
  refine ⟨inner.length + 1, by simp, closeIndex?_group opens closes group others, fun tail => ?_⟩
  rw [List.append_assoc, List.cons_append]
  exact closeIndex?_group opens closes group _

/-- A search for a closing angle bracket, which has passed some tokens before, ends at one. -/
theorem drop_of_angleCloseIndex?_go {tokens : List Token} {depth passed index : Nat}
    (found : angleCloseIndex?.go tokens depth passed = some index) :
    passed ≤ index ∧ ∃ closing, closing.kind = .mark .gt ∧
      closing :: tokens.drop (index + 1 - passed) = tokens.drop (index - passed) := by
  rw [angleCloseIndex?.go.eq_def] at found
  cases tokens with
  | nil => cases found
  | cons token rest =>
      dsimp only at found
      have further {depth count : Nat}
          (found : angleCloseIndex?.go (rest.drop count) depth (passed + count + 1) = some index) :
          passed ≤ index ∧ ∃ closing : Token, closing.kind = .mark .gt ∧
            closing :: (token :: rest).drop (index + 1 - passed) =
              (token :: rest).drop (index - passed) := by
        obtain ⟨atLeast, closing, closes, same⟩ := drop_of_angleCloseIndex?_go found
        refine ⟨by omega, closing, closes, ?_⟩
        rw [List.drop_drop, List.drop_drop] at same
        rwa [show index + 1 - passed = count + (index + 1 - (passed + count + 1)) + 1 by omega,
          show index - passed = count + (index - (passed + count + 1)) + 1 by omega,
          List.drop_succ_cons, List.drop_succ_cons]
      have here (closes : token.kind = .mark .gt) (found : some passed = some index) :
          passed ≤ index ∧ ∃ closing : Token, closing.kind = .mark .gt ∧
            closing :: (token :: rest).drop (index + 1 - passed) =
              (token :: rest).drop (index - passed) := by
        cases found
        refine ⟨Nat.le_refl _, token, closes, ?_⟩
        rw [Nat.add_sub_cancel_left, Nat.sub_self, List.drop_succ_cons, List.drop_zero,
          List.drop_zero]
      split at found
      · exact @further _ 0 found
      · next closes =>
          split at found
          · exact here closes found
          · exact here closes found
          · exact @further _ 0 found
      iterate 3
        · split at found
          · exact further found
          · cases found
      · cases found
      · exact @further _ 0 found
termination_by tokens.length
decreasing_by simp_all only [List.length_cons, List.length_drop]; omega

/-- A search for a closing angle bracket, which has passed some tokens before, ends among these
tokens whatever is behind them, or it does not end among them. Then it ends, if at all, at a
closing angle bracket behind them. -/
inductive Ends (passed : Nat) (tokens tail : List Token) : Option Nat → Option Nat → Prop where
  | among {index : Nat} (atLeast : passed ≤ index) (less : index < passed + tokens.length) :
      Ends passed tokens tail (some index) (some index)
  | never : Ends passed tokens tail none none
  | behind {index : Nat} {closing : Token} (atLeast : passed ≤ index)
      (closes : closing.kind = .mark .gt)
      (ends : closing :: (tokens ++ tail).drop (index + 1 - passed) <:+ tail) :
      Ends passed tokens tail none (some index)

theorem Ends.of_drop {passed : Nat} {tokens tail : List Token} {result result' : Option Nat}
    (count : Nat) (atMost : count ≤ tokens.length)
    (ends : Ends (passed + count) (tokens.drop count) tail result result') :
    Ends passed tokens tail result result' := by
  cases ends with
  | among atLeast less =>
      rw [List.length_drop] at less
      exact .among (by omega) (by omega)
  | never => exact .never
  | @behind index closing atLeast closes ends =>
      refine .behind (by omega) closes ?_
      rw [← List.drop_append_of_le_length atMost, List.drop_drop] at ends
      rwa [show index + 1 - passed = count + (index + 1 - (passed + count)) by omega]

theorem angleCloseIndex?_go_append {front tokens : List Token} (nested : Nested front)
    (inside : tokens <:+ front) (tail : List Token) (depth passed : Nat) :
    Ends passed tokens tail (angleCloseIndex?.go tokens depth passed)
      (angleCloseIndex?.go (tokens ++ tail) depth passed) := by
  cases tokens with
  | nil =>
      rw [List.nil_append, angleCloseIndex?.go]
      cases found : angleCloseIndex?.go tail depth passed with
      | none => exact .never
      | some index =>
          obtain ⟨atLeast, closing, closes, same⟩ := drop_of_angleCloseIndex?_go found
          refine .behind atLeast closes ?_
          rw [List.nil_append, same]
          exact List.drop_suffix _ _
  | cons token rest =>
      have behind : rest <:+ front := (List.suffix_cons _ _).trans inside
      have further (depth : Nat) : Ends passed (token :: rest) tail
          (angleCloseIndex?.go rest depth (passed + 1))
          (angleCloseIndex?.go (rest ++ tail) depth (passed + 1)) :=
        .of_drop 1 (by simp) (angleCloseIndex?_go_append nested behind tail depth (passed + 1))
      rw [List.cons_append, angleCloseIndex?.go.eq_def, angleCloseIndex?.go.eq_def]
      dsimp only
      split
      · exact further _
      · split
        · exact .among (Nat.le_refl _) (by simp)
        · exact .among (Nat.le_refl _) (by simp)
        · exact further _
      iterate 3
        · next opens =>
          obtain ⟨index, atMost, found, found'⟩ :=
            exists_closeIndex?_append nested inside (by rw [opens]; rfl)
          rw [found, found' tail]
          dsimp only
          rw [List.drop_append_of_le_length atMost]
          exact .of_drop (index + 1) (Nat.succ_le_succ atMost) (angleCloseIndex?_go_append nested
            ((List.drop_suffix _ _).trans behind) tail depth (passed + (index + 1)))
      · exact .never
      · exact further _
termination_by tokens.length
decreasing_by all_goals simp_all only [List.length_cons, List.length_drop]; omega

end Lookahead

/-! ## Tokens and further ones behind them -/

/-- Tokens in which brackets are well nested, and further tokens behind them, of which the first
one is a closing parenthesis. No search for a closing angle bracket starts among the tokens, or
none that ends behind them leads on. -/
structure Appendix where
  front : List Token
  closing : Token
  others : List Token
  nested : Nested front
  closes : closing.kind = .mark .rparen
  settled : (∀ token ∈ front, token.kind ≠ .mark .lt) ∨ Lookahead.ClosesNoAngles others

namespace Appendix

open Lookahead

variable (a : Appendix) {rest : List Token} {opening : Token}

/-- The further tokens. -/
def tail : List Token := a.closing :: a.others

theorem exists_tail : ∃ span, a.tail = ⟨.mark .rparen, span⟩ :: a.others := by
  obtain ⟨front, ⟨kind, span⟩, others, nested, closes, settled⟩ := a
  cases (closes : kind = _)
  exact ⟨span, rfl⟩

/-- A search for a closing angle bracket ends at the same place with the further tokens and
without them, or where it leads nowhere. -/
theorem angleCloseIndex?_cases (inside : opening :: rest <:+ a.front)
    (opens : opening.kind = .mark .lt) :
    (∃ index ≤ rest.length, angleCloseIndex? (opening :: rest) = some index ∧
      angleCloseIndex? (opening :: (rest ++ a.tail)) = some index) ∨
    angleCloseIndex? (opening :: rest) = none ∧
      ∀ index, angleCloseIndex? (opening :: (rest ++ a.tail)) = some index →
        kindAt? ((rest ++ a.tail).drop index) 0 ≠ some (.mark .lparen) ∧
          ascriptionThenArrow ((rest ++ a.tail).drop index) = false := by
  have ends := angleCloseIndex?_go_append a.nested inside a.tail 0 0
  rw [← angleCloseIndex?, List.cons_append, ← angleCloseIndex?] at ends
  generalize angleCloseIndex? (opening :: rest) = index,
    angleCloseIndex? (opening :: (rest ++ a.tail)) = index' at ends
  cases ends with
  | @among index _ less =>
      refine .inl ⟨index, ?_, rfl, rfl⟩
      rw [List.length_cons] at less
      omega
  | never => exact .inr ⟨rfl, nofun⟩
  | @behind index closing _ closes ends =>
      refine .inr ⟨rfl, ?_⟩
      rintro _ ⟨⟩
      have others : closing :: (rest ++ a.tail).drop index <:+ a.others := by
        obtain same | ends := List.suffix_cons_iff.1 ends
        · rw [(List.cons.inj same).1, a.closes] at closes
          cases closes
        · exact ends
      obtain noOpening | closesNone := a.settled
      · exact absurd opens (noOpening _ (inside.subset List.mem_cons_self))
      · exact closesNone.of_suffix others closes

theorem ascriptionThenArrow_append {tokens : List Token} (inside : tokens <:+ a.front) :
    ascriptionThenArrow (tokens ++ a.tail) = ascriptionThenArrow tokens := by
  cases tokens with
  | nil =>
      rw [List.nil_append, tail, ascriptionThenArrow.eq_def, ascriptionThenArrow.eq_def]
      simp only [a.closes]
  | cons token rest =>
      have behind : rest <:+ a.front := (List.suffix_cons _ _).trans inside
      rw [List.cons_append, ascriptionThenArrow, ascriptionThenArrow]
      split
      · rfl
      iterate 3
        · next opens =>
          obtain ⟨index, atMost, found, found'⟩ :=
            exists_closeIndex?_append a.nested inside (by rw [opens]; rfl)
          rw [found, found' a.tail]
          dsimp only
          rw [List.drop_append_of_le_length atMost]
          exact ascriptionThenArrow_append ((List.drop_suffix _ _).trans behind)
      · next opens =>
        obtain ⟨index, atMost, found, found'⟩ | ⟨none, leadsOn⟩ :=
          a.angleCloseIndex?_cases inside opens
        · rw [found, found']
          dsimp only
          rw [List.drop_append_of_le_length atMost]
          exact ascriptionThenArrow_append ((List.drop_suffix _ _).trans behind)
        · rw [none]
          dsimp only
          split
          · next index found => exact (leadsOn index found).2
          · rfl
      iterate 6
        · rfl
      · exact ascriptionThenArrow_append behind
termination_by tokens.length

theorem groupThenArrow_append (inside : opening :: rest <:+ a.front)
    (opens : opening.kind.opens?.isSome = true) :
    groupThenArrow (opening :: (rest ++ a.tail)) = groupThenArrow (opening :: rest) := by
  have behind : rest <:+ a.front := (List.suffix_cons _ _).trans inside
  obtain ⟨index, atMost, found, found'⟩ := exists_closeIndex?_append a.nested inside opens
  rw [groupThenArrow, groupThenArrow, found, found' a.tail]
  dsimp only
  rw [List.drop_succ_cons, List.drop_succ_cons, List.drop_append_of_le_length atMost]
  have left : rest.drop index <:+ a.front := (List.drop_suffix _ _).trans behind
  generalize rest.drop index = more at left
  cases more with
  | nil =>
      obtain ⟨span, isTail⟩ := a.exists_tail
      rw [List.nil_append, isTail]
  | cons token more =>
      obtain ⟨kind, span⟩ := token
      cases kind with
      | mark mark =>
          cases mark <;>
            first | rfl | exact a.ascriptionThenArrow_append ((List.suffix_cons _ _).trans left)
      | _ => rfl

/-- A token other than a closing parenthesis is at a distance in both lists or in none. -/
theorem kindAt?_append {tokens : List Token} {distance : Nat} (atMost : distance ≤ tokens.length)
    {kind : Kind} (other : kind ≠ .mark .rparen) :
    kindAt? (tokens ++ a.tail) distance = some kind ↔ kindAt? tokens distance = some kind := by
  unfold kindAt?
  obtain less | rfl := Nat.lt_or_eq_of_le atMost
  · rw [List.getElem?_append_left less]
  · rw [List.getElem?_append_right (Nat.le_refl _), Nat.sub_self, List.getElem?_eq_none atMost,
      tail, List.getElem?_cons_zero, Option.map_some, a.closes]
    simp [other.symm]

theorem exists_of_kindAt? {tokens : List Token} {distance : Nat} {kind : Kind}
    (isKind : kindAt? tokens distance = some kind) :
    ∃ token rest, tokens.drop distance = token :: rest ∧ token.kind = kind := by
  unfold kindAt? at isKind
  obtain ⟨token, isNext, same⟩ := Option.map_eq_some_iff.1 isKind
  obtain ⟨less, rfl⟩ := List.getElem?_eq_some_iff.1 isNext
  exact ⟨_, _, List.drop_eq_getElem_cons less, same⟩

theorem startsFunctionType_append (inside : opening :: rest <:+ a.front)
    (opens : opening.kind.opens?.isSome = true) :
    startsFunctionType (opening :: (rest ++ a.tail)) = startsFunctionType (opening :: rest) := by
  obtain ⟨index, atMost, found, found'⟩ := exists_closeIndex?_append a.nested inside opens
  rw [startsFunctionType, startsFunctionType, found, found' a.tail]
  have same := @kindAt?_append a (opening :: rest) (index + 1) (Nat.succ_le_succ atMost)
    (.mark .arrow) (by simp)
  exact decide_eq_decide.2 same

/-- The parameters behind a closing angle bracket are looked for among the tokens alone. -/
theorem startsArrow_append_angles {span : Span} (inside : ⟨.mark .lt, span⟩ :: rest <:+ a.front) :
    startsArrow (⟨.mark .lt, span⟩ :: (rest ++ a.tail)) =
      startsArrow (⟨.mark .lt, span⟩ :: rest) := by
  unfold startsArrow
  dsimp only
  obtain ⟨index, atMost, found, found'⟩ | ⟨none, leadsOn⟩ := a.angleCloseIndex?_cases inside rfl
  · rw [found, found']
    dsimp only
    have same := @kindAt?_append a (⟨.mark .lt, span⟩ :: rest) (index + 1)
      (Nat.succ_le_succ atMost) (.mark .lparen) (by simp)
    rw [← List.cons_append, decide_eq_decide.2 same]
    by_cases opens : kindAt? (⟨.mark .lt, span⟩ :: rest) (index + 1) = some (.mark .lparen)
    · obtain ⟨opening, more, isNext, isOpening⟩ := exists_of_kindAt? opens
      have left : opening :: more <:+ a.front := isNext ▸ (List.drop_suffix _ _).trans inside
      rw [List.drop_append_of_le_length (Nat.succ_le_succ atMost), isNext, List.cons_append,
        a.groupThenArrow_append left (by rw [isOpening]; rfl)]
    · rw [decide_eq_false opens, Bool.false_and, Bool.false_and]
  · rw [none]
    dsimp only
    split
    · next index found =>
        have other := (leadsOn index found).1
        rw [kindAt?, List.getElem?_drop, Nat.add_zero] at other
        exact Bool.and_eq_false_imp.2 fun opens => absurd (of_decide_eq_true opens) other
    · rfl

theorem startsArrow_append {tokens : List Token} (inside : tokens <:+ a.front) :
    startsArrow (tokens ++ a.tail) = startsArrow tokens := by
  obtain ⟨span, isTail⟩ := a.exists_tail
  cases tokens with
  | nil =>
      rw [List.nil_append, isTail]
      rfl
  | cons first rest =>
      obtain ⟨kind, span⟩ := first
      cases kind with
      | name text =>
          cases rest with
          | nil =>
              rw [isTail]
              rfl
          | cons second rest =>
              obtain ⟨kind, span⟩ := second
              cases kind with
              | mark mark => cases mark <;> rfl
              | _ => rfl
      | mark mark =>
          cases mark with
          | lparen => exact a.groupThenArrow_append inside rfl
          | lt => exact a.startsArrow_append_angles inside
          | _ => rfl
      | _ => rfl

theorem reachesQuestion_append {tokens : List Token} (inside : tokens <:+ a.front) :
    reachesQuestion (tokens ++ a.tail) = reachesQuestion tokens := by
  cases tokens with
  | nil =>
      rw [List.nil_append, tail, reachesQuestion.eq_def, reachesQuestion.eq_def]
      simp only [a.closes]
  | cons token rest =>
      have behind : rest <:+ a.front := (List.suffix_cons _ _).trans inside
      rw [List.cons_append, reachesQuestion, reachesQuestion]
      split
      · rfl
      iterate 3
        · next opens =>
          obtain ⟨index, atMost, found, found'⟩ :=
            exists_closeIndex?_append a.nested inside (by rw [opens]; rfl)
          rw [found, found' a.tail]
          dsimp only
          rw [List.drop_append_of_le_length atMost]
          exact reachesQuestion_append ((List.drop_suffix _ _).trans behind)
      iterate 7
        · rfl
      · exact reachesQuestion_append behind
termination_by tokens.length

theorem afterSign_append (tokens : List Token) :
    afterSign (tokens ++ a.tail) = afterSign tokens ++ a.tail := by
  cases tokens with
  | nil =>
      obtain ⟨span, isTail⟩ := a.exists_tail
      rw [List.nil_append, isTail]
      rfl
  | cons first rest =>
      obtain ⟨kind, span⟩ := first
      cases kind with
      | mark mark => cases mark <;> rfl
      | _ => rfl

theorem afterReadonly_append (tokens : List Token) :
    afterReadonly (tokens ++ a.tail) = afterReadonly tokens ++ a.tail := by
  cases tokens with
  | nil =>
      obtain ⟨span, isTail⟩ := a.exists_tail
      rw [List.nil_append, isTail]
      rfl
  | cons first rest =>
      obtain ⟨kind, span⟩ := first
      cases kind with
      | name text => by_cases readonly : text = "readonly" <;> simp [afterReadonly, readonly]
      | _ => rfl

theorem startsMappedType_append (opening : Token) (rest : List Token) :
    startsMappedType (opening :: (rest ++ a.tail)) = startsMappedType (opening :: rest) := by
  unfold startsMappedType
  rw [List.drop_succ_cons, List.drop_succ_cons, List.drop_zero, List.drop_zero, afterSign_append,
    afterReadonly_append]
  generalize afterReadonly (afterSign rest) = tokens
  obtain ⟨span, isTail⟩ := a.exists_tail
  rw [isTail]
  match tokens with
  | [] => rfl
  | [⟨kind, _⟩] => by_cases opens : kind = .mark .lbracket <;> simp [opens]
  | [⟨kind, _⟩, ⟨kind', _⟩] => by_cases opens : kind = .mark .lbracket <;> simp [opens]
  | ⟨kind, _⟩ :: ⟨kind', _⟩ :: ⟨kind'', _⟩ :: rest =>
      by_cases opens : kind = .mark .lbracket
      case neg => simp [opens]
      subst opens
      cases kind' with
      | name text => by_cases isIn : kind'' = .name "in" <;> simp [isIn]
      | _ => rfl

end Appendix

end InjectionCheck
