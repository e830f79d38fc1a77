import InjectionCheck.Grammar.Groups

/-!
# Tokens with other contents of braces

In a list of tokens the brackets may be well nested (`Nested`). Two lists may differ in
what stands between some braces, as long as it is well nested on both sides (`Varies`).

The searches through the tokens ahead count brackets and pass groups as a whole. So
they find the same in two such lists: a search ends in both at a place behind which the
rests differ again at most inside braces (`Found`), or it ends in neither.
-/

set_option autoImplicit false

namespace InjectionCheck

/-- What opens a bracket closes none. -/
theorem Kind.opens?_eq_none_of_closes {kind : Kind} {bracket : Bracket}
    (closes : kind.closes? = some bracket) : kind.opens? = none := by
  cases kind with
  | mark sign => cases sign <;> first | rfl | cases closes
  | _ => cases closes

theorem Kind.closes?_eq_none_of_opens {kind : Kind} {bracket : Bracket}
    (opens : kind.opens? = some bracket) : kind.closes? = none := by
  cases kind with
  | mark sign => cases sign <;> first | rfl | cases opens
  | _ => cases opens

/-- A list of tokens in which parentheses, square brackets and braces are well nested. -/
inductive Nested : List Token → Prop where
  | nil : Nested []
  | token {token : Token} {rest : List Token} (opens : token.kind.opens? = none)
    (closes : token.kind.closes? = none) (others : Nested rest) : Nested (token :: rest)
  | group {opening closing : Token} {bracket : Bracket} {inner rest : List Token}
    (opens : opening.kind.opens? = some bracket) (closes : closing.kind.closes? = some bracket)
    (inside : Nested inner) (others : Nested rest) :
    Nested (opening :: (inner ++ closing :: rest))

namespace Nested

/-- The number of brackets that are opened. -/
def opened (tokens : List Token) : Nat := tokens.countP (·.kind.opens?.isSome)

/-- The number of brackets that are closed. -/
def closed (tokens : List Token) : Nat := tokens.countP (·.kind.closes?.isSome)

variable {token : Token} {bracket : Bracket} {tokens others : List Token}

theorem opened_append : opened (tokens ++ others) = opened tokens + opened others :=
  List.countP_append

theorem closed_append : closed (tokens ++ others) = closed tokens + closed others :=
  List.countP_append

theorem counts_opening (tokens : List Token) (opens : token.kind.opens? = some bracket) :
    opened (token :: tokens) = opened tokens + 1 ∧ closed (token :: tokens) = closed tokens := by
  simp [opened, closed, opens, Kind.closes?_eq_none_of_opens opens]

theorem counts_closing (tokens : List Token) (closes : token.kind.closes? = some bracket) :
    opened (token :: tokens) = opened tokens ∧ closed (token :: tokens) = closed tokens + 1 := by
  simp [opened, closed, closes, Kind.opens?_eq_none_of_closes closes]

/-- In what is well nested as many brackets are closed as opened. -/
theorem opened_eq_closed (nested : Nested tokens) : opened tokens = closed tokens := by
  induction nested with
  | nil => rfl
  | @token token rest opens closes _ ih => simpa [opened, closed, opens, closes] using ih
  | @group opening closing bracket inner rest opens closes _ _ ih ih' =>
      have first := counts_opening (inner ++ closing :: rest) opens
      have last := counts_closing rest closes
      rw [opened_append, closed_append] at first
      omega

/-- The end of what is well nested stands behind the first token of it, or is the whole, or stands
in the group in front or behind it. -/
theorem suffix_group_cases {opening closing : Token} {inner rest : List Token}
    (ends : others <:+ opening :: (inner ++ closing :: rest)) :
    others = opening :: (inner ++ closing :: rest) ∨
      (∃ part, part <:+ inner ∧ others = part ++ closing :: rest) ∨ others <:+ rest := by
  obtain whole | ends := List.suffix_cons_iff.1 ends
  · exact .inl whole
  · obtain ⟨passed, isEnd⟩ := ends
    obtain ⟨part, rfl, isRest⟩ | ⟨part, isInner, rfl⟩ := List.append_eq_append_iff.1 isEnd.symm
    · obtain rfl | ends := List.suffix_cons_iff.1 ⟨part, isRest.symm⟩
      · exact .inr (.inl ⟨[], List.nil_suffix, rfl⟩)
      · exact .inr (.inr ends)
    · exact .inr (.inl ⟨part, ⟨passed, isInner.symm⟩, rfl⟩)

/-- At the end of what is well nested at least as many brackets are closed as opened. -/
theorem opened_le_closed (nested : Nested tokens) (ends : others <:+ tokens) :
    opened others ≤ closed others := by
  induction nested generalizing others with
  | nil =>
      cases List.suffix_nil.1 ends
      exact Nat.le_refl _
  | token opens closes further ih =>
      obtain rfl | ends := List.suffix_cons_iff.1 ends
      · exact Nat.le_of_eq (opened_eq_closed (.token opens closes further))
      · exact ih ends
  | @group opening closing bracket inner rest opens closes inside further ih ih' =>
      obtain rfl | ⟨part, isPart, rfl⟩ | ends := suffix_group_cases ends
      · exact Nat.le_of_eq (opened_eq_closed (.group opens closes inside further))
      · have last := counts_closing rest closes
        have same := opened_eq_closed further
        have front := ih isPart
        rw [opened_append, closed_append]
        omega
      · exact ih' ends

/-- What is well nested ends with no bracket that stays open. -/
theorem not_opening_suffix (nested : Nested tokens) (opens : token.kind.opens? = some bracket)
    (inside : opened others = closed others) : ¬token :: others <:+ tokens := fun ends => by
  have atMost := nested.opened_le_closed ends
  have first := counts_opening others opens
  omega

/-- A bracket that opens in what is well nested opens a group. -/
theorem exists_group {opening : Token} (nested : Nested tokens)
    (opens : opening.kind.opens? = some bracket) (ends : opening :: others <:+ tokens) :
    ∃ inner closing rest, Nested inner ∧ closing.kind.closes? = some bracket ∧
      others = inner ++ closing :: rest := by
  induction nested generalizing others with
  | nil => cases List.suffix_nil.1 ends
  | token noOpens closes further ih =>
      obtain same | ends := List.suffix_cons_iff.1 ends
      · obtain ⟨rfl, rfl⟩ := List.cons.inj same
        rw [opens] at noOpens
        cases noOpens
      · exact ih ends
  | @group first closing bracket' inner rest opens' closes inside further ih ih' =>
      obtain same | ⟨part, isPart, same⟩ | ends := suffix_group_cases ends
      · obtain ⟨rfl, rfl⟩ := List.cons.inj same
        obtain rfl : bracket' = bracket := Option.some.inj (opens'.symm.trans opens)
        exact ⟨inner, closing, rest, inside, closes, rfl⟩
      · cases part with
        | nil =>
            obtain ⟨rfl, rfl⟩ := List.cons.inj same
            rw [Kind.opens?_eq_none_of_closes closes] at opens
            cases opens
        | cons token part =>
            obtain ⟨rfl, rfl⟩ := List.cons.inj same
            obtain ⟨inner', closing', rest', nested, closes', rfl⟩ := ih isPart
            exact ⟨inner', closing', rest' ++ closing :: rest, nested, closes', by simp⟩
      · exact ih' ends

end Nested

/-- Two lists of tokens of the same kinds, but for what stands between some braces, which is
well nested in both. -/
inductive Varies : List Token → List Token → Prop where
  | nil : Varies [] []
  | token {first first' : Token} {rest rest' : List Token} (same : first'.kind = first.kind)
    (others : Varies rest rest') : Varies (first :: rest) (first' :: rest')
  | braces {opening closing opening' closing' : Token} {inner inner' rest rest' : List Token}
    (opens : opening.kind = .mark .lbrace) (opens' : opening'.kind = .mark .lbrace)
    (closes : closing.kind = .mark .rbrace) (closes' : closing'.kind = .mark .rbrace)
    (inside : Nested inner) (inside' : Nested inner') (others : Varies rest rest') :
    Varies (opening :: (inner ++ closing :: rest)) (opening' :: (inner' ++ closing' :: rest'))

/-- Both lists are empty, or they start with tokens of one kind, and if these are no braces, the
rests differ at most inside braces. -/
theorem Varies.cons_cases {tokens tokens' : List Token} (varies : Varies tokens tokens') :
    tokens = [] ∧ tokens' = [] ∨
      ∃ first first' rest rest', tokens = first :: rest ∧ tokens' = first' :: rest' ∧
        first'.kind = first.kind ∧ (first.kind ≠ .mark .lbrace → Varies rest rest') := by
  cases varies with
  | nil => exact .inl ⟨rfl, rfl⟩
  | token same others => exact .inr ⟨_, _, _, _, rfl, rfl, same, fun _ => others⟩
  | braces opens opens' _ _ _ _ _ =>
      exact .inr ⟨_, _, _, _, rfl, rfl, opens'.trans opens.symm, fun other => absurd opens other⟩

namespace Lookahead

/-- Two searches, which have passed some tokens before these lists, end in neither list, or at
places behind which the rests differ at most inside braces. -/
inductive Found (passed passed' : Nat) (tokens tokens' : List Token) :
    Option Nat → Option Nat → Prop where
  | none : Found passed passed' tokens tokens' none none
  | some {index index' : Nat} (atLeast : passed ≤ index) (atLeast' : passed' ≤ index')
    (behind : Varies (tokens.drop (index + 1 - passed)) (tokens'.drop (index' + 1 - passed'))) :
    Found passed passed' tokens tokens' (some index) (some index')

/-- What is found behind some tokens is found from before them. -/
theorem Found.of_drop {passed passed' : Nat} {tokens tokens' : List Token}
    {result result' : Option Nat} (count count' : Nat)
    (found : Found (passed + count) (passed' + count') (tokens.drop count) (tokens'.drop count')
      result result') :
    Found passed passed' tokens tokens' result result' := by
  cases found with
  | none => exact .none
  | @some index index' atLeast atLeast' behind =>
      refine .some (by omega) (by omega) ?_
      rw [List.drop_drop, List.drop_drop] at behind
      rwa [show index + 1 - passed = count + (index + 1 - (passed + count)) by omega,
        show index' + 1 - passed' = count' + (index' + 1 - (passed' + count')) by omega]

section ClosingBracket

variable {token : Token} {rest : List Token}

theorem closeIndex?_go_opening {bracket : Bracket} (opens : token.kind.opens? = some bracket)
    (depth passed : Nat) :
    closeIndex?.go (token :: rest) depth passed = closeIndex?.go rest (depth + 1) (passed + 1) := by
  rw [closeIndex?.go.eq_def]
  simp only [opens, Option.isSome_some, if_true]

theorem closeIndex?_go_closing {bracket : Bracket} (closes : token.kind.closes? = some bracket)
    (depth passed : Nat) :
    closeIndex?.go (token :: rest) (depth + 2) passed =
      closeIndex?.go rest (depth + 1) (passed + 1) := by
  rw [closeIndex?.go.eq_def]
  simp only [Kind.opens?_eq_none_of_closes closes, closes, Option.isSome_none, Option.isSome_some,
    Bool.false_eq_true, if_false, if_true]

theorem closeIndex?_go_last {bracket : Bracket} (closes : token.kind.closes? = some bracket)
    (passed : Nat) : closeIndex?.go (token :: rest) 1 passed = some passed := by
  rw [closeIndex?.go.eq_def]
  simp only [Kind.opens?_eq_none_of_closes closes, closes, Option.isSome_none, Option.isSome_some,
    Bool.false_eq_true, if_false, if_true]

theorem closeIndex?_go_other (opens : token.kind.opens? = none)
    (closes : token.kind.closes? = none) (depth passed : Nat) :
    closeIndex?.go (token :: rest) depth passed = closeIndex?.go rest depth (passed + 1) := by
  rw [closeIndex?.go.eq_def]
  simp only [opens, closes, Option.isSome_none, Bool.false_eq_true, if_false]

end ClosingBracket

/-- The search for a closing bracket passes what is well nested. -/
theorem closeIndex?_go_nested {inner : List Token} (nested : Nested inner) (rest : List Token)
    (depth passed : Nat) :
    closeIndex?.go (inner ++ rest) (depth + 1) passed =
      closeIndex?.go rest (depth + 1) (passed + inner.length) := by
  induction nested generalizing rest depth passed with
  | nil => rfl
  | token opens closes _ ih =>
      rw [List.cons_append, closeIndex?_go_other opens closes, ih, List.length_cons,
        Nat.add_right_comm, Nat.add_assoc]
  | group opens closes _ _ ih ih' =>
      rw [List.cons_append, closeIndex?_go_opening opens, List.append_assoc, ih, List.cons_append,
        closeIndex?_go_closing closes, ih']
      congr 1
      simp only [List.length_cons, List.length_append]
      omega

theorem closeIndex?_go_varies {tokens tokens' : List Token} (varies : Varies tokens tokens')
    (depth passed passed' : Nat) :
    Found passed passed' tokens tokens' (closeIndex?.go tokens depth passed)
      (closeIndex?.go tokens' depth passed') := by
  induction varies generalizing depth passed passed' with
  | nil => exact .none
  | @token first first' rest rest' same others ih =>
      have further (depth : Nat) : Found passed passed' (first :: rest) (first' :: rest')
          (closeIndex?.go rest depth (passed + 1)) (closeIndex?.go rest' depth (passed' + 1)) :=
        .of_drop 1 1 (ih depth (passed + 1) (passed' + 1))
      cases opens : first.kind.opens? with
      | some bracket =>
          rw [closeIndex?_go_opening opens, closeIndex?_go_opening (same ▸ opens)]
          exact further (depth + 1)
      | none =>
      cases closes : first.kind.closes? with
      | none =>
          rw [closeIndex?_go_other opens closes,
            closeIndex?_go_other (same ▸ opens) (same ▸ closes)]
          exact further depth
      | some bracket =>
      rcases depth with _ | _ | depth
      · rw [closeIndex?.go.eq_def, closeIndex?.go.eq_def]
        simp only [same, opens, closes]
        exact .none
      · rw [closeIndex?_go_last closes, closeIndex?_go_last (same ▸ closes)]
        refine .some (Nat.le_refl _) (Nat.le_refl _) ?_
        rwa [Nat.add_sub_cancel_left, Nat.add_sub_cancel_left]
      · rw [closeIndex?_go_closing closes, closeIndex?_go_closing (same ▸ closes)]
        exact further (depth + 1)
  | @braces opening closing opening' closing' inner inner' rest rest' opens opens' closes closes'
      inside inside' others ih =>
      have opened : opening.kind.opens? = some .brace := by rw [opens]; rfl
      have opened' : opening'.kind.opens? = some .brace := by rw [opens']; rfl
      have closed : closing.kind.closes? = some .brace := by rw [closes]; rfl
      have closed' : closing'.kind.closes? = some .brace := by rw [closes']; rfl
      have behind (opening closing : Token) (inner rest : List Token) :
          (opening :: (inner ++ closing :: rest)).drop (inner.length + 2) = rest := by
        simp
      rw [closeIndex?_go_opening opened, closeIndex?_go_opening opened',
        closeIndex?_go_nested inside, closeIndex?_go_nested inside']
      cases depth with
      | zero =>
          rw [closeIndex?_go_last closed, closeIndex?_go_last closed']
          refine .some (by omega) (by omega) ?_
          rw [show passed + 1 + inner.length + 1 - passed = inner.length + 2 by omega,
            show passed' + 1 + inner'.length + 1 - passed' = inner'.length + 2 by omega,
            behind, behind]
          exact others
      | succ depth =>
          rw [closeIndex?_go_closing closed, closeIndex?_go_closing closed']
          refine .of_drop (inner.length + 2) (inner'.length + 2) ?_
          rw [behind, behind, Nat.add_right_comm passed, Nat.add_right_comm passed']
          exact ih _ _ _

theorem closeIndex?_varies {tokens tokens' : List Token} (varies : Varies tokens tokens') :
    Found 0 0 tokens tokens' (closeIndex? tokens) (closeIndex? tokens') :=
  closeIndex?_go_varies varies 0 0 0

theorem angleCloseIndex?_go_varies {tokens tokens' : List Token} (varies : Varies tokens tokens')
    (depth passed passed' : Nat) :
    Found passed passed' tokens tokens' (angleCloseIndex?.go tokens depth passed)
      (angleCloseIndex?.go tokens' depth passed') := by
  have found := closeIndex?_varies varies
  rw [angleCloseIndex?.go.eq_def, angleCloseIndex?.go.eq_def]
  obtain ⟨rfl, rfl⟩ | ⟨first, first', rest, rest', rfl, rfl, same, others⟩ := varies.cons_cases
  · exact .none
  dsimp only
  rw [same]
  have further (other : first.kind ≠ .mark .lbrace) (depth : Nat) :
      Found passed passed' (first :: rest) (first' :: rest')
        (angleCloseIndex?.go rest depth (passed + 1))
        (angleCloseIndex?.go rest' depth (passed' + 1)) :=
    .of_drop 1 1 (angleCloseIndex?_go_varies (others other) depth (passed + 1) (passed' + 1))
  split
  · next kind => exact further (by simp [kind]) _
  · next kind =>
      have others := others (by simp [kind])
      have last : Found passed passed' (first :: rest) (first' :: rest') (some passed)
          (some passed') := by
        refine .some (Nat.le_refl _) (Nat.le_refl _) ?_
        rwa [Nat.add_sub_cancel_left, Nat.add_sub_cancel_left]
      split
      · exact last
      · exact last
      · exact further (by simp [kind]) _
  iterate 3
    · generalize closeIndex? (first :: rest) = index,
        closeIndex? (first' :: rest') = index' at found
      cases found with
      | none => exact .none
      | @some index index' _ _ behind =>
          refine .of_drop (index + 1) (index' + 1) ?_
          exact angleCloseIndex?_go_varies behind depth (passed + (index + 1))
            (passed' + (index' + 1))
  · exact .none
  · next other => exact further (by intro kind; simp_all) _
termination_by tokens.length
decreasing_by all_goals simp_all only [List.length_cons, List.length_drop]; omega

theorem angleCloseIndex?_varies {tokens tokens' : List Token} (varies : Varies tokens tokens') :
    Found 0 0 tokens tokens' (angleCloseIndex? tokens) (angleCloseIndex? tokens') :=
  angleCloseIndex?_go_varies varies 0 0 0

/-! ## What follows -/

theorem ascriptionThenArrow_varies {tokens tokens' : List Token} (varies : Varies tokens tokens') :
    ascriptionThenArrow tokens = ascriptionThenArrow tokens' := by
  have found := closeIndex?_varies varies
  have angle := angleCloseIndex?_varies varies
  rw [ascriptionThenArrow.eq_def, ascriptionThenArrow.eq_def]
  obtain ⟨rfl, rfl⟩ | ⟨first, first', rest, rest', rfl, rfl, same, others⟩ := varies.cons_cases
  · rfl
  dsimp only
  rw [same]
  split
  · rfl
  iterate 3
    · generalize closeIndex? (first :: rest) = index,
        closeIndex? (first' :: rest') = index' at found
      cases found with
      | none => rfl
      | some _ _ behind => exact ascriptionThenArrow_varies behind
  · generalize angleCloseIndex? (first :: rest) = index,
      angleCloseIndex? (first' :: rest') = index' at angle
    cases angle with
    | none => rfl
    | some _ _ behind => exact ascriptionThenArrow_varies behind
  iterate 6
    · rfl
  · next other _ _ _ _ _ _ _ => exact ascriptionThenArrow_varies (others (by intro kind; simp_all))
termination_by tokens.length
decreasing_by all_goals simp_all only [List.length_cons, List.length_drop]; omega

theorem groupThenArrow_varies {tokens tokens' : List Token} (varies : Varies tokens tokens') :
    groupThenArrow tokens = groupThenArrow tokens' := by
  have found := closeIndex?_varies varies
  unfold groupThenArrow
  generalize closeIndex? tokens = index, closeIndex? tokens' = index' at found
  cases found with
  | none => rfl
  | @some index index' _ _ behind =>
      rw [Nat.sub_zero, Nat.sub_zero] at behind
      dsimp only
      generalize tokens.drop (index + 1) = rest, tokens'.drop (index' + 1) = rest' at behind
      obtain ⟨rfl, rfl⟩ | ⟨⟨kind, _⟩, ⟨kind', _⟩, rest, rest', rfl, rfl, same, others⟩ :=
        behind.cons_cases
      · rfl
      cases (same : kind' = kind)
      cases kind with
      | mark mark =>
          cases mark <;>
            first | rfl | exact ascriptionThenArrow_varies (others (by simp))
      | _ => rfl

/-- The tokens at which two lists that vary go on are of one kind. -/
theorem kindAt?_varies {tokens tokens' : List Token} {index index' : Nat}
    (behind : Varies (tokens.drop index) (tokens'.drop index')) :
    kindAt? tokens index = kindAt? tokens' index' := by
  rw [kindAt?, kindAt?, ← List.head?_drop, ← List.head?_drop]
  obtain ⟨none, none'⟩ | ⟨first, first', rest, rest', isCons, isCons', same, -⟩ := behind.cons_cases
  · rw [none, none']
  · rw [isCons, isCons', List.head?_cons, List.head?_cons, Option.map_some, Option.map_some, same]

theorem startsFunctionType_varies {tokens tokens' : List Token} (varies : Varies tokens tokens') :
    startsFunctionType tokens = startsFunctionType tokens' := by
  have found := closeIndex?_varies varies
  unfold startsFunctionType
  generalize closeIndex? tokens = index, closeIndex? tokens' = index' at found
  cases found with
  | none => rfl
  | some _ _ behind =>
      rw [Nat.sub_zero, Nat.sub_zero] at behind
      dsimp only
      rw [kindAt?_varies behind]

theorem startsArrow_varies {tokens tokens' : List Token} (varies : Varies tokens tokens') :
    startsArrow tokens = startsArrow tokens' := by
  have found := angleCloseIndex?_varies varies
  have group := groupThenArrow_varies varies
  unfold startsArrow
  obtain ⟨rfl, rfl⟩ | ⟨⟨kind, _⟩, ⟨kind', _⟩, rest, rest', rfl, rfl, same, others⟩ :=
    varies.cons_cases
  · rfl
  cases (same : kind' = kind)
  cases kind with
  | name text =>
      obtain ⟨rfl, rfl⟩ | ⟨⟨kind, _⟩, ⟨kind', _⟩, _, _, rfl, rfl, same, -⟩ :=
        (others (by simp)).cons_cases
      · rfl
      · cases (same : kind' = kind)
        cases kind with
        | mark mark => cases mark <;> rfl
        | _ => rfl
  | mark mark =>
      cases mark with
      | lparen => exact group
      | lt =>
          dsimp only
          generalize angleCloseIndex? _ = index, angleCloseIndex? (_ :: rest') = index' at found
          cases found with
          | none => rfl
          | some _ _ behind =>
              rw [Nat.sub_zero, Nat.sub_zero] at behind
              dsimp only
              rw [kindAt?_varies behind]
              exact congrArg _ (groupThenArrow_varies behind)
      | _ => rfl
  | _ => rfl

theorem reachesQuestion_varies {tokens tokens' : List Token} (varies : Varies tokens tokens') :
    reachesQuestion tokens = reachesQuestion tokens' := by
  have found := closeIndex?_varies varies
  rw [reachesQuestion.eq_def, reachesQuestion.eq_def]
  obtain ⟨rfl, rfl⟩ | ⟨first, first', rest, rest', rfl, rfl, same, others⟩ := varies.cons_cases
  · rfl
  dsimp only
  rw [same]
  split
  · rfl
  iterate 3
    · generalize closeIndex? (first :: rest) = index,
        closeIndex? (first' :: rest') = index' at found
      cases found with
      | none => rfl
      | some _ _ behind => exact reachesQuestion_varies behind
  iterate 7
    · rfl
  · next other _ _ _ _ _ _ _ => exact reachesQuestion_varies (others (by intro kind; simp_all))
termination_by tokens.length
decreasing_by all_goals simp_all only [List.length_cons, List.length_drop]; omega

/-! ## Mapped types -/

theorem afterSign_varies {tokens tokens' : List Token} (varies : Varies tokens tokens') :
    Varies (afterSign tokens) (afterSign tokens') := by
  obtain ⟨rfl, rfl⟩ | ⟨⟨kind, _⟩, ⟨kind', _⟩, rest, rest', rfl, rfl, same, others⟩ :=
    varies.cons_cases
  · exact .nil
  cases (same : kind' = kind)
  cases kind with
  | mark mark => cases mark <;> first | exact varies | exact others (by simp)
  | _ => exact varies

theorem afterReadonly_varies {tokens tokens' : List Token} (varies : Varies tokens tokens') :
    Varies (afterReadonly tokens) (afterReadonly tokens') := by
  obtain ⟨rfl, rfl⟩ | ⟨⟨kind, _⟩, ⟨kind', _⟩, rest, rest', rfl, rfl, same, others⟩ :=
    varies.cons_cases
  · exact .nil
  cases (same : kind' = kind)
  cases kind with
  | name text =>
      by_cases readonly : text = "readonly"
      · subst readonly
        exact others (by simp)
      · simpa [afterReadonly, readonly] using varies
  | _ => exact varies

/-- Behind a brace of its own, a mapped type starts in both lists or in neither. -/
theorem startsMappedType_varies (first first' : Token) {rest rest' : List Token}
    (varies : Varies rest rest') :
    startsMappedType (first :: rest) = startsMappedType (first' :: rest') := by
  have behind := afterReadonly_varies (afterSign_varies varies)
  rw [startsMappedType, startsMappedType, List.drop_succ_cons, List.drop_succ_cons, List.drop_zero,
    List.drop_zero]
  generalize afterReadonly (afterSign rest) = tokens, afterReadonly (afterSign rest') = tokens'
    at behind
  obtain ⟨rfl, rfl⟩ | ⟨⟨kind, _⟩, ⟨kind', _⟩, _, _, rfl, rfl, same, second⟩ := behind.cons_cases
  · rfl
  cases (same : kind' = kind)
  by_cases opens : kind = .mark .lbracket
  case neg => simp [opens]
  subst opens
  obtain ⟨rfl, rfl⟩ | ⟨⟨kind, _⟩, ⟨kind', _⟩, _, _, rfl, rfl, same, third⟩ :=
    (second (by simp)).cons_cases
  · rfl
  cases (same : kind' = kind)
  cases kind with
  | name text =>
      obtain ⟨rfl, rfl⟩ | ⟨⟨kind, _⟩, ⟨kind', _⟩, _, _, rfl, rfl, same, -⟩ :=
        (third (by simp)).cons_cases
      · rfl
      cases (same : kind' = kind)
      by_cases isIn : kind = .name "in" <;> simp [isIn]
  | _ => rfl

end Lookahead

/-! ## Passing a group -/

theorem Outcome.rest_of_stopped {α : Type} {moves : Bool} {c d : Cursor}
    {outcome : Outcome moves c α} {result : Except ParseError α}
    (stopped : outcome.stopped = ⟨result, d⟩) : outcome.rest = d :=
  congrArg Stopped.rest stopped

theorem Outcome.reaches_of_stopped {α : Type} {moves : Bool} {c d : Cursor}
    {outcome : Outcome moves c α} {result : Except ParseError α}
    (stopped : outcome.stopped = ⟨result, d⟩) : c.Reaches d := by
  rw [← rest_of_stopped stopped]
  exact outcome.reaches

theorem Outcome.stopped_map {α β : Type} {moves : Bool} {c d : Cursor} {value : α}
    {outcome : Outcome moves c α} (succeeded : outcome.stopped = ⟨.ok value, d⟩)
    (change : α → β) : (outcome.map change).stopped = ⟨.ok (change value), d⟩ := by
  obtain ⟨stopped, reaches, moved⟩ := outcome
  cases (succeeded : stopped = _)
  rfl

theorem Outcome.rest_mapAt {α β : Type} {moves : Bool} {c : Cursor} (outcome : Outcome moves c α)
    (change : α → Cursor → β) : (outcome.mapAt change).rest = outcome.rest := by
  obtain ⟨⟨result, d⟩, reaches, moved⟩ := outcome
  cases result <;> rfl

theorem Outcome.rest_map {α β : Type} {moves : Bool} {c : Cursor} (outcome : Outcome moves c α)
    (change : α → β) : (outcome.map change).rest = outcome.rest :=
  outcome.rest_mapAt fun value _ => change value

theorem Outcome.errors_mapAt {α β : Type} {moves : Bool} {c : Cursor} (outcome : Outcome moves c α)
    (change : α → Cursor → β) : (outcome.mapAt change).errors = outcome.errors := by
  obtain ⟨⟨result, d⟩, reaches, moved, errors⟩ := outcome
  cases result with
  | ok => rfl
  | error => exact List.append_nil _

theorem Outcome.errors_map {α β : Type} {moves : Bool} {c : Cursor} (outcome : Outcome moves c α)
    (change : α → β) : (outcome.map change).errors = outcome.errors :=
  outcome.errors_mapAt fun value _ => change value

/-- Two rules, one after the other, stop at or behind the place where the first one did. -/
theorem Outcome.reaches_bind {α β : Type} {moves : Bool} {c : Cursor} (outcome : Outcome false c α)
    (next : (value : α) → (d : Cursor) → d.remaining ≤ c.remaining → Outcome moves d β) :
    outcome.rest.Reaches (outcome.bind next).rest := by
  obtain ⟨⟨result, d⟩, reaches, moved⟩ := outcome
  cases result with
  | ok value => exact (next value d _).reaches
  | error => exact .refl d

theorem Outcome.reaches_andThen {α β : Type} {moves : Bool} {c : Cursor}
    (outcome : Outcome true c α)
    (next : (value : α) → (d : Cursor) → d.remaining < c.remaining → Outcome moves d β) :
    outcome.rest.Reaches (outcome.andThen next).rest := by
  obtain ⟨⟨result, d⟩, reaches, moved⟩ := outcome
  cases result with
  | ok value => exact (next value d _).reaches
  | error => exact .refl d

/-- A rule that succeeded is followed by the next one where it stopped. -/
theorem Outcome.stopped_bind {α β : Type} {moves : Bool} {c d : Cursor} {value : α}
    {outcome : Outcome false c α} (succeeded : outcome.stopped = ⟨.ok value, d⟩)
    (next : (value : α) → (d : Cursor) → d.remaining ≤ c.remaining → Outcome moves d β) :
    ∃ atMost, (outcome.bind next).stopped = (next value d atMost).stopped := by
  obtain ⟨stopped, reaches, moved⟩ := outcome
  cases (succeeded : stopped = _)
  exact ⟨reaches.remaining_le, rfl⟩

theorem Outcome.stopped_andThen {α β : Type} {moves : Bool} {c d : Cursor} {value : α}
    {outcome : Outcome true c α} (succeeded : outcome.stopped = ⟨.ok value, d⟩)
    (next : (value : α) → (d : Cursor) → d.remaining < c.remaining → Outcome moves d β) :
    ∃ less, (outcome.andThen next).stopped = (next value d less).stopped := by
  obtain ⟨stopped, reaches, moved⟩ := outcome
  cases (succeeded : stopped = _)
  exact ⟨less_of_moved moved, rfl⟩

namespace Cursor

section ClosingTokens

variable (opening : Opening) (outer innermost : Bracket) (others : List Bracket) {token : Token}
  (behind rest : List Token) (stop : Span)

theorem closeAll_opening {bracket : Bracket} (opens : token.kind.opens? = some bracket) :
    (closeAll opening outer (innermost :: others) ⟨behind, token :: rest, stop⟩).stopped =
      (closeAll opening outer (bracket :: innermost :: others)
        ⟨token :: behind, rest, stop⟩).stopped := by
  rw [closeAll.eq_def]
  simp only [next?, opens]
  rfl

theorem closeAll_closing (closes : token.kind.closes? = some innermost) :
    (closeAll opening outer (innermost :: others) ⟨behind, token :: rest, stop⟩).stopped =
      (closeAll opening outer others ⟨token :: behind, rest, stop⟩).stopped := by
  rw [closeAll.eq_def]
  simp only [next?, Kind.opens?_eq_none_of_closes closes, closes, if_true]
  rfl

theorem closeAll_other (opens : token.kind.opens? = none) (closes : token.kind.closes? = none) :
    (closeAll opening outer (innermost :: others) ⟨behind, token :: rest, stop⟩).stopped =
      (closeAll opening outer (innermost :: others) ⟨token :: behind, rest, stop⟩).stopped := by
  rw [closeAll.eq_def]
  simp only [next?, opens, closes]
  rfl

end ClosingTokens

/-- What is well nested is passed while brackets are open. -/
theorem closeAll_nested {inner : List Token} (nested : Nested inner) (opening : Opening)
    (outer innermost : Bracket) (others : List Bracket) (behind rest : List Token) (stop : Span) :
    (closeAll opening outer (innermost :: others) ⟨behind, inner ++ rest, stop⟩).stopped =
      (closeAll opening outer (innermost :: others)
        ⟨inner.reverse ++ behind, rest, stop⟩).stopped := by
  induction nested generalizing innermost others behind rest with
  | nil => rfl
  | token opens closes _ ih =>
      rw [List.cons_append, closeAll_other _ _ _ _ _ _ _ opens closes, ih, List.reverse_cons,
        List.append_assoc, List.singleton_append]
  | @group first last bracket inner more opens closes _ _ ih ih' =>
      rw [List.cons_append, closeAll_opening _ _ _ _ _ _ _ opens, List.append_assoc, ih,
        List.cons_append, closeAll_closing _ _ _ _ _ _ _ closes, ih']
      rw [show more.reverse ++ last :: (inner.reverse ++ first :: behind) =
        (first :: (inner ++ last :: more)).reverse ++ behind by simp]

/-- The rest of a group in which brackets are well nested is passed as a whole. -/
theorem restOfGroup_group {closing : Token} {bracket : Bracket} {inner : List Token}
    (closes : closing.kind.closes? = some bracket) (nested : Nested inner) (opened : Span)
    (behind rest : List Token) (stop : Span) :
    ∃ span, (restOfGroup bracket opened ⟨behind, inner ++ closing :: rest, stop⟩).stopped =
      ⟨.ok span, ⟨closing :: (inner.reverse ++ behind), rest, stop⟩⟩ := by
  have passed : (closeAll ⟨bracket.opening, opened⟩ bracket [bracket]
      ⟨behind, inner ++ closing :: rest, stop⟩).stopped =
        ⟨.ok (), ⟨closing :: (inner.reverse ++ behind), rest, stop⟩⟩ := by
    rw [closeAll_nested nested, closeAll_closing _ _ _ _ _ _ _ closes]
    unfold closeAll
    rfl
  obtain ⟨_, same⟩ := Outcome.stopped_bind passed fun _ d _ =>
    (.ok (d.spanFrom opened) : Outcome false d Span)
  exact ⟨_, same⟩

/-- A group in which brackets are well nested is passed as a whole. -/
theorem skipGroup_group {opening closing : Token} {bracket : Bracket} {inner : List Token}
    (opens : opening.kind.opens? = some bracket) (closes : closing.kind.closes? = some bracket)
    (nested : Nested inner) (behind rest : List Token) (stop : Span) :
    ∃ span, (skipGroup ⟨behind, opening :: (inner ++ closing :: rest), stop⟩).stopped =
      ⟨.ok span, ⟨closing :: (inner.reverse ++ opening :: behind), rest, stop⟩⟩ := by
  unfold skipGroup
  simp only [next?, opens]
  exact restOfGroup_group closes nested opening.span (opening :: behind) rest stop

/-- A group of braces in which brackets are well nested is passed as a whole. -/
theorem skipGroup_nested {opening closing : Token} {inner : List Token}
    (opens : opening.kind = .mark .lbrace) (closes : closing.kind = .mark .rbrace)
    (nested : Nested inner) (behind rest : List Token) (stop : Span) :
    ∃ span, (skipGroup ⟨behind, opening :: (inner ++ closing :: rest), stop⟩).stopped =
      ⟨.ok span, ⟨closing :: (inner.reverse ++ opening :: behind), rest, stop⟩⟩ :=
  skipGroup_group (by rw [opens]; rfl) (by rw [closes]; rfl) nested behind rest
    stop

/-- Where the innermost bracket is closed, what stands in front of that is well nested. -/
theorem nested_of_closeAll {opening : Opening} {outer innermost : Bracket} {others : List Bracket}
    {behind tokens : List Token} {stop : Span} {d : Cursor}
    (passed : (closeAll opening outer (innermost :: others) ⟨behind, tokens, stop⟩).stopped =
      ⟨.ok (), d⟩) :
    ∃ inner closing rest behind', Nested inner ∧ closing.kind.closes? = some innermost ∧
      tokens = inner ++ closing :: rest ∧
        (closeAll opening outer others ⟨behind', rest, stop⟩).stopped = ⟨.ok (), d⟩ := by
  cases tokens with
  | nil =>
      rw [closeAll.eq_def] at passed
      cases passed
  | cons token more =>
      cases opens : token.kind.opens? with
      | some bracket =>
          rw [closeAll_opening _ _ _ _ _ _ _ opens] at passed
          obtain ⟨inner, closing, rest, _, inside, closes, isMore, within⟩ :=
            nested_of_closeAll passed
          have := congrArg List.length isMore
          obtain ⟨further, last, rest', _, nested, closesLast, isRest, behind⟩ :=
            nested_of_closeAll within
          exact ⟨token :: (inner ++ closing :: further), last, rest', _,
            .group opens closes inside nested, closesLast, by simp [isMore, isRest], behind⟩
      | none =>
          cases closes : token.kind.closes? with
          | none =>
              rw [closeAll_other _ _ _ _ _ _ _ opens closes] at passed
              obtain ⟨inner, closing, rest, _, nested, closesLast, isMore, behind⟩ :=
                nested_of_closeAll passed
              exact ⟨token :: inner, closing, rest, _, .token opens closes nested, closesLast,
                by simp [isMore], behind⟩
          | some bracket =>
              by_cases same : bracket = innermost
              · subst same
                rw [closeAll_closing _ _ _ _ _ _ _ closes] at passed
                exact ⟨[], token, more, _, .nil, closes, rfl, passed⟩
              · rw [closeAll.eq_def] at passed
                simp only [next?, opens, closes, if_neg same] at passed
                cases passed
termination_by tokens.length
decreasing_by all_goals simp_all <;> omega

/-- A group ends where its brackets are closed, or fails where that fails. -/
theorem skipGroup_ends {opening : Token} {bracket : Bracket}
    (opens : opening.kind.opens? = some bracket) (behind tokens : List Token) (stop : Span) :
    ∃ closed : Outcome false ⟨opening :: behind, tokens, stop⟩ Unit,
      closed = closeAll ⟨bracket.opening, opening.span⟩ bracket [bracket] _ ∧
      (skipGroup ⟨behind, opening :: tokens, stop⟩).rest = closed.rest ∧
        ((∃ span, (skipGroup ⟨behind, opening :: tokens, stop⟩).result = .ok span) ↔
          closed.result = .ok ()) := by
  refine ⟨_, rfl, ?_⟩
  unfold skipGroup
  simp only [next?, opens]
  unfold restOfGroup
  generalize closeAll ⟨bracket.opening, opening.span⟩ bracket [bracket]
    ⟨opening :: behind, tokens, stop⟩ = closed
  obtain ⟨⟨result, d⟩, reaches, moved⟩ := closed
  cases result with
  | ok value => exact ⟨rfl, iff_of_true ⟨_, rfl⟩ rfl⟩
  | error error =>
      refine ⟨rfl, iff_of_false ?_ ?_⟩
      · rintro ⟨_, same⟩
        cases same
      · intro same
        cases same

/-- A group that is passed is well nested. -/
theorem group_of_skipGroup {opening : Token} {bracket : Bracket} {behind tokens : List Token}
    {stop whole : Span} {d : Cursor} (opens : opening.kind.opens? = some bracket)
    (passed : (skipGroup ⟨behind, opening :: tokens, stop⟩).stopped = ⟨.ok whole, d⟩) :
    ∃ inner closing, Nested inner ∧ closing.kind.closes? = some bracket ∧
      tokens = inner ++ closing :: d.ahead := by
  obtain ⟨closed, isClosed, sameRest, succeeds⟩ := skipGroup_ends opens behind tokens stop
  have stopped : closed.stopped = ⟨.ok (), d⟩ := by
    have result : closed.result = .ok () := succeeds.1 ⟨whole, congrArg Stopped.result passed⟩
    have rest : closed.rest = d := sameRest.symm.trans (congrArg Stopped.rest passed)
    rw [← result, ← rest]
    rfl
  rw [isClosed] at stopped
  obtain ⟨inner, closing, rest, behind', nested, closes, rfl, ends⟩ := nested_of_closeAll stopped
  unfold closeAll at ends
  cases ends
  exact ⟨inner, closing, nested, closes, rfl⟩

/-- A group of braces that is passed is well nested. -/
theorem nested_of_skipGroup {opening : Token} {behind tokens : List Token} {stop whole : Span}
    {d : Cursor} (opens : opening.kind = .mark .lbrace)
    (passed : (skipGroup ⟨behind, opening :: tokens, stop⟩).stopped = ⟨.ok whole, d⟩) :
    ∃ inner closing, Nested inner ∧ tokens = inner ++ closing :: d.ahead := by
  obtain ⟨inner, closing, nested, -, same⟩ :=
    group_of_skipGroup (by rw [opens]; rfl) passed
  exact ⟨inner, closing, nested, same⟩

end Cursor

end InjectionCheck
