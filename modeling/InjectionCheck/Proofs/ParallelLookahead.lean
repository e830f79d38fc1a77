import InjectionCheck.Proofs.ParallelRules

/-!
# Looking ahead at tokens that are alike

What is found by looking through the tokens ahead does not depend on what strings denote.
-/

set_option autoImplicit false

namespace InjectionCheck

namespace Lookahead

variable {tokens tokens' : List Token}

theorem closeIndex?_congr (alike : List.Forall₂ Token.Alike tokens tokens') :
    closeIndex? tokens = closeIndex? tokens' := by
  suffices general : ∀ depth passed, closeIndex?.go tokens depth passed =
      closeIndex?.go tokens' depth passed from general 0 0
  induction alike with
  | nil => exact fun _ _ => rfl
  | cons first others ih =>
      intro depth passed
      unfold closeIndex?.go
      simp only [← first.kind_congr Kind.opens? fun _ _ => rfl,
        ← first.kind_congr Kind.closes? fun _ _ => rfl, ih]

theorem angleCloseIndex?_go_congr {tokens tokens' : List Token}
    (alike : List.Forall₂ Token.Alike tokens tokens') (depth passed : Nat) :
    angleCloseIndex?.go tokens depth passed = angleCloseIndex?.go tokens' depth passed := by
  cases alike with
  | nil => unfold angleCloseIndex?.go; rfl
  | @cons _ _ rest rest' first others =>
      unfold angleCloseIndex?.go
      cases first with
      | string content content' span => exact angleCloseIndex?_go_congr others depth (passed + 1)
      | same =>
          have close (token : Token) := closeIndex?_congr (.cons (.same token) others)
          have again (count depth passed : Nat) :
              angleCloseIndex?.go (rest.drop count) depth passed =
                angleCloseIndex?.go (rest'.drop count) depth passed :=
            angleCloseIndex?_go_congr (List.forall₂_drop count others) depth passed
          have next := again 0
          rw [List.drop_zero, List.drop_zero] at next
          simp only [close, next, again]
termination_by tokens.length
decreasing_by all_goals simp only [List.length_cons, List.length_drop]; omega

theorem angleCloseIndex?_congr (alike : List.Forall₂ Token.Alike tokens tokens') :
    angleCloseIndex? tokens = angleCloseIndex? tokens' :=
  angleCloseIndex?_go_congr alike 0 0

theorem ascriptionThenArrow_congr {tokens tokens' : List Token}
    (alike : List.Forall₂ Token.Alike tokens tokens') :
    ascriptionThenArrow tokens = ascriptionThenArrow tokens' := by
  cases alike with
  | nil => rfl
  | @cons _ _ rest rest' first others =>
      unfold ascriptionThenArrow
      cases first with
      | string content content' span => exact ascriptionThenArrow_congr others
      | same =>
          have close (token : Token) := closeIndex?_congr (.cons (.same token) others)
          have closeAngle (token : Token) := angleCloseIndex?_congr (.cons (.same token) others)
          have again (count : Nat) : ascriptionThenArrow (rest.drop count) =
              ascriptionThenArrow (rest'.drop count) :=
            ascriptionThenArrow_congr (List.forall₂_drop count others)
          have next := again 0
          rw [List.drop_zero, List.drop_zero] at next
          simp only [close, closeAngle, next, again]
termination_by tokens.length
decreasing_by all_goals simp only [List.length_cons, List.length_drop]; omega

theorem groupThenArrow_congr (alike : List.Forall₂ Token.Alike tokens tokens') :
    groupThenArrow tokens = groupThenArrow tokens' := by
  unfold groupThenArrow
  rw [closeIndex?_congr alike]
  cases closeIndex? tokens' with
  | none => rfl
  | some index =>
      have after := List.forall₂_drop (index + 1) alike
      dsimp only
      generalize tokens.drop (index + 1) = rest, tokens'.drop (index + 1) = rest' at after
      cases after with
      | nil => rfl
      | @cons token _ _ _ first others =>
          cases first with
          | string => rfl
          | same =>
              have arrow := ascriptionThenArrow_congr others
              obtain ⟨kind, span⟩ := token
              cases kind with
              | mark mark => cases mark <;> first | rfl | exact arrow
              | _ => rfl

theorem kindAt?_congr (alike : List.Forall₂ Token.Alike tokens tokens') (distance : Nat)
    (mark : Mark) :
    kindAt? tokens distance = some (.mark mark) ↔ kindAt? tokens' distance = some (.mark mark) := by
  unfold kindAt?
  induction alike generalizing distance with
  | nil => exact .rfl
  | cons first others ih =>
      cases distance with
      | zero => cases first <;> simp
      | succ distance => exact ih distance

theorem startsArrow_congr (alike : List.Forall₂ Token.Alike tokens tokens') :
    startsArrow tokens = startsArrow tokens' := by
  have group := groupThenArrow_congr alike
  have closeAngle := angleCloseIndex?_congr alike
  have groupAfter (count : Nat) := groupThenArrow_congr (List.forall₂_drop count alike)
  have kindAt (distance : Nat) := kindAt?_congr alike distance .lparen
  unfold startsArrow
  cases alike with
  | nil => rfl
  | @cons token _ _ _ first others =>
      cases first with
      | string => rfl
      | same =>
          obtain ⟨kind, span⟩ := token
          cases kind with
          | name text =>
              cases others with
              | nil => rfl
              | @cons second _ _ _ next _ =>
                  cases next with
                  | string => rfl
                  | same =>
                      obtain ⟨kind, span⟩ := second
                      cases kind with
                      | mark mark => cases mark <;> rfl
                      | _ => rfl
          | mark mark =>
              cases mark with
              | lparen => exact group
              | lt => simp only [closeAngle, groupAfter, kindAt]
              | _ => rfl
          | _ => rfl

theorem startsFunctionType_congr (alike : List.Forall₂ Token.Alike tokens tokens') :
    startsFunctionType tokens = startsFunctionType tokens' := by
  unfold startsFunctionType
  rw [closeIndex?_congr alike]
  simp only [kindAt?_congr alike]

theorem afterSign_alike (alike : List.Forall₂ Token.Alike tokens tokens') :
    List.Forall₂ Token.Alike (afterSign tokens) (afterSign tokens') := by
  cases alike with
  | nil => exact .nil
  | @cons token _ _ _ first others =>
      have all := List.Forall₂.cons first others
      cases first with
      | string => exact all
      | same =>
          obtain ⟨kind, span⟩ := token
          cases kind with
          | mark mark => cases mark <;> first | exact others | exact all
          | _ => exact all

theorem afterReadonly_alike (alike : List.Forall₂ Token.Alike tokens tokens') :
    List.Forall₂ Token.Alike (afterReadonly tokens) (afterReadonly tokens') := by
  cases alike with
  | nil => exact .nil
  | @cons token _ _ _ first others =>
      have all := List.Forall₂.cons first others
      cases first with
      | string => exact all
      | same =>
          obtain ⟨kind, span⟩ := token
          by_cases same : kind = .name "readonly"
          · subst same
            exact others
          · have kept (rest : List Token) :
                afterReadonly (⟨kind, span⟩ :: rest) = ⟨kind, span⟩ :: rest := by
              unfold afterReadonly
              split <;> simp_all
            rwa [kept, kept]

theorem startsMappedType_congr (alike : List.Forall₂ Token.Alike tokens tokens') :
    startsMappedType tokens = startsMappedType tokens' := by
  unfold startsMappedType
  have after := afterReadonly_alike (afterSign_alike (List.forall₂_drop 1 alike))
  generalize afterReadonly (afterSign (tokens.drop 1)) = rest,
    afterReadonly (afterSign (tokens'.drop 1)) = rest' at after
  cases after with
  | nil => rfl
  | cons first others =>
  cases others with
  | nil => cases first <;> simp
  | cons second others =>
  cases others with
  | nil => cases first <;> cases second <;> simp
  | cons third others =>
      cases first <;> cases second <;> cases third
      case same.same.same =>
        split
        · next found =>
          simp only [List.cons.injEq] at found
          obtain ⟨rfl, rfl, rfl, -⟩ := found
          rfl
        · next other =>
          split
          · next found =>
            simp only [List.cons.injEq] at found
            obtain ⟨rfl, rfl, rfl, -⟩ := found
            exact absurd rfl (other _ _ _ _ _)
          · rfl
      all_goals simp

theorem reachesQuestion_congr {tokens tokens' : List Token}
    (alike : List.Forall₂ Token.Alike tokens tokens') :
    reachesQuestion tokens = reachesQuestion tokens' := by
  cases alike with
  | nil => rfl
  | @cons _ _ rest rest' first others =>
      unfold reachesQuestion
      cases first with
      | string content content' span => exact reachesQuestion_congr others
      | same =>
          have close (token : Token) := closeIndex?_congr (.cons (.same token) others)
          have again (count : Nat) : reachesQuestion (rest.drop count) =
              reachesQuestion (rest'.drop count) :=
            reachesQuestion_congr (List.forall₂_drop count others)
          have next := again 0
          rw [List.drop_zero, List.drop_zero] at next
          simp only [close, next, again]
termination_by tokens.length
decreasing_by all_goals simp only [List.length_cons, List.length_drop]; omega

end Lookahead

end InjectionCheck
