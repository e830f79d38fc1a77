import InjectionCheck.Proofs.Readings
import InjectionCheck.Proofs.SkippedBodies

/-!
# What holds where a rule succeeds

What can be said of the value of a rule and of the place where it stops is put together along the
rule. `Ensures` says what holds if the rule succeeds, and `Then` that it succeeds and what holds.
Each has one lemma for each way in which rules are combined.
-/

set_option autoImplicit false

namespace InjectionCheck

namespace Outcome

variable {α β : Type} {moves : Bool} {c d : Cursor} {right : α → Cursor → Prop}
  {right' : β → Cursor → Prop}

/-! ## If a rule succeeds -/

/-- If a rule succeeds, its value is right for the place where it stops. -/
def Ensures (outcome : Outcome moves c α) (right : α → Cursor → Prop) : Prop :=
  ∀ value, outcome.result = .ok value → right value outcome.rest

namespace Ensures

theorem always (outcome : Outcome moves c α) : outcome.Ensures fun _ _ => True :=
  fun _ _ => trivial

theorem mono {outcome : Outcome moves c α} (ensures : outcome.Ensures right)
    {right' : α → Cursor → Prop} (weaker : ∀ value d, right value d → right' value d) :
    outcome.Ensures right' :=
  fun value succeeded => weaker value _ (ensures value succeeded)

theorem ok {value : α} (isRight : right value c) :
    (Outcome.ok value : Outcome false c α).Ensures right := by
  intro value' succeeded
  cases succeeded
  exact isRight

theorem fail {error : ParseError} : (Outcome.fail error : Outcome moves c α).Ensures right :=
  fun _ succeeded => by cases succeeded

theorem lax {outcome : Outcome moves c α} (ensures : outcome.Ensures right) :
    outcome.lax.Ensures right := ensures

theorem go {past : c.Past} {outcome : Outcome moves past.rest α}
    (ensures : outcome.Ensures right) : (past.go outcome).Ensures right := ensures

theorem following {reaches : c.Reaches d} {outcome : Outcome moves d α}
    (ensures : outcome.Ensures right) : (outcome.following reaches).Ensures right := ensures

theorem bind {outcome : Outcome false c α}
    {next : (value : α) → (d : Cursor) → d.remaining ≤ c.remaining → Outcome moves d β}
    (first : outcome.Ensures right)
    (second : ∀ value d atMost, right value d → (next value d atMost).Ensures right') :
    (outcome.bind next).Ensures right' := by
  obtain ⟨⟨result, d⟩, reaches, moved⟩ := outcome
  cases result with
  | ok value => exact second value d reaches.remaining_le (first value rfl)
  | error error => exact fun _ succeeded => by cases succeeded

theorem andThen {outcome : Outcome true c α}
    {next : (value : α) → (d : Cursor) → d.remaining < c.remaining → Outcome moves d β}
    (first : outcome.Ensures right)
    (second : ∀ value d less, right value d → (next value d less).Ensures right') :
    (outcome.andThen next).Ensures right' := by
  obtain ⟨⟨result, d⟩, reaches, moved⟩ := outcome
  cases result with
  | ok value => exact second value d (less_of_moved moved) (first value rfl)
  | error error => exact fun _ succeeded => by cases succeeded

theorem mapAt {outcome : Outcome moves c α} {change : α → Cursor → β}
    (ensures : outcome.Ensures right)
    (changed : ∀ value d, right value d → right' (change value d) d) :
    (outcome.mapAt change).Ensures right' := by
  obtain ⟨⟨result, d⟩, reaches, moved⟩ := outcome
  cases result with
  | ok value =>
      intro value' succeeded
      cases succeeded
      exact changed value d (ensures value rfl)
  | error error => exact fun _ succeeded => by cases succeeded

theorem map {outcome : Outcome moves c α} {change : α → β} (ensures : outcome.Ensures right)
    (changed : ∀ value d, right value d → right' (change value) d) :
    (outcome.map change).Ensures right' :=
  ensures.mapAt changed

theorem mapError {outcome : Outcome moves c α} {change : ParseError → ParseError}
    (ensures : outcome.Ensures right) : (outcome.mapError change).Ensures right := by
  obtain ⟨⟨result, d⟩, reaches, moved⟩ := outcome
  cases result with
  | ok value => exact ensures
  | error error => exact fun _ succeeded => by cases succeeded

theorem tried {outcome : Outcome moves c α}
    {next : (value : α) → (d : Cursor) → c.Reaches d → d.remaining ≤ c.remaining →
      Outcome false c β} {otherwise : Outcome false c β}
    (first : outcome.Ensures right)
    (second : ∀ value d reaches atMost, right value d →
      (next value d reaches atMost).Ensures right')
    (other : otherwise.Ensures right') : (outcome.tried next otherwise).Ensures right' := by
  obtain ⟨⟨result, d⟩, reaches, moved⟩ := outcome
  cases result with
  | ok value => exact second value d reaches reaches.remaining_le (first value rfl)
  | error error => exact other

theorem ite {condition : Prop} [Decidable condition] {first second : Outcome moves c α}
    (isTrue : condition → first.Ensures right) (isFalse : ¬condition → second.Ensures right) :
    (if condition then first else second).Ensures right := by
  split
  · next holds => exact isTrue holds
  · next fails => exact isFalse fails

/-- What a rule gives in front of known tokens it gives whenever it succeeds. -/
theorem of_gives {outcome : Outcome moves c α} {good : α → Prop} {left : List Kind}
    (gives : outcome.Gives good left) :
    outcome.Ensures fun value d => good value ∧ d.kinds = left := by
  obtain ⟨⟨result, d⟩, reaches, moved⟩ := outcome
  obtain ⟨value, d, same, isGood, ahead⟩ := gives
  cases same
  intro value' succeeded
  cases succeeded
  exact ⟨isGood, ahead⟩

/-- A mark that is passed is the next token. -/
theorem expectMark {mark : Mark} :
    (c.expectMark mark).Ensures fun _ d =>
      ∃ past, c.next? = some past ∧ past.token.kind = .mark mark ∧ past.rest = d := by
  unfold Cursor.expectMark Cursor.expect
  split
  · next past isNext =>
      refine .ite (fun agrees => .go (.ok ⟨past, isNext, ?_, rfl⟩)) fun _ => .fail
      cases isKind : past.token.kind with
      | mark mark' => rw [isKind] at agrees; exact of_decide_eq_true agrees
      | _ => rw [isKind] at agrees; cases agrees
  · exact .fail

end Ensures

/-! ## That a rule succeeds -/

namespace Then

theorem mono {outcome : Outcome moves c α} (succeeds : outcome.Then fun value d _ => right value d)
    {right' : α → Cursor → Prop} (weaker : ∀ value d, right value d → right' value d) :
    outcome.Then fun value d _ => right' value d := by
  obtain ⟨value, succeeded, isRight⟩ := succeeds
  exact ⟨value, succeeded, weaker value _ isRight⟩

theorem ok {value : α} (isRight : right value c) :
    (Outcome.ok value : Outcome false c α).Then fun value d _ => right value d :=
  ⟨value, rfl, isRight⟩

theorem lax {outcome : Outcome moves c α} (succeeds : outcome.Then fun value d _ => right value d) :
    outcome.lax.Then fun value d _ => right value d := succeeds

theorem go {past : c.Past} {outcome : Outcome moves past.rest α}
    (succeeds : outcome.Then fun value d _ => right value d) :
    (past.go outcome).Then fun value d _ => right value d := succeeds

theorem bind {outcome : Outcome false c α}
    {next : (value : α) → (d : Cursor) → d.remaining ≤ c.remaining → Outcome moves d β}
    (first : outcome.Then fun value d _ => right value d)
    (second : ∀ value d atMost, right value d →
      (next value d atMost).Then fun value d _ => right' value d) :
    (outcome.bind next).Then fun value d _ => right' value d := by
  obtain ⟨⟨result, d⟩, reaches, moved⟩ := outcome
  obtain ⟨value, succeeded, isRight⟩ := first
  cases (succeeded : result = _)
  exact second value d reaches.remaining_le isRight

theorem andThen {outcome : Outcome true c α}
    {next : (value : α) → (d : Cursor) → d.remaining < c.remaining → Outcome moves d β}
    (first : outcome.Then fun value d _ => right value d)
    (second : ∀ value d less, right value d →
      (next value d less).Then fun value d _ => right' value d) :
    (outcome.andThen next).Then fun value d _ => right' value d := by
  obtain ⟨⟨result, d⟩, reaches, moved⟩ := outcome
  obtain ⟨value, succeeded, isRight⟩ := first
  cases (succeeded : result = _)
  exact second value d (less_of_moved moved) isRight

theorem of_gives {outcome : Outcome moves c α} {good : α → Prop} {left : List Kind}
    (gives : outcome.Gives good left) :
    outcome.Then fun value d _ => good value ∧ d.kinds = left := by
  obtain ⟨⟨result, d⟩, reaches, moved⟩ := outcome
  obtain ⟨value, d, same, isGood, ahead⟩ := gives
  cases same
  exact ⟨value, rfl, isGood, ahead⟩

end Then

end Outcome

end InjectionCheck
