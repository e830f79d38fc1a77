import InjectionCheck.Proofs.AbreastRules

/-!
# Words and groups beside each other

What the small rules do in a file and in its revision: those that pass a mark, a name or a word,
those that pass a bracketed group or a statement, and those that pass elements with commas
between them.
-/

set_option autoImplicit false

namespace InjectionCheck

open Outcome

theorem NameUse.name_eq {use use' : NameUse} (same : SameUnder unplaced use use') :
    use.name = use'.name := by
  simpa [unplaced] using congrArg name same

namespace Cursor

/-! ## Marks, names and words -/

/-- A token that fails a test is not passed by it. -/
theorem nextIf?_of_kind {c : Cursor} {kind : Kind} (isKind : c.kind? = some kind)
    {test : Kind → Bool} (fails : test kind = false) : c.nextIf? test = none := by
  obtain ⟨behind, tokens, stop⟩ := c
  cases tokens with
  | nil => rfl
  | cons first rest =>
      have isKind : first.kind = kind := by simpa [Cursor.kind?] using isKind
      simp [nextIf?, next?, isKind, fails]

theorem optional_of_kind {c : Cursor} {kind : Kind} (isKind : c.kind? = some kind)
    {test : Kind → Bool} (fails : test kind = false) : c.optional test = .ok false := by
  rw [optional, nextIf?_of_kind isKind fails]

section Tokens

variable {r : Revision} {c c' : Cursor} (abreast : r.Abreast c c')

include abreast

theorem abreast_expect (kind : Kind) :
    Outcome.Abreast r Unrelated (c.expect kind) (c'.expect kind) := by
  unfold expect
  refine abreast.next_cases (.fail abreast (abreast.expected _)) fun past past' step => ?_
  dsimp only
  rw [step.kind]
  refine .ite (fun _ => .step step fun rests => .ok rests trivial) fun _ => ?_
  exact .fail abreast (abreast.expected _)

theorem abreast_expectMark (mark : Mark) :
    Outcome.Abreast r Unrelated (c.expectMark mark) (c'.expectMark mark) :=
  abreast_expect abreast _

omit abreast in
/-- To pass the brace is to enter the body. -/
theorem entered_expectMark {past : c.Past} {past' : c'.Past} (step : r.Step past past')
    (brace : past.token.kind = .mark .lbrace) (entered : r.Entered past.rest) :
    r.Entered (c.expectMark .lbrace).rest := by
  unfold expectMark expect
  rw [step.isNext]
  dsimp only
  rw [brace, if_pos (by rfl)]
  exact entered

theorem abreast_expectKeyword (word : Keyword) :
    Outcome.Abreast r Unrelated (c.expectKeyword word) (c'.expectKeyword word) :=
  abreast_expect abreast _

theorem abreast_expectName :
    Outcome.Abreast r (SameUnder NameUse.unplaced) c.expectName c'.expectName := by
  unfold expectName
  refine abreast.next_cases (.fail abreast (abreast.expected _)) fun past past' step => ?_
  dsimp only
  rw [step.kind]
  split
  · exact .step step fun rests => .ok rests rfl
  · exact .fail abreast (abreast.expected _)

theorem abreast_optional (test : Kind → Bool) :
    Outcome.Abreast r Eq (c.optional test) (c'.optional test) := by
  unfold optional
  refine abreast.nextIf_cases (.ok abreast rfl) fun past past' _ step => ?_
  exact .lax (.step step fun rests => .ok rests rfl)

theorem abreast_optionalMark (mark : Mark) :
    Outcome.Abreast r Eq (c.optionalMark mark) (c'.optionalMark mark) :=
  abreast_optional abreast _

theorem abreast_optionalSemicolon :
    Outcome.Abreast r Eq c.optionalSemicolon c'.optionalSemicolon :=
  .map (abreast_optionalMark abreast .semicolon) fun _ => rfl

/-- A word in front of something else is passed in both files or in none: before the brace it is
in none, and elsewhere the second token is of one kind. -/
theorem abreast_optional_if (test : Kind → Bool) (fails : test (.mark .lbrace) = false)
    {condition condition' : Prop} [Decidable condition] [Decidable condition']
    (same : c.kind? ≠ some (.mark .lbrace) → (condition' ↔ condition)) :
    Outcome.Abreast r Eq (if condition then c.optional test else .ok false)
      (if condition' then c'.optional test else .ok false) := by
  by_cases brace : c.kind? = some (.mark .lbrace)
  · rw [optional_of_kind brace fails, optional_of_kind (abreast.kind?_eq.trans brace) fails,
      ite_self, ite_self]
    exact .ok abreast rfl
  · simp only [same brace]
    exact .ite (fun _ => abreast_optional abreast test) fun _ => .ok abreast rfl

theorem abreast_optionalModifier (word : String) :
    Outcome.Abreast r Eq (c.optionalModifier word) (c'.optionalModifier word) :=
  abreast_optional_if abreast _ (by simp) fun other => by rw [abreast.modifies other]

/-- A name of a property stands at the same place in both files. -/
def SameName (r : Revision) (property property' : PropertyName) : Prop :=
  property.name = property'.name ∧ r.SamePlace property.span property'.span

theorem abreast_propertyName :
    Outcome.Abreast r (SameName r) c.propertyName c'.propertyName := by
  unfold propertyName
  refine abreast.next_cases (.fail abreast (abreast.expected _))
    fun past past' step => ?_
  dsimp only
  rw [step.kind]
  split
  · exact .step step fun rests => .ok rests ⟨rfl, step.place⟩
  · exact .fail abreast (abreast.expected _)

theorem abreast_properName :
    Outcome.Abreast r (SameUnder NameUse.unplaced) c.properName c'.properName := by
  refine (abreast_propertyName abreast).andThen fun {property property' _ _} _ _ rests related => ?_
  obtain ⟨name, span⟩ := property
  obtain ⟨name', span'⟩ := property'
  obtain ⟨same, place⟩ := related
  cases (same : name = name')
  cases name with
  | some name => exact .ok rests rfl
  | none => exact .fail rests ⟨rfl, place⟩

end Tokens

/-! ## Groups -/

theorem abreast_closeAll {r : Revision} {c c' : Cursor} (abreast : r.Abreast c c')
    (opening opening' : Opening) (marks : opening.mark = opening'.mark) (outer : Bracket)
    (brackets : List Bracket) :
    Outcome.Abreast r Eq (closeAll opening outer brackets c)
      (closeAll opening' outer brackets c') := by
  cases brackets with
  | nil =>
    unfold closeAll
    exact .ok abreast rfl
  | cons innermost others =>
  unfold closeAll
  refine abreast.next_cases (.fail abreast (abreast.unclosed marks _))
    fun past past' step => ?_
  dsimp only
  rw [step.kind]
  have := past.less
  have again (brackets : List Bracket) (rests : r.Abreast past.rest past'.rest) :=
    abreast_closeAll rests opening opening' marks outer brackets
  cases past.token.kind.opens? with
  | some bracket => exact .lax (.step step (again _))
  | none =>
  cases past.token.kind.closes? with
  | some bracket =>
      refine .ite (fun _ => .lax (.step step (again _))) fun _ => ?_
      exact .fail abreast (abreast.expected _)
  | none => exact .lax (.step step (again _))
termination_by c.remaining

section Groups

variable {r : Revision} {c c' : Cursor} (abreast : r.Abreast c c')

include abreast

theorem abreast_restOfGroup (bracket : Bracket) (opened opened' : Span) :
    Outcome.Abreast r Unrelated (restOfGroup bracket opened c) (restOfGroup bracket opened' c') :=
  .bind (abreast_closeAll abreast ⟨bracket.opening, opened⟩ ⟨bracket.opening, opened'⟩ rfl _ _)
    fun _ _ rests _ => .ok rests trivial

theorem abreast_skipGroup : Outcome.Abreast r Unrelated c.skipGroup c'.skipGroup := by
  unfold skipGroup
  refine abreast.next_cases (.fail abreast (abreast.expected _)) fun past past' step => ?_
  dsimp only
  rw [step.kind]
  cases past.token.kind.opens? with
  | some bracket => exact .step step fun rests => abreast_restOfGroup rests _ _ _
  | none => exact .fail abreast (abreast.expected _)

omit abreast in
theorem entered_skipGroup {past : c.Past} {past' : c'.Past} (step : r.Step past past')
    (brace : past.token.kind = .mark .lbrace) (entered : r.Entered past.rest) :
    r.Entered c.skipGroup.rest := by
  have opened : past.token.kind.opens? = some .brace := by rw [brace]; rfl
  unfold skipGroup
  rw [step.isNext]
  dsimp only
  rw [opened]
  exact Revision.Entered.mono entered (restOfGroup _ _ past.rest).reaches

end Groups

theorem abreast_closeAngles {r : Revision} {c c' : Cursor} (abreast : r.Abreast c c')
    (opening opening' : Opening) (marks : opening.mark = opening'.mark) (depth : Nat) :
    Outcome.Abreast r Eq (closeAngles opening depth c) (closeAngles opening' depth c') := by
  cases depth with
  | zero =>
    unfold closeAngles
    exact .ok abreast rfl
  | succ depth =>
  unfold closeAngles
  refine abreast.next_cases (.fail abreast (abreast.unclosed marks _))
    fun past past' step => ?_
  dsimp only
  rw [step.kind]
  have := past.less
  have again (depth : Nat) (rests : r.Abreast past.rest past'.rest) :=
    abreast_closeAngles rests opening opening' marks depth
  cases past.token.kind.opens? with
  | some bracket =>
      refine .lax (.step step fun rests => (abreast_restOfGroup rests _ _ _).bind
        fun _ _ behind _ => ?_)
      exact abreast_closeAngles behind opening opening' marks _
  | none =>
      refine .ite (fun _ => .lax (.step step (again _))) fun _ => ?_
      exact .ite (fun _ => .lax (.step step (again _))) fun _ => .lax (.step step (again _))
termination_by c.remaining

section Groups

variable {r : Revision} {c c' : Cursor} (abreast : r.Abreast c c')

include abreast

theorem abreast_skipAngles : Outcome.Abreast r Eq c.skipAngles c'.skipAngles :=
  .andThen (abreast_expectMark abreast .lt) fun {token token' _ _} _ _ rests _ =>
    abreast_closeAngles rests ⟨.lt, token.span⟩ ⟨.lt, token'.span⟩ rfl 1

theorem abreast_skipAnglesIfAny :
    Outcome.Abreast r Eq c.skipAnglesIfAny c'.skipAnglesIfAny := by
  unfold skipAnglesIfAny
  rw [abreast.seesMark]
  exact .ite (fun _ => .lax (abreast_skipAngles abreast)) fun _ => .ok abreast rfl

end Groups

theorem abreast_restOfStatement {r : Revision} {c c' : Cursor} (abreast : r.Abreast c c') :
    Outcome.Abreast r Eq c.restOfStatement c'.restOfStatement := by
  unfold restOfStatement
  refine abreast.next_cases (.ok abreast rfl) fun past past' step => ?_
  dsimp only
  rw [step.kind]
  have := past.less
  refine .ite (fun _ => .lax (.step step fun rests => .ok rests rfl)) fun _ => ?_
  refine .ite (fun _ => .ok abreast rfl) fun _ => ?_
  cases past.token.kind.opens? with
  | some bracket =>
      refine .lax (.step step fun rests => (abreast_restOfGroup rests _ _ _).bind
        fun _ _ behind _ => ?_)
      exact abreast_restOfStatement behind
  | none =>
      refine .ite (fun _ => .fail abreast (abreast.expected _)) fun _ => ?_
      exact .lax (.step step fun rests => abreast_restOfStatement rests)
termination_by c.remaining

theorem Past.abreast_skipStatement {r : Revision} {c c' : Cursor} (abreast : r.Abreast c c')
    {past : c.Past} {past' : c'.Past} (step : r.Step past past') :
    Outcome.Abreast r Eq past.skipStatement past'.skipStatement := by
  unfold skipStatement
  rw [step.kind]
  cases past.token.kind.opens? with
  | some bracket =>
      refine .step step fun rests => (abreast_restOfGroup rests _ _ _).bind fun _ _ behind _ => ?_
      exact abreast_restOfStatement behind
  | none =>
      refine .ite (fun _ => .fail abreast (abreast.expected _)) fun _ => ?_
      exact .step step fun rests => abreast_restOfStatement rests

/-! ## Modifiers -/

theorem abreast_modifiers {r : Revision} {c c' : Cursor} (abreast : r.Abreast c c')
    (earlier : Modifiers) :
    Outcome.Abreast r Eq (c.modifiers earlier) (c'.modifiers earlier) := by
  unfold modifiers
  refine abreast.next_cases (.ok abreast rfl) fun past past' step => ?_
  dsimp only
  rw [step.kind]
  have := past.less
  split
  · next word isName =>
      rw [abreast.modifies (by simp [step.kind?, isName])]
      refine .ite (fun _ => ?_) fun _ => .ok abreast rfl
      split
      · exact .lax (.step step fun rests => abreast_modifiers rests _)
      · exact .ok abreast rfl
  · exact .ok abreast rfl
termination_by c.remaining

end Cursor

/-! ## Elements with commas -/

open Cursor

namespace Rules

theorem abreast_elements {r : Revision} {limit limit' : Cursor} {α β : Type} {change : α → β}
    (opening opening' : Opening) (marks : opening.mark = opening'.mark) (closing : Mark)
    (noBrace : closing ≠ .lbrace) {missing missing' : ParseError → ParseError}
    (sameMissing : ∀ {error error'}, r.SameError error error' →
      r.SameError (missing error) (missing' error'))
    {element : (c : Cursor) → c.remaining < limit.remaining → Outcome true c α}
    {element' : (c : Cursor) → c.remaining < limit'.remaining → Outcome true c α}
    (each : ∀ {c c'} inside inside', r.Abreast c c' →
      Outcome.Abreast r (SameUnder change) (element c inside) (element' c' inside'))
    {earlier earlier' : List α} (before : SameUnder (List.map change) earlier earlier')
    {c c' : Cursor} (abreast : r.Abreast c c') (inside inside') :
    Outcome.Abreast r (SameUnder (List.map change))
      (elements opening closing missing element earlier c inside)
      (elements opening' closing missing' element' earlier' c' inside') := by
  unfold elements
  refine abreast.mark_cases ?_ (fun past past' rests => ?_) closing noBrace
  case refine_2 => exact .go (.ok rests before.reverse)
  rw [abreast.atEnd]
  refine .ite (fun _ => .fail abreast (abreast.unclosed marks _)) fun _ => ?_
  refine (each inside inside' abreast).andThen fun {value value' d d'} less _ behind same => ?_
  have before := same.cons before
  refine behind.mark_cases ?_ (fun past past' rests => ?_) .comma (by decide)
  · refine .map (.mapError (abreast_expectMark behind closing) sameMissing) fun _ => ?_
    exact before.reverse
  · have := past.less
    exact .go (abreast_elements opening opening' marks closing noBrace sameMissing each before
      rests _ _)
termination_by c.remaining

end Rules

end InjectionCheck
