import InjectionCheck.Program.Basic
import InjectionCheck.Proofs.SpansOfItems
import InjectionCheck.Proofs.Tiling

/-!
# Where everything stands that a text gives

The tokens of a text start and end between its characters, and they follow each other. So a
cursor at its start is placed, and all that the rules give from there lies in the text
(`SourceFile.everything_stands`). What stands in a text can be cut out of it
(`Span.Stands.slice`).
-/

set_option autoImplicit false

namespace InjectionCheck

/-! ## Cutting a text -/

/-- An offset between two characters of a text, or at one of its ends. -/
def IsCut (text : List Char) (offset : Nat) : Prop :=
  ∃ before, before <+: text ∧ byteLength before = offset

theorem dropBytes_append (before rest : List Char) :
    dropBytes (before ++ rest) (byteLength before) = some rest := by
  induction before with
  | nil =>
    unfold dropBytes
    rfl
  | cons c before ih =>
    obtain ⟨size, positive⟩ := Nat.exists_eq_succ_of_ne_zero c.utf8Size_pos.ne'
    rw [List.cons_append, byteLength_cons, positive, Nat.succ_add, Nat.succ_eq_add_one, dropBytes,
      if_pos (by omega)]
    have rest : size + byteLength before + 1 - c.utf8Size = byteLength before := by omega
    rw [rest, ih]

theorem takeBytes_append (before rest : List Char) :
    takeBytes (before ++ rest) (byteLength before) = some before := by
  have go (passed : List Char) :
      takeBytes.go passed (before ++ rest) (byteLength before) =
        some (passed.reverse ++ before) := by
    induction before generalizing passed with
    | nil =>
      unfold takeBytes.go
      simp
    | cons c before ih =>
      obtain ⟨size, positive⟩ := Nat.exists_eq_succ_of_ne_zero c.utf8Size_pos.ne'
      rw [List.cons_append, byteLength_cons, positive, Nat.succ_add, Nat.succ_eq_add_one,
        takeBytes.go, if_pos (by omega)]
      have rest : size + byteLength before + 1 - c.utf8Size = byteLength before := by omega
      rw [rest, ih]
      simp
  simpa [takeBytes] using go []

/-- What stands between two parts of a text is what is cut out there. -/
theorem sliceBytes_append (before middle rest : List Char) :
    sliceBytes (before ++ (middle ++ rest)) (byteLength before)
      (byteLength before + byteLength middle) = some middle := by
  rw [sliceBytes, if_pos (Nat.le_add_right _ _), dropBytes_append, Option.bind_some,
    Nat.add_sub_cancel_left, takeBytes_append]

/-- Of two ways to start a text, the one with fewer bytes starts the other. -/
theorem isPrefix_of_byteLength_le {text first second : List Char} (front : first <+: text)
    (further : second <+: text) (le : byteLength first ≤ byteLength second) : first <+: second := by
  rcases List.prefix_or_prefix_of_prefix front further with isPrefix | ⟨more, rfl⟩
  · exact isPrefix
  · have empty : more = [] := by
      by_contra nonempty
      have := byteLength_pos nonempty
      rw [byteLength_append] at le
      omega
    simp [empty]

/-- What stands in a text can be cut out of it, and has as many bytes as the span says. -/
theorem Span.Stands.slice {text : List Char} {span : Span} {high : Nat}
    (stands : span.Stands (IsCut text) high) :
    ∃ piece, sliceBytes text span.start span.stop = some piece ∧
      byteLength piece = span.length := by
  obtain ⟨ordered, -, ⟨before, front, start⟩, ⟨through, further, stop⟩⟩ := stands
  obtain ⟨piece, rfl⟩ := isPrefix_of_byteLength_le front further (by omega)
  obtain ⟨rest, rfl⟩ := further
  refine ⟨piece, ?_, ?_⟩
  · rw [← start, ← stop, byteLength_append, List.append_assoc, sliceBytes_append]
  · rw [Span.length, ← start, ← stop, byteLength_append, Nat.add_sub_cancel_left]

/-! ## Tokens -/

namespace Scanner

/-- Tokens start and end between two characters. -/
theorem cuts_of_mem {text : List Char} {offset : Nat} {token : Token}
    (inside : token ∈ tokensAfter offset text) :
    (∃ before, before <+: text ∧ offset + byteLength before = token.span.start) ∧
      ∃ through, through <+: text ∧ offset + byteLength through = token.span.stop := by
  cases text with
  | nil =>
    rw [tokensAfter_nil] at inside
    cases inside
  | cons first others =>
    have whole := (piece first others).whole
    rw [tokensAfter_cons, List.mem_append] at inside
    rcases inside with here | later
    · rw [Piece.span_of_token (Option.mem_toList.1 here)]
      exact ⟨⟨[], List.nil_prefix, rfl⟩, _, ⟨_, whole⟩, rfl⟩
    · obtain ⟨⟨before, front, start⟩, through, further, stop⟩ := cuts_of_mem later
      -- What starts the rest of the text starts it after the piece.
      have shifted {start : List Char} (front : start <+: (piece first others).rest) :
          (piece first others).taken ++ start <+: first :: others := by
        obtain ⟨rest, same⟩ := front
        exact ⟨rest, by rw [List.append_assoc, same, whole]⟩
      refine ⟨⟨_, shifted front, ?_⟩, _, shifted further, ?_⟩
      · rw [byteLength_append, ← start, Nat.add_assoc]
      · rw [byteLength_append, ← stop, Nat.add_assoc]
termination_by text.length
decreasing_by subst_vars; exact Piece.rest_length_lt _

end Scanner

namespace TokenList

variable {text : List Char}

theorem lies_of_mem {token : Token} (inside : token ∈ (ofText text).tokens) :
    token.span.Lies (IsCut text) 0 (byteLength text) := by
  rw [tokens_ofText] at inside
  have bounds := Scanner.stop_le_of_mem inside
  have cuts := Scanner.cuts_of_mem inside
  simp only [Nat.zero_add] at bounds cuts
  exact ⟨Nat.zero_le _, bounds.1, bounds.2, cuts.1, cuts.2⟩

theorem lies_of_fault {fault : Fault × Span} (among : fault ∈ (ofText text).faults) :
    fault.2.Lies (IsCut text) 0 (byteLength text) := by
  have place := List.mem_map_of_mem (f := Prod.snd) among
  rw [(tiles_ofText text).faults] at place
  obtain ⟨token, isToken, same⟩ := List.mem_map.1 place
  rw [← same]
  exact lies_of_mem (List.mem_of_mem_filter isToken)

theorem stands_stop (text : List Char) :
    (ofText text).stop.Stands (IsCut text) (byteLength text) := by
  have whole : IsCut text (byteLength text) := ⟨text, List.prefix_rfl, rfl⟩
  rw [stop, length_ofText]
  exact ⟨Nat.le_refl _, Nat.le_refl _, whole, whole⟩

/-- The cursor at the start of a text is among tokens that follow each other. -/
theorem placed_start (text : List Char) :
    (Cursor.start (ofText text).tokens (ofText text).stop).Placed (IsCut text) := by
  have stop : (ofText text).stop.start = byteLength text := by
    rw [TokenList.stop, length_ofText]
    rfl
  refine ⟨?_, ?_, ?_⟩
  · simp only [Cursor.start, List.reverse_nil, List.nil_append, stop]
    exact fun token => lies_of_mem
  · simp only [Cursor.start, List.reverse_nil, List.nil_append, tokens_ofText]
    exact Scanner.apart_tokensAfter 0 text
  · simp only [Cursor.start, stop]
    exact stands_stop text

end TokenList

/-! ## Files -/

namespace SourceUnit

variable {cuts : Nat → Prop}

open Cursor Outcome in
/-- The items and errors after a cursor lie in the text. -/
theorem lie_after {c : Cursor} (placed : c.Placed cuts) :
    (∀ item ∈ (after c).1, item.Lies cuts 0 c.stop.start) ∧
      ∀ error ∈ (after c).2, error.Lies cuts c.stop.start := by
  unfold after
  refine placed.next_cases (by simp) fun past span beyond => ?_
  have sound := Past.sound_item span beyond
  dsimp only
  generalize past.item = statement at sound ⊢
  obtain ⟨items, outcome⟩ := statement
  obtain ⟨itemsLie, isError, errorsLie⟩ := sound
  obtain ⟨⟨result, d⟩, reaches, moved, errors⟩ := outcome
  cases result with
  | ok value =>
    have less : d.remaining < c.remaining := less_of_moved moved
    have beyond : Beyond cuts c d := ⟨⟨placed, reaches⟩, less⟩
    obtain ⟨laterItems, laterErrors⟩ := lie_after beyond.placed_end
    rw [beyond.stop_eq] at laterItems laterErrors
    exact ⟨fun item member => (List.mem_append.1 member).elim (itemsLie item) (laterItems item),
      fun error member => (List.mem_append.1 member).elim (errorsLie error) (laterErrors error)⟩
  | error error =>
    have lies : error.Lies cuts c.stop.start := isError
    have reaches' := (recoverItem past d reaches).property.1
    have less := (recoverItem past d reaches).property.2
    have beyond : Beyond cuts c (recoverItem past d reaches).val := ⟨⟨placed, reaches'⟩, less⟩
    obtain ⟨laterItems, laterErrors⟩ := lie_after beyond.placed_end
    rw [beyond.stop_eq] at laterItems laterErrors
    exact ⟨fun item member => (List.mem_append.1 member).elim (itemsLie item) (laterItems item),
      fun other member => (List.mem_append.1 member).elim (errorsLie other)
        (List.forall_mem_cons.2 ⟨lies, laterErrors⟩ other)⟩
termination_by c.remaining

/-- The items and errors of a text lie in it. -/
theorem lie_ofTokens (text : List Char) :
    (∀ item ∈ (ofTokens (.ofText text)).items, item.Lies (IsCut text) 0 (byteLength text)) ∧
      ∀ error ∈ (ofTokens (.ofText text)).errors, error.Lies (IsCut text) (byteLength text) := by
  obtain ⟨items, errors⟩ := lie_after (TokenList.placed_start text)
  rw [show (Cursor.start (TokenList.ofText text).tokens (TokenList.ofText text).stop).stop.start =
    byteLength text by rw [Cursor.start, TokenList.stop, TokenList.length_ofText, Span.point]]
    at items errors
  exact ⟨items, fun error member => errors error (List.mem_mergeSort.1 member)⟩

end SourceUnit

/-- A span can be cut out of a text, and the piece has as many bytes as the span says. -/
def Span.Slices (text : List Char) (span : Span) : Prop :=
  span.start ≤ span.stop ∧
    ∃ piece, sliceBytes text span.start span.stop = some piece ∧ byteLength piece = span.length

namespace SourceFile

/-- All that a file gives stands in its text. -/
structure AllStands (file : SourceFile) : Prop where
  /-- Tokens have bytes. -/
  tokens : ∀ token ∈ (TokenList.ofText file.content).tokens,
    token.span.Lies (IsCut file.content) 0 (byteLength file.content)
  faults : ∀ fault ∈ (TokenList.ofText file.content).faults,
    fault.2.Lies (IsCut file.content) 0 (byteLength file.content)
  stop : (TokenList.ofText file.content).stop.Stands (IsCut file.content) (byteLength file.content)
  /-- An item lies in the text, and all that is declared within the span of its parent. -/
  items : ∀ item ∈ (ProgramFile.ofSource file).1.unit.items,
    item.Lies (IsCut file.content) 0 (byteLength file.content)
  /-- An error stands in the text, and so does what it points back at. -/
  errors : ∀ error ∈ (ProgramFile.ofSource file).1.unit.errors,
    error.Lies (IsCut file.content) (byteLength file.content)
  /-- What stands in the text can be cut out of it. -/
  slices : ∀ span : Span, span.Stands (IsCut file.content) (byteLength file.content) →
    span.Slices file.content
  labels : ∀ diagnostic ∈ (ProgramFile.ofSource file).2, ∀ label ∈ diagnostic.labels,
    label.file = some file ∧ label.span.Slices file.content

/-- **All that the tokens and the grammar of a file give stands in its text.** -/
theorem allStands (file : SourceFile) : file.AllStands := by
  obtain ⟨items, errors⟩ := SourceUnit.lie_ofTokens file.content
  have slices (span : Span) (stands : span.Stands (IsCut file.content) (byteLength file.content)) :
      span.Slices file.content := ⟨stands.ordered, stands.slice⟩
  refine ⟨fun _ => TokenList.lies_of_mem, fun _ => TokenList.lies_of_fault,
    TokenList.stands_stop _, items, errors, slices, fun diagnostic member label isLabel => ?_⟩
  rcases List.mem_append.1 member with ofFault | ofError
  · obtain ⟨⟨fault, span⟩, among, rfl⟩ := List.mem_map.1 ofFault
    obtain rfl := List.mem_singleton.1 isLabel
    exact ⟨rfl, slices _ (TokenList.lies_of_fault among).stands⟩
  · obtain ⟨error, among, rfl⟩ := List.mem_map.1 ofError
    have lies := errors error among
    rcases List.mem_cons.1 isLabel with rfl | related
    · exact ⟨rfl, slices _ lies.span⟩
    · obtain ⟨opening, isOpening, rfl⟩ := List.mem_map.1 related
      exact ⟨rfl, slices _ (lies.opening opening (Option.mem_toList.1 isOpening))⟩

end SourceFile

end InjectionCheck
