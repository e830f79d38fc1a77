import InjectionCheck.Diagnostic.Terminal
import InjectionCheck.Proofs.LinePositions
import Mathlib.Data.List.TakeDrop

/-!
# Lines that are underlined

Under a primary label stands the line on which its span starts, and under the line as many marks as
the span has bytes, unless the line ends before. The place of the marks is counted in characters,
and so is what is left of the line. So the marks stand under the characters of the span on this line
exactly, if each of the characters of the span is one byte or the span goes on to the end of the
line, and otherwise there are too many of them (`Terminal.labelText_primary`).
-/

set_option autoImplicit false

namespace InjectionCheck

/-! ## What is shown of a text -/

namespace LineTable

/-- The characters of a part of a text that stand in front of the first line end, where more text
follows behind the part. -/
def shown : List Char → List Char → List Char
  | [], _ => []
  | c :: marked, after =>
    if IsLineEnd c (marked ++ after) then [] else c :: shown marked after

/-- What is shown of a part is the beginning of what is shown of the text. -/
theorem shown_eq_take (marked after : List Char) :
    shown marked after = (shown (marked ++ after) []).take marked.length := by
  induction marked with
  | nil => rfl
  | cons c marked ih =>
    rw [List.cons_append, shown, shown, List.append_nil]
    split
    · rfl
    · rw [ih]
      rfl

/-- **The rest of a line** is what is shown of the text from there. -/
theorem drop_dropReturn (before rest : List Char) :
    (dropReturn (lineHead before ++ lineTail rest)).drop (lineHead before).length =
      shown rest [] := by
  induction rest generalizing before with
  | nil =>
    rw [shown, List.drop_eq_nil_iff]
    apply Nat.le_trans (length_dropReturn_le _)
    simp [lineTail]
  | cons c rest ih =>
    have here := getElem?_dropReturn before c rest
    rw [shown, List.append_nil]
    split
    · next isEnd =>
      rw [if_pos isEnd] at here
      rw [List.drop_eq_nil_iff]
      exact List.getElem?_eq_none_iff.1 here
    · next noEnd =>
      have noFeed : c ≠ '\n' := fun feed => noEnd (.inl feed)
      have further := ih (before ++ [c])
      rw [lineHead_append (by simpa using Ne.symm noFeed), List.length_append, List.append_assoc,
        List.singleton_append, ← lineTail_cons noFeed] at further
      rw [if_neg noEnd] at here
      obtain ⟨inside, isHere⟩ := List.getElem?_eq_some_iff.1 here
      rw [List.drop_eq_getElem_cons inside, isHere]
      exact congrArg (List.cons c) further

end LineTable

/-! ## Labels -/

section Labels

open LineTable

variable {label : Label} {file : SourceFile} {before marked after : List Char}

/-- A label that starts between two characters points at the line and the column there. -/
theorem Label.position?_cut {rest : List Char} (inFile : label.file = some file)
    (fits : byteLength file.content ≤ Span.offsetLimit) (numbered : Numbered before)
    (content : file.content = before ++ rest) (start : label.span.start = byteLength before) :
    label.position? = some ⟨file.path, before.count '\n' + 1, (lineHead before).length + 1,
      some (dropReturn (lineHead before ++ lineTail rest))⟩ := by
  rw [content] at fits
  rw [position?, inFile, Option.map_some, content, start]
  simp only [position_cut fits numbered, lineText_cut fits]

namespace Terminal

/-- What is left of a line, as a number of characters. -/
theorem length_sub_lineHead (before rest : List Char) :
    (dropReturn (lineHead before ++ lineTail rest)).length - (lineHead before).length =
      (shown rest []).length := by
  rw [← drop_dropReturn before rest, List.length_drop]

/-- **There are as many marks as the span has bytes**, within what is left of the line, and one at
least. -/
theorem underlineWidth_cut (before marked after : List Char) :
    underlineWidth ⟨byteLength before, byteLength before + byteLength marked⟩
        ((lineHead before).length + 1)
        (dropReturn (lineHead before ++ lineTail (marked ++ after))).length =
      max 1 (min (byteLength marked) (shown (marked ++ after) []).length) := by
  rw [underlineWidth, Nat.add_sub_cancel, length_sub_lineHead, Span.length,
    Nat.add_sub_cancel_left]
  omega

/-- There are at least as many marks as characters of the span are shown. There are no more exactly
if the span goes on to the end of the line or all its characters are one byte. -/
theorem marks_bounds (marked after : List Char) :
    let count := (shown marked after).length
    let width := max 1 (min (byteLength marked) (shown (marked ++ after) []).length)
    max 1 count ≤ width ∧
      (width = max 1 count ↔
        shown marked after = shown (marked ++ after) [] ∨ ∀ c ∈ marked, c.utf8Size = 1) := by
  intro count width
  have isCount : count = min marked.length (shown (marked ++ after) []).length := by
    change (shown marked after).length = _
    rw [shown_eq_take, List.length_take]
  have more := length_le_byteLength marked
  have none : marked.length = 0 → byteLength marked = 0 := by
    intro empty
    rw [List.length_eq_zero_iff.1 empty]
    rfl
  rw [← byteLength_eq_length_iff, shown_eq_take, List.take_eq_self_iff, isCount]
  omega

/-- **What stands under a primary label** whose span is a part of its file, and starts on a line and
at a column that have numbers: this line, and marks that begin under the first character of the
span, as many as the span has bytes while the line lasts. All characters of the span that are shown
are marked. There are no other marks, one for a span of which nothing is shown apart, exactly if the
span goes on to the end of the line or all its characters are one byte. In no case the marks go on
behind the line. -/
theorem labelText_primary (colors : Bool) (primary : label.isPrimary = true)
    (inFile : label.file = some file) (fits : byteLength file.content ≤ Span.offsetLimit)
    (numbered : Numbered before) (content : file.content = before ++ (marked ++ after))
    (spans : label.span = ⟨byteLength before, byteLength before + byteLength marked⟩) :
    let line := dropReturn (lineHead before ++ lineTail (marked ++ after))
    let number := before.count '\n' + 1
    let column := (lineHead before).length + 1
    let count := (shown marked after).length
    let width := max 1 (min (byteLength marked) (shown (marked ++ after) []).length)
    labelText colors label =
        "  " ++ "-->" ++ " " ++ painted colors .bold s!"{file.path}:{number}:{column}" ++ ": " ++
          painted colors .error label.message ++ "\n" ++
        ("   " ++ repeated ' ' (toString number).length ++ " |\n" ++
          "   " ++ toString number ++ " | " ++ String.ofList line ++ "\n" ++
          "   " ++ repeated ' ' (toString number).length ++ " | " ++ repeated ' ' (column - 1) ++
          painted colors .error (repeated '^' width) ++ "\n") ∧
      shown marked after <+: line.drop (column - 1) ∧ max 1 count ≤ width ∧
      (width = max 1 count ↔
        shown marked after = shown (marked ++ after) [] ∨ ∀ c ∈ marked, c.utf8Size = 1) ∧
      column - 1 + width ≤ max column line.length := by
  intro line number column count width
  have position : label.position? = some ⟨file.path, number, column, some line⟩ :=
    Label.position?_cut inFile fits numbered content (by rw [spans])
  have isWidth : underlineWidth label.span column line.length = width := by
    rw [spans]
    exact underlineWidth_cut before marked after
  have rest : line.drop (column - 1) = shown (marked ++ after) [] :=
    drop_dropReturn before (marked ++ after)
  have bounds := marks_bounds marked after
  refine ⟨?_, ?_, bounds.1, bounds.2, ?_⟩
  · clear_value line number column width
    have marker : label.marker = "-->" := by rw [Label.marker, if_pos primary]
    have paint : labelPaint label = .error := by rw [labelPaint, if_pos primary]
    rw [labelText, position]
    dsimp only
    rw [if_pos primary, marker, paint]
    unfold snippet
    simp only [paint, isWidth]
  · rw [rest, shown_eq_take]
    exact List.take_prefix _ _
  · have left : line.length - (lineHead before).length = (shown (marked ++ after) []).length :=
      length_sub_lineHead before (marked ++ after)
    change (lineHead before).length + 1 - 1 + max 1 (min _ _) ≤
      max ((lineHead before).length + 1) line.length
    omega

/-- A name behind a wide character has a mark for each of its characters. -/
theorem labelText_primary_name :
    let label : Label :=
      ⟨⟨11, 13⟩, "declared here", true, some ⟨"a.ts", "const é = xy;\n".toList⟩⟩
    labelText false label =
      "  " ++ "-->" ++ " " ++ painted false .bold "a.ts:1:11" ++ ": " ++
        painted false .error "declared here" ++ "\n" ++
      ("   " ++ repeated ' ' 1 ++ " |\n" ++ "   " ++ "1" ++ " | " ++ "const é = xy;" ++ "\n" ++
        "   " ++ repeated ' ' 1 ++ " | " ++ repeated ' ' 10 ++
        painted false .error (repeated '^' 2) ++ "\n") := by
  intro label
  have content : "const é = xy;\n".toList =
      "const é = ".toList ++ ("xy".toList ++ ";\n".toList) := by decide +kernel
  have spans : label.span = ⟨byteLength "const é = ".toList,
      byteLength "const é = ".toList + byteLength "xy".toList⟩ := by decide +kernel
  have marks : max 1 (min (byteLength "xy".toList)
      (shown ("xy".toList ++ ";\n".toList) []).length) = 2 := by decide +kernel
  obtain ⟨text, _⟩ := labelText_primary false rfl rfl (by decide +kernel) (by decide +kernel)
    content spans
  rw [marks] at text
  exact text

/-- One wide character has two marks. -/
theorem wide_character_marked_twice :
    let marked := "é".toList
    let after := " = x;".toList
    let label : Label := ⟨⟨6, 8⟩, "here", true, some ⟨"a.ts", "const é = x;".toList⟩⟩
    label.span = ⟨byteLength "const ".toList, byteLength "const ".toList + byteLength marked⟩ ∧
      "const é = x;".toList = "const ".toList ++ (marked ++ after) ∧
      (shown marked after).length = 1 ∧
      labelText false label =
        "  --> a.ts:1:7: here\n" ++ "     |\n" ++ "   1 | const é = x;\n" ++
          "     |       ^^\n" := by
  decide +kernel

end Terminal

end Labels

end InjectionCheck
