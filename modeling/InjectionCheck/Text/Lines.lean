import InjectionCheck.Text.Span

/-!
# Lines and columns

Diagnostics speak of lines and columns, and spans of byte offsets. A line table
lists the offset at which every line of a text starts. A line ends with a line
feed; a carriage return before it belongs to the line end and is not part of the
line's text.

Lines and columns count from one, and columns count characters. The column of an
offset inside a character is one: an offset names a column only when it stands
between two characters. Both are numbers of 32 bits, and a text of as many bytes as
the greatest offset may have a line or a column without a number.
-/

set_option autoImplicit false

namespace InjectionCheck

/-- The characters that start at or after a byte offset, when the offset stands
between two characters or at the end. -/
def dropBytes : List Char → Nat → Option (List Char)
  | rest, 0 => some rest
  | [], _ + 1 => none
  | c :: rest, offset + 1 =>
    if c.utf8Size ≤ offset + 1 then dropBytes rest (offset + 1 - c.utf8Size) else none

/-- The characters before a byte offset, when the offset stands between two
characters or at the end. -/
def takeBytes : List Char → Nat → Option (List Char) :=
  go []
where
  /-- The characters already passed are kept in reverse. -/
  go (passed : List Char) : List Char → Nat → Option (List Char)
    | _, 0 => some passed.reverse
    | [], _ + 1 => none
    | c :: rest, offset + 1 =>
      if c.utf8Size ≤ offset + 1 then go (c :: passed) rest (offset + 1 - c.utf8Size) else none

/-- The characters between two byte offsets, when the offsets are in order and
both stand between characters. -/
def sliceBytes (text : List Char) (start stop : Nat) : Option (List Char) :=
  if start ≤ stop then (dropBytes text start).bind (takeBytes · (stop - start)) else none

/-- The number of bytes of a text. -/
def byteLength (text : List Char) : Nat :=
  text.foldl (fun total c => total + c.utf8Size) 0

/-! ## Numbers of 32 bits -/

namespace LineTable

/-- A sum of 32 bits: what exceeds the greatest offset starts over with zero. A program that checks
its sums does not go on there. -/
def wrapped (sum : Nat) : Nat := sum % (Span.offsetLimit + 1)

/-- The number of an index, where counting starts with one. An index beyond the greatest offset
counts as the one before it, so that there is a number left for it; the greatest offset itself has
none, and its number is zero. -/
def ordinal (index : Nat) : Nat :=
  wrapped ((if index ≤ Span.offsetLimit then index else Span.offsetLimit - 1) + 1)

/-- The index of a number, where counting starts with one. -/
def indexOf (number : Nat) : Nat := wrapped (number + Span.offsetLimit)

theorem ordinal_of_lt {index : Nat} (inside : index < Span.offsetLimit) :
    ordinal index = index + 1 := by
  rw [ordinal, if_pos (Nat.le_of_lt inside), wrapped, Nat.mod_eq_of_lt (Nat.succ_lt_succ inside)]

theorem indexOf_ordinal {index : Nat} (inside : index ≤ Span.offsetLimit) :
    indexOf (ordinal index) = index := by
  rcases Nat.lt_or_eq_of_le inside with less | rfl
  · rw [ordinal_of_lt less, indexOf, wrapped, Nat.add_assoc, Nat.add_comm 1, Nat.add_mod_right,
      Nat.mod_eq_of_lt (Nat.lt_succ_of_lt less)]
  · rfl

/-! ## Where lines start -/

/-- The starts of the lines that follow a line feed of `text`, whose first
character has the given offset. A start beyond the greatest offset counts as the
greatest offset. -/
def startsAfter : (text : List Char) → (offset : Nat) → List Nat :=
  go []
where
  /-- The starts already found are kept in reverse. -/
  go (found : List Nat) : List Char → Nat → List Nat
    | [], _ => found.reverse
    | c :: rest, offset =>
      let next := offset + c.utf8Size
      go (if c = '\n' then min next Span.offsetLimit :: found else found) rest next

theorem go_startsAfter (found : List Nat) (text : List Char) (offset : Nat) :
    startsAfter.go found text offset = found.reverse ++ startsAfter text offset := by
  induction text generalizing found offset with
  | nil => exact (List.append_nil _).symm
  | cons c text ih =>
    rw [startsAfter, startsAfter.go, startsAfter.go, ih, ih (if c = '\n' then _ else _)]
    split <;> simp

theorem startsAfter_cons (c : Char) (text : List Char) (offset : Nat) :
    startsAfter (c :: text) offset =
      (if c = '\n' then [min (offset + c.utf8Size) Span.offsetLimit] else []) ++
        startsAfter text (offset + c.utf8Size) := by
  rw [startsAfter, startsAfter.go, go_startsAfter]
  split <;> rfl

/-- No line starts before the text in which it is looked for. -/
theorem le_of_mem_startsAfter {text : List Char} {offset start : Nat}
    (inside : start ∈ startsAfter text offset) : min offset Span.offsetLimit ≤ start := by
  induction text generalizing offset with
  | nil => cases inside
  | cons c text ih =>
    rw [startsAfter_cons, List.mem_append] at inside
    rcases inside with here | later
    · split at here
      · have isHere := List.mem_singleton.1 here
        omega
      · cases here
    · have bound := ih later
      omega

/-- Lines are found in the order of their starts. -/
theorem sorted_startsAfter (text : List Char) (offset : Nat) :
    (startsAfter text offset).Pairwise (· ≤ ·) := by
  induction text generalizing offset with
  | nil => exact .nil
  | cons c text ih =>
    rw [startsAfter_cons]
    split
    · exact .cons (fun start inside => le_of_mem_startsAfter inside) (ih _)
    · exact ih _

end LineTable

/-- The offsets at which the lines of a text start. -/
structure LineTable where
  starts : Array Nat
  /-- The offsets are in order, -/
  sorted : starts.toList.Pairwise (· ≤ ·)
  /-- and the first one is zero. -/
  first : starts[0]? = some 0
deriving DecidableEq, Repr

namespace LineTable

theorem sorted_starts (text : List Char) :
    (0 :: startsAfter text 0).toArray.toList.Pairwise (· ≤ ·) :=
  .cons (fun start _ => Nat.zero_le start) (sorted_startsAfter text 0)

theorem first_starts (text : List Char) : (0 :: startsAfter text 0).toArray[0]? = some 0 := rfl

/-- The line table of a text. -/
def ofText (text : List Char) : LineTable :=
  ⟨(0 :: startsAfter text 0).toArray, sorted_starts text, first_starts text⟩

/-- The number of lines; a text that ends with a line feed has an empty last line. -/
def lineCount (table : LineTable) : Nat := table.starts.size

/-! ## The line of an offset -/

/-- Where a search for an offset ends. -/
inductive Slot where
  /-- The offset stands at an index. -/
  | found (index : Nat)
  /-- The offset is missing, and belongs in front of what stands at an index. -/
  | missing (index : Nat)
deriving DecidableEq, Repr

/-- Searches for an offset between two indices. -/
def search (starts : Array Nat) (offset left right : Nat) : Slot :=
  if left < right then
    let middle := left + (right - left) / 2
    let start := starts.getD middle 0
    if start < offset then search starts offset (middle + 1) right
    else if offset < start then search starts offset left middle
    else .found middle
  else .missing left
termination_by right - left

/-- The index of the line of an offset: the one that starts there, or else the last one that starts
before. -/
def lineIndex (table : LineTable) (offset : Nat) : Nat :=
  match search table.starts offset 0 table.starts.size with
  | .found index => index
  | .missing index => index - 1

/-- The line of an offset. -/
def lineAt (table : LineTable) (offset : Nat) : Nat := ordinal (table.lineIndex offset)

/-- The line and the column of an offset in the text of the table; an offset past
the end counts as the end. -/
def position (table : LineTable) (text : List Char) (offset : Nat) : Nat × Nat :=
  let line := table.lineAt offset
  let lineStart := table.starts.getD (indexOf line) 0
  let stop := min offset (byteLength text)
  (line, ordinal (((sliceBytes text lineStart stop).map List.length).getD 0))

/-- A line's text without a carriage return at its end. -/
def dropReturn (line : List Char) : List Char :=
  if line.getLast? = some '\r' then line.dropLast else line

/-- The text of a line, without its line end. -/
def lineText (table : LineTable) (text : List Char) : Nat → Option (List Char)
  | 0 => none
  | index + 1 =>
    (table.starts[index]?).bind fun start =>
      let stop :=
        match table.starts[index + 1]? with
        | some next => next - 1
        | none => byteLength text
      (sliceBytes text start stop).map dropReturn

end LineTable

/-- The line and the column at which a span starts. -/
def Span.startPosition (span : Span) (text : List Char) : Nat × Nat :=
  (LineTable.ofText text).position text span.start

end InjectionCheck
