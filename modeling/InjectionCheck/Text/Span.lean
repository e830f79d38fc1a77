/-!
# Spans of source text

A span is a half-open range of byte offsets into one source text. Spans never
carry the text itself: a location that has to survive outside its file is paired
with the file it points into.

Offsets are natural numbers. The offsets a file may use are bounded
(`Span.offsetLimit`), and `Span.ofRange` refuses a range beyond the bound. The scanner
counts its offsets without asking `Span.ofRange`: it stands for the program on texts within
the bound, where no span is refused (`TokenList.ofRange_withEnd`). On longer texts the program
stops, whatever they hold.
-/

set_option autoImplicit false

namespace InjectionCheck

/-- A half-open range of byte offsets. -/
structure Span where
  /-- The offset of the first byte. -/
  start : Nat
  /-- The offset just past the last byte. -/
  stop : Nat
deriving DecidableEq, Repr, Inhabited, Hashable

/-- Why a range of offsets is no span. -/
inductive SpanError where
  /-- The start exceeds the greatest offset. -/
  | startTooLarge (offset : Nat)
  /-- The start fits and the end exceeds the greatest offset. -/
  | stopTooLarge (offset : Nat)
deriving DecidableEq, Repr

/-- The wording of a refused range. -/
def SpanError.message : SpanError → String
  | .startTooLarge offset => s!"span start {offset} exceeds u32::MAX"
  | .stopTooLarge offset => s!"span end {offset} exceeds u32::MAX"

namespace Span

/-- The greatest offset a span may use. -/
def offsetLimit : Nat := 4294967295

/-- The span of a range of offsets; the start is examined first. -/
def ofRange (start stop : Nat) : Except SpanError Span :=
  if offsetLimit < start then .error (.startTooLarge start)
  else if offsetLimit < stop then .error (.stopTooLarge stop)
  else .ok ⟨start, stop⟩

/-- The empty span at the start of a text. -/
def origin : Span := ⟨0, 0⟩

/-- The empty span at an offset. -/
def point (offset : Nat) : Span := ⟨offset, offset⟩

/-- The number of bytes a span covers. -/
def length (span : Span) : Nat := span.stop - span.start

/-- A span is empty when it ends where it starts. -/
def isEmpty (span : Span) : Bool := span.start == span.stop

/-- Whether an offset lies in the span. -/
def contains (span : Span) (offset : Nat) : Bool :=
  span.start ≤ offset && offset < span.stop

/-- The least span that covers two spans. -/
def merge (first second : Span) : Span :=
  ⟨min first.start second.start, max first.stop second.stop⟩

/-- Spans are ordered by their start, and by their end among equal starts. -/
instance : Ord Span where
  compare first second :=
    (compare first.start second.start).then (compare first.stop second.stop)

/-- A span is written as its two offsets with two points between them. -/
instance : ToString Span where
  toString span := s!"{span.start}..{span.stop}"

end Span

end InjectionCheck
