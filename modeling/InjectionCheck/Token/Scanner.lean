import InjectionCheck.Text.Lines
import InjectionCheck.Token.Kind
import InjectionCheck.Token.Literal

/-!
# Cutting a source into tokens

A source is cut into pieces from left to right. At every place the longest piece
that is something wins: a run of blanks, a comment, a word, a number, a string, a
template, a punctuation mark. What is nothing of these is one character, and a
fault. A comment, string or template that is not closed is a fault too, and
reaches to where the search for its end stops.

Every piece takes at least one character and leaves the rest untouched; both are
part of the type `Piece`, so the pieces of a source follow each other without gap
or overlap.
-/

set_option autoImplicit false

namespace InjectionCheck

/-- Why a piece of a source is no token. -/
inductive Fault where
  /-- A character that starts nothing. -/
  | strayCharacter (c : Char)
  /-- A string without its closing quote on the same line. -/
  | openString
  /-- A template without its closing mark. -/
  | openTemplate
  /-- A block comment without its end. -/
  | openComment
deriving DecidableEq, Repr

namespace Scanner

/-- What a piece of a source is. -/
inductive Content where
  | blank
  | comment
  | token (kind : Kind)
  | fault (fault : Fault)
deriving DecidableEq, Repr

/-- A piece at the start of a text. -/
structure Piece (text : List Char) where
  content : Content
  /-- The characters of the piece. -/
  taken : List Char
  /-- The characters after it. -/
  rest : List Char
  /-- The piece and the rest are the text. -/
  whole : taken ++ rest = text
  /-- A piece is not empty. -/
  nonempty : taken ≠ []

/-- What follows a piece is shorter than the text. -/
theorem Piece.rest_length_lt {text : List Char} (piece : Piece text) :
    piece.rest.length < text.length := by
  have whole := congrArg List.length piece.whole
  have some := List.length_pos_iff.mpr piece.nonempty
  simp only [List.length_append] at whole
  omega

/-- The piece that takes the first `count` characters, and at least one. -/
def cut (first : Char) (others : List Char) (count : Nat) (content : Content) :
    Piece (first :: others) where
  content := content
  taken := first :: others.take (count - 1)
  rest := others.drop (count - 1)
  whole := by simp
  nonempty := by simp

/-! ## Classes of characters -/

/-- Blanks stand between tokens: space, tab, line ends and form feed. -/
def isBlank (c : Char) : Bool :=
  c = ' ' || c = '\t' || c = '\r' || c = '\n' || c = '\x0c'

/-- A decimal digit. -/
def isDigit (c : Char) : Bool := '0' ≤ c && c ≤ '9'

/-- A letter of the alphabet. -/
def isLetter (c : Char) : Bool := ('a' ≤ c && c ≤ 'z') || ('A' ≤ c && c ≤ 'Z')

/-- What a name starts with. -/
def startsWord (c : Char) : Bool := isLetter c || c = '_' || c = '$'

/-- What a name goes on with. -/
def continuesWord (c : Char) : Bool := startsWord c || isDigit c

/-- What a number goes on with: digits, and lines that separate them. -/
def continuesDigits (c : Char) : Bool := isDigit c || c = '_'

/-- What a number with a base mark consists of; the base is not looked at. -/
def continuesBased (c : Char) : Bool :=
  isDigit c || ('a' ≤ c && c ≤ 'f') || ('A' ≤ c && c ≤ 'F') || c = '_'

/-- A letter that marks the base of a number. -/
def marksBase (c : Char) : Bool :=
  c = 'x' || c = 'X' || c = 'o' || c = 'O' || c = 'b' || c = 'B'

/-- The number of leading characters of a class. -/
def runLength (class? : Char → Bool) (text : List Char) : Nat :=
  (text.takeWhile class?).length

/-! ## Numbers -/

/-- The length of an exponent at the start of a text, or zero. -/
def exponentLength : List Char → Nat
  | c :: rest =>
    if c = 'e' ∨ c = 'E' then
      match rest with
      | sign :: digits =>
        if sign = '+' ∨ sign = '-' then
          match runLength isDigit digits with
          | 0 => 0
          | count => 2 + count
        else
          match runLength isDigit rest with
          | 0 => 0
          | count => 1 + count
      | [] => 0
    else 0
  | [] => 0

/-- The length of a point with the digits after it at the start of a text, or
zero: a point without a digit is no fraction. -/
def fractionLength : List Char → Nat
  | '.' :: c :: rest => if isDigit c then 2 + runLength continuesDigits rest else 0
  | _ => 0

/-- The length of the mark of a big number at the start of a text, or zero. -/
def bigMarkLength : List Char → Nat
  | 'n' :: _ => 1
  | _ => 0

/-- The length of a decimal number that starts with a digit. -/
def decimalLength (text : List Char) : Nat :=
  let whole := runLength continuesDigits text
  let fraction := whole + fractionLength (text.drop whole)
  let exponent := fraction + exponentLength (text.drop fraction)
  exponent + bigMarkLength (text.drop exponent)

/-- The length of a number with a base mark, or zero. -/
def basedLength : List Char → Nat
  | '0' :: base :: rest =>
    if marksBase base then
      match runLength continuesBased rest with
      | 0 => 0
      | count => 2 + count + bigMarkLength (rest.drop count)
    else 0
  | _ => 0

/-- The length of a number that starts with a point, or zero. -/
def pointLength (text : List Char) : Nat :=
  match fractionLength text with
  | 0 => 0
  | fraction => fraction + exponentLength (text.drop fraction)

/-! ## Strings, templates and comments -/

/-- The outcome of the search for an end: how many characters are passed, and
whether the end was found. -/
structure Search where
  length : Nat
  found : Bool
deriving DecidableEq, Repr

/-- The search after `count` more characters. -/
def Search.after (search : Search) (count : Nat) : Search :=
  ⟨search.length + count, search.found⟩

/-- The search for the closing quote of a string. A backslash hides the character
after it; a line feed that is not hidden ends the search before it. -/
def stringEnd (quote : Char) : (text : List Char) → (passed : Nat) → Search
  | [], passed => ⟨passed, false⟩
  | ['\\'], passed => ⟨passed + 1, false⟩
  | '\\' :: _ :: rest, passed => stringEnd quote rest (passed + 2)
  | c :: rest, passed =>
    if c = '\n' then ⟨passed, false⟩
    else if c = quote then ⟨passed + 1, true⟩
    else stringEnd quote rest (passed + 1)

/-- The search for the mark that closes a template. Braces are counted from a
dollar sign with a brace on; at depth zero the mark closes. -/
def templateEnd : (text : List Char) → (depth passed : Nat) → Search
  | [], _, passed => ⟨passed, false⟩
  | ['\\'], _, passed => ⟨passed + 1, false⟩
  | '\\' :: _ :: rest, depth, passed => templateEnd rest depth (passed + 2)
  | '$' :: '{' :: rest, 0, passed => templateEnd rest 1 (passed + 2)
  | '\x60' :: _, 0, passed => ⟨passed + 1, true⟩
  | _ :: rest, 0, passed => templateEnd rest 0 (passed + 1)
  | '{' :: rest, depth + 1, passed => templateEnd rest (depth + 2) (passed + 1)
  | '}' :: rest, depth + 1, passed => templateEnd rest depth (passed + 1)
  | _ :: rest, depth + 1, passed => templateEnd rest (depth + 1) (passed + 1)

/-- The search for the end of a block comment. -/
def commentEnd : (text : List Char) → (passed : Nat) → Search
  | [], passed => ⟨passed, false⟩
  | '*' :: '/' :: _, passed => ⟨passed + 2, true⟩
  | _ :: rest, passed => commentEnd rest (passed + 1)

/-! ## One piece -/

/-- A word is reserved or a name. -/
def wordKind (word : List Char) : Kind :=
  match Keyword.ofText? (String.ofList word) with
  | some reserved => .keyword reserved
  | none => .name (String.ofList word)

/-- The spellings of the punctuation marks, longer ones first. -/
def markSpellings : List (List Char × Mark) :=
  Mark.all.map fun mark => (mark.text.toList, mark)

/-- The longest punctuation mark at the start of a text. -/
def longestMark? (text : List Char) : Option (List Char × Mark) :=
  markSpellings.find? fun spelling => spelling.1.isPrefixOf text

/-- What a piece is, and how many characters it has. -/
abbrev Extent := Content × Nat

/-- The string that starts with a quote. -/
def stringExtent (quote : Char) (others : List Char) : Extent :=
  let search := stringEnd quote others 0
  let content :=
    if search.found then
      .token (.string (String.ofList (Literal.decode (others.take (search.length - 1)))))
    else .fault .openString
  (content, search.length + 1)

/-- The template that starts before the given characters. -/
def templateExtent (others : List Char) : Extent :=
  let search := templateEnd others 0 0
  (if search.found then .token .template else .fault .openTemplate, search.length + 1)

/-- The word that starts with a character and goes on with others. -/
def wordExtent (first : Char) (others : List Char) : Extent :=
  let count := 1 + runLength continuesWord others
  (.token (wordKind ((first :: others).take count)), count)

/-- A punctuation mark, or else a stray character. -/
def markExtent (first : Char) (others : List Char) : Extent :=
  match longestMark? (first :: others) with
  | some (spelling, mark) => (.token (.mark mark), spelling.length)
  | none => (.fault (.strayCharacter first), 1)

/-- The comment or mark that starts with a slash. -/
def slashExtent (slash : Char) : List Char → Extent
  | '/' :: line => (.comment, 2 + runLength (· ≠ '\n') line)
  | '*' :: inside =>
    let search := commentEnd inside 0
    (if search.found then .comment else .fault .openComment, search.length + 2)
  | others => markExtent slash others

/-- The number or mark that starts with a point. -/
def pointExtent (point : Char) (others : List Char) : Extent :=
  match pointLength (point :: others) with
  | 0 => markExtent point others
  | count => (.token .number, count)

/-- The private name or stray character that starts with a number sign. -/
def numberSignExtent (sign : Char) : List Char → Extent
  | c :: others =>
    if startsWord c then wordExtent sign (c :: others) else markExtent sign (c :: others)
  | [] => markExtent sign []

/-- The longest piece at the start of a text. -/
def extent (first : Char) (others : List Char) : Extent :=
  if isBlank first then (.blank, 1 + runLength isBlank others)
  else if startsWord first then wordExtent first others
  else if isDigit first then
    (.token .number, max (decimalLength (first :: others)) (basedLength (first :: others)))
  else if first = '"' ∨ first = '\'' then stringExtent first others
  else if first = '\x60' then templateExtent others
  else if first = '/' then slashExtent first others
  else if first = '.' then pointExtent first others
  else if first = '#' then numberSignExtent first others
  else markExtent first others

/-- The longest piece at the start of a text, cut off. -/
def piece (first : Char) (others : List Char) : Piece (first :: others) :=
  let (content, count) := extent first others
  cut first others count content

/-! ## All pieces -/

/-- The faults and tokens of a source, in reverse, with the offset of its end. -/
structure Progress where
  tokens : List Token
  faults : List (Fault × Span)
  offset : Nat

/-- The progress after one more piece. -/
def Progress.add {text : List Char} (progress : Progress) (piece : Piece text) : Progress :=
  let stop := progress.offset + byteLength piece.taken
  let span : Span := ⟨progress.offset, stop⟩
  match piece.content with
  | .blank | .comment => { progress with offset := stop }
  | .token kind => { progress with tokens := ⟨kind, span⟩ :: progress.tokens, offset := stop }
  | .fault fault =>
    ⟨⟨.invalid, span⟩ :: progress.tokens, (fault, span) :: progress.faults, stop⟩

/-- The progress through a whole text. -/
def scan : (text : List Char) → Progress → Progress
  | [], progress => progress
  | first :: others, progress =>
    let piece := piece first others
    scan piece.rest (progress.add piece)
termination_by text => text.length
decreasing_by exact Piece.rest_length_lt _

end Scanner

/-- A source cut into tokens. -/
structure TokenList where
  /-- The tokens, an invalid one for every fault. -/
  tokens : List Token
  /-- The faults in the order of the source. -/
  faults : List (Fault × Span)
  /-- The offset of the end of the source. -/
  length : Nat
deriving DecidableEq, Repr

/-- The tokens and faults of a source. -/
def TokenList.ofText (text : List Char) : TokenList :=
  let progress := Scanner.scan text ⟨[], [], 0⟩
  ⟨progress.tokens.reverse, progress.faults.reverse, progress.offset⟩

/-- The empty span at the end of the source. -/
def TokenList.stop (list : TokenList) : Span := .point list.length

end InjectionCheck
