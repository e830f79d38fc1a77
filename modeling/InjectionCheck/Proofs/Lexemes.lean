import InjectionCheck.Proofs.SpansOfTexts

/-!
# The lexemes of a text

A text is cut into pieces from left to right. Blanks and comments leave nothing. Every other piece
is a lexeme, a token or a fault, with its characters (`Scanner.lexemes`).

The tokens of a text are those of its lexemes (`TokenList.kinds_ofText`), so are its faults
(`TokenList.faults_ofText`), and the characters of a lexeme are what stands at the span of its
token (`TokenList.slices_ofText`).
-/

set_option autoImplicit false

namespace InjectionCheck

namespace Scanner

/-- A piece that is neither blank nor a comment. -/
structure Lexeme where
  content : Content
  taken : List Char
deriving DecidableEq, Repr

/-- The kind of the token that a piece makes. A fault makes an invalid one. -/
def Content.kind : Content → Kind
  | .token made => made
  | _ => .invalid

/-- The fault that a piece is, if it is one. -/
def Content.fault? : Content → Option Fault
  | .fault found => some found
  | _ => none

/-- The kind of the token of a lexeme. -/
def Lexeme.kind (lexeme : Lexeme) : Kind := lexeme.content.kind

/-- The fault of a lexeme, if it is one. -/
def Lexeme.fault? (lexeme : Lexeme) : Option Fault := lexeme.content.fault?

/-- The lexeme that some characters are, if they are one. -/
def Content.lexeme? (taken : List Char) : Content → Option Lexeme
  | .blank | .comment => none
  | content => some ⟨content, taken⟩

/-- The lexeme that a piece is, if it is one. -/
def Piece.lexeme? {text : List Char} (piece : Piece text) : Option Lexeme :=
  piece.content.lexeme? piece.taken

/-- The lexemes of a text, from left to right. -/
def lexemes : List Char → List Lexeme
  | [] => []
  | first :: others =>
    let piece := piece first others
    piece.lexeme?.toList ++ lexemes piece.rest
termination_by text => text.length
decreasing_by exact Piece.rest_length_lt _

@[simp]
theorem lexemes_nil : lexemes [] = [] := by rw [lexemes]

theorem lexemes_cons (first : Char) (others : List Char) :
    lexemes (first :: others) =
      (piece first others).lexeme?.toList ++ lexemes (piece first others).rest := by
  rw [lexemes]

/-- What is cut off at the start of a text is its first lexeme, or leaves nothing. -/
theorem lexemes_of_extent {first : Char} {others : List Char} {content : Content} {count : Nat}
    (isPiece : extent first others = (content, count)) :
    lexemes (first :: others) =
      (content.lexeme? (first :: others.take (count - 1))).toList ++
        lexemes (others.drop (count - 1)) := by
  rw [lexemes_cons, Piece.lexeme?, content_piece, taken_piece, rest_piece, isPiece]

/-- The same where the cut is known. -/
theorem lexemes_append {first : Char} {others rest : List Char} {content : Content} {count : Nat}
    (isPiece : extent first (others ++ rest) = (content, count))
    (whole : others.length = count - 1) :
    lexemes (first :: (others ++ rest)) =
      (content.lexeme? (first :: others)).toList ++ lexemes rest := by
  rw [lexemes_of_extent isPiece, ← whole, List.take_left, List.drop_left]

/-- Blanks at the start of a text leave nothing. -/
theorem lexemes_dropWhile (text : List Char) :
    lexemes (text.dropWhile isBlank) = lexemes text := by
  cases text with
  | nil => rfl
  | cons c others =>
      rw [List.dropWhile_cons]
      split
      · next blank =>
        have isPiece : extent c others = (.blank, 1 + runLength isBlank others) := if_pos blank
        rw [lexemes_of_extent isPiece, Nat.add_sub_cancel_left, drop_runLength]
        rfl
      · rfl

theorem lexemes_blank {c : Char} (blank : isBlank c = true) (rest : List Char) :
    lexemes (c :: rest) = lexemes rest := by
  rw [← lexemes_dropWhile, List.dropWhile_cons_of_pos blank, lexemes_dropWhile]

/-- A line reaches to the first line feed. -/
theorem runLength_line {line rest : List Char} (inLine : '\n' ∉ line)
    (ends : ∀ c ∈ rest.head?, c = '\n') : runLength (· ≠ '\n') (line ++ rest) = line.length := by
  have all : ∀ c ∈ line, decide (c ≠ '\n') = true := by
    intro c inside
    simpa using fun same : c = '\n' => inLine (same ▸ inside)
  rw [runLength, List.takeWhile_append_of_pos all]
  cases rest with
  | nil => simp
  | cons c rest => simp [ends c rfl]

/-- A piece makes a token exactly where it is a lexeme. -/
theorem Piece.map_kind_token? {text : List Char} (piece : Piece text) (offset : Nat) :
    (piece.token? offset).toList.map Token.kind = piece.lexeme?.toList.map Lexeme.kind := by
  unfold token? lexeme? Content.lexeme?
  cases piece.content <;> rfl

theorem kinds_tokensAfter (offset : Nat) (text : List Char) :
    (tokensAfter offset text).map Token.kind = (lexemes text).map Lexeme.kind := by
  cases text with
  | nil => rw [tokensAfter_nil, lexemes_nil, List.map_nil, List.map_nil]
  | cons first others =>
      rw [tokensAfter_cons, lexemes_cons, List.map_append, List.map_append,
        Piece.map_kind_token?, kinds_tokensAfter]
termination_by text.length
decreasing_by exact Piece.rest_length_lt _

/-- Progress goes on by the fault of a piece. -/
theorem faults_add {text : List Char} (progress : Progress) (piece : Piece text) :
    (progress.add piece).faults.map Prod.fst =
      piece.lexeme?.toList.filterMap Lexeme.fault? ++ progress.faults.map Prod.fst := by
  unfold Progress.add Piece.lexeme? Content.lexeme?
  cases piece.content <;> rfl

theorem faults_scan (text : List Char) (progress : Progress) :
    (scan text progress).faults.map Prod.fst =
      ((lexemes text).filterMap Lexeme.fault?).reverse ++ progress.faults.map Prod.fst := by
  cases text with
  | nil => rw [scan, lexemes_nil, List.filterMap_nil, List.reverse_nil, List.nil_append]
  | cons first others =>
      rw [scan, faults_scan, faults_add, lexemes_cons, List.filterMap_append, List.reverse_append,
        List.append_assoc]
      congr 2
      -- A piece has one fault at most.
      cases (piece first others).lexeme? with
      | none => rfl
      | some lexeme =>
          rw [Option.toList_some, List.filterMap_cons]
          cases lexeme.fault? <;> rfl
termination_by text.length
decreasing_by exact Piece.rest_length_lt _

theorem slices_tokensAfter (before text : List Char) :
    (tokensAfter (byteLength before) text).map
        (fun token => sliceBytes (before ++ text) token.span.start token.span.stop) =
      (lexemes text).map fun lexeme => some lexeme.taken := by
  cases text with
  | nil => rw [tokensAfter_nil, lexemes_nil, List.map_nil, List.map_nil]
  | cons first others =>
      have whole := (piece first others).whole
      have later := slices_tokensAfter (before ++ (piece first others).taken)
        (piece first others).rest
      rw [List.append_assoc, whole, byteLength_append] at later
      rw [tokensAfter_cons, lexemes_cons, List.map_append, List.map_append, later]
      congr 1
      have slice := sliceBytes_append before (piece first others).taken (piece first others).rest
      rw [whole] at slice
      unfold Piece.token? Piece.lexeme? Content.lexeme?
      cases (piece first others).content with
      | blank | comment => rfl
      | token kind | fault fault => exact congrArg (fun slice => [slice]) slice
termination_by text.length
decreasing_by exact Piece.rest_length_lt _

end Scanner

namespace TokenList

open Scanner (lexemes Lexeme)

variable (text : List Char)

/-- The kinds of the tokens of a text are those of its lexemes. -/
theorem kinds_ofText : (ofText text).tokens.map Token.kind = (lexemes text).map Lexeme.kind := by
  rw [tokens_ofText, Scanner.kinds_tokensAfter]

/-- The faults of a text are those of its lexemes. -/
theorem faults_ofText :
    (ofText text).faults.map Prod.fst = (lexemes text).filterMap Lexeme.fault? := by
  unfold ofText
  dsimp only
  rw [List.map_reverse, Scanner.faults_scan, List.map_nil, List.append_nil, List.reverse_reverse]

/-- At the span of a token stand the characters of its lexeme. -/
theorem slices_ofText :
    (ofText text).tokens.map (fun token => sliceBytes text token.span.start token.span.stop) =
      (lexemes text).map fun lexeme => some lexeme.taken := by
  have slices := Scanner.slices_tokensAfter [] text
  rw [tokens_ofText]
  exact slices

end TokenList

end InjectionCheck
