import InjectionCheck.Token.Scanner
import Mathlib.Data.List.Basic

/-!
# The tokens of a text from left to right

The scanner collects the tokens of a text in reverse. The same tokens come piece by piece from
left to right (`Scanner.tokensAfter`, `TokenList.tokens_ofText`), and each of them starts after
the one before (`TokenList.sorted_ofText`).
-/

set_option autoImplicit false

namespace InjectionCheck

/-! ## Numbers of bytes -/

theorem foldl_utf8Size (text : List Char) (total : Nat) :
    text.foldl (fun total c => total + c.utf8Size) total = total + byteLength text := by
  unfold byteLength
  induction text generalizing total with
  | nil => rfl
  | cons c text ih => rw [List.foldl_cons, List.foldl_cons, ih, ih (0 + _)]; omega

@[simp]
theorem byteLength_nil : byteLength [] = 0 := rfl

@[simp]
theorem byteLength_cons (c : Char) (text : List Char) :
    byteLength (c :: text) = c.utf8Size + byteLength text := by
  rw [byteLength, List.foldl_cons, foldl_utf8Size, Nat.zero_add]

@[simp]
theorem byteLength_append (first second : List Char) :
    byteLength (first ++ second) = byteLength first + byteLength second := by
  rw [byteLength, List.foldl_append, foldl_utf8Size]
  rfl

theorem byteLength_pos {text : List Char} (nonempty : text ≠ []) : 0 < byteLength text := by
  cases text with
  | nil => exact absurd rfl nonempty
  | cons c text =>
      rw [byteLength_cons]
      exact Nat.add_pos_left c.utf8Size_pos _

namespace Scanner

/-! ## One piece after another -/

theorem taken_piece (first : Char) (others : List Char) :
    (piece first others).taken = first :: others.take ((extent first others).2 - 1) :=
  rfl

theorem rest_piece (first : Char) (others : List Char) :
    (piece first others).rest = others.drop ((extent first others).2 - 1) :=
  rfl

theorem content_piece (first : Char) (others : List Char) :
    (piece first others).content = (extent first others).1 :=
  rfl

/-- The token that a piece makes at an offset, if it makes one. -/
def Piece.token? {text : List Char} (piece : Piece text) (offset : Nat) : Option Token :=
  let span : Span := ⟨offset, offset + byteLength piece.taken⟩
  match piece.content with
  | .blank | .comment => none
  | .token kind => some ⟨kind, span⟩
  | .fault _ => some ⟨.invalid, span⟩

/-- The tokens of a text that starts at an offset. -/
def tokensAfter (offset : Nat) : List Char → List Token
  | [] => []
  | first :: others =>
    let piece := piece first others
    (piece.token? offset).toList ++ tokensAfter (offset + byteLength piece.taken) piece.rest
termination_by text => text.length
decreasing_by exact Piece.rest_length_lt _

theorem tokensAfter_nil (offset : Nat) : tokensAfter offset [] = [] := by
  rw [tokensAfter]

theorem tokensAfter_cons (offset : Nat) (first : Char) (others : List Char) :
    tokensAfter offset (first :: others) =
      ((piece first others).token? offset).toList ++
        tokensAfter (offset + byteLength (piece first others).taken) (piece first others).rest := by
  rw [tokensAfter]

theorem Piece.span_of_token {text : List Char} {piece : Piece text} {offset : Nat} {token : Token}
    (made : piece.token? offset = some token) :
    token.span = ⟨offset, offset + byteLength piece.taken⟩ := by
  unfold token? at made
  split at made <;> cases made <;> rfl

theorem Piece.byteLength_taken_pos {text : List Char} (piece : Piece text) :
    0 < byteLength piece.taken :=
  byteLength_pos piece.nonempty

/-- Progress goes on by the token of a piece and by its bytes. -/
theorem tokens_add {text : List Char} (progress : Progress) (piece : Piece text) :
    (progress.add piece).tokens = (piece.token? progress.offset).toList ++ progress.tokens := by
  unfold Progress.add Piece.token?
  cases piece.content <;> rfl

theorem offset_add {text : List Char} (progress : Progress) (piece : Piece text) :
    (progress.add piece).offset = progress.offset + byteLength piece.taken := by
  unfold Progress.add
  split <;> rfl

theorem tokens_scan (text : List Char) (progress : Progress) :
    (scan text progress).tokens =
      (tokensAfter progress.offset text).reverse ++ progress.tokens := by
  cases text with
  | nil => rw [scan, tokensAfter_nil, List.reverse_nil, List.nil_append]
  | cons first others =>
      rw [scan, tokens_scan, offset_add, tokens_add, tokensAfter_cons, List.reverse_append,
        List.append_assoc]
      cases (piece first others).token? progress.offset <;> rfl
termination_by text.length
decreasing_by exact Piece.rest_length_lt _

theorem offset_scan (text : List Char) (progress : Progress) :
    (scan text progress).offset = progress.offset + byteLength text := by
  cases text with
  | nil => rw [scan, byteLength_nil, Nat.add_zero]
  | cons first others =>
      rw [scan, offset_scan, offset_add, Nat.add_assoc, ← byteLength_append,
        (piece first others).whole]
termination_by text.length
decreasing_by exact Piece.rest_length_lt _

/-! ## Places of tokens -/

theorem le_start_of_mem {text : List Char} {offset : Nat} {token : Token}
    (inside : token ∈ tokensAfter offset text) : offset ≤ token.span.start := by
  cases text with
  | nil =>
      rw [tokensAfter_nil] at inside
      cases inside
  | cons first others =>
      rw [tokensAfter_cons, List.mem_append] at inside
      rcases inside with here | later
      · have stands := Piece.span_of_token (Option.mem_toList.1 here)
        exact Nat.le_of_eq (congrArg Span.start stands).symm
      · exact Nat.le_trans (Nat.le_add_right _ _) (le_start_of_mem later)
termination_by text.length
decreasing_by subst_vars; exact Piece.rest_length_lt _

theorem sorted_tokensAfter (offset : Nat) (text : List Char) :
    ((tokensAfter offset text).map (·.span.start)).Pairwise (· < ·) := by
  cases text with
  | nil =>
      rw [tokensAfter_nil]
      exact .nil
  | cons first others =>
      have later := sorted_tokensAfter (offset + byteLength (piece first others).taken)
        (piece first others).rest
      rw [tokensAfter_cons]
      cases made : (piece first others).token? offset with
      | none => exact later
      | some token =>
          refine List.pairwise_cons.2 ⟨fun start inside => ?_, later⟩
          obtain ⟨other, isLater, rfl⟩ := List.mem_map.1 inside
          have positive := (piece first others).byteLength_taken_pos
          have after := le_start_of_mem isLater
          have stands : token.span.start = offset := congrArg Span.start (Piece.span_of_token made)
          dsimp only
          omega
termination_by text.length
decreasing_by exact Piece.rest_length_lt _

end Scanner

namespace TokenList

variable (text : List Char)

theorem tokens_ofText : (ofText text).tokens = Scanner.tokensAfter 0 text := by
  unfold ofText
  dsimp only
  rw [Scanner.tokens_scan, List.append_nil, List.reverse_reverse]

theorem length_ofText : (ofText text).length = byteLength text := by
  unfold ofText
  dsimp only
  rw [Scanner.offset_scan, Nat.zero_add]

/-- **The tokens of a text start at increasing places.** -/
theorem sorted_ofText : ((ofText text).tokens.map (·.span.start)).Pairwise (· < ·) := by
  rw [tokens_ofText]
  exact Scanner.sorted_tokensAfter 0 text

end TokenList

end InjectionCheck
