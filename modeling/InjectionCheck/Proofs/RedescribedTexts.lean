import InjectionCheck.Proofs.LocalPieces
import InjectionCheck.Proofs.ParallelRules

/-!
# Texts with other strings at some places

Two texts may differ in what is written between the quotes of some strings
(`Redescribed`), where each string takes as many bytes as the other one. If the strings that
differ are tokens of the first text, the tokens of the texts are alike, and those that differ
stand at the places of these strings (`Redescribed.alike_tokensAfter`).
-/

set_option autoImplicit false

namespace InjectionCheck

open Scanner

/-- Between two quotes a body is a whole string: the search for the closing quote finds the
one after the body. -/
def Scanner.Closes (quote : Char) (body : List Char) : Prop :=
  stringEnd quote (body ++ [quote]) 0 = ⟨body.length + 1, true⟩

instance (quote : Char) (body : List Char) : Decidable (Closes quote body) :=
  inferInstanceAs (Decidable (_ = _))

/-- Texts from an offset on that differ at most in the bodies of strings at some places. -/
inductive Redescribed (places : List Span) : Nat → List Char → List Char → Prop where
  | done (offset : Nat) : Redescribed places offset [] []
  | keep {offset : Nat} (c : Char) {rest rest' : List Char}
    (others : Redescribed places (offset + c.utf8Size) rest rest') :
    Redescribed places offset (c :: rest) (c :: rest')
  | replace {offset : Nat} {quote : Char} (isMark : isQuote quote = true)
    {body body' : List Char} (closes : Closes quote body) (closes' : Closes quote body')
    (sameLength : byteLength body = byteLength body')
    (isPlace : ⟨offset, offset + byteLength (quote :: (body ++ [quote]))⟩ ∈ places)
    {rest rest' : List Char}
    (others : Redescribed places (offset + byteLength (quote :: (body ++ [quote]))) rest rest') :
    Redescribed places offset (quote :: (body ++ quote :: rest)) (quote :: (body' ++ quote :: rest'))

/-! ## Strings as pieces -/

namespace Scanner

/-- A closing quote that is found is found whatever follows it. -/
theorem stringEnd_append {quote : Char} {text : List Char} {passed length : Nat}
    (found : stringEnd quote text passed = ⟨length, true⟩) (further : List Char) :
    stringEnd quote (text ++ further) passed = ⟨length, true⟩ := by
  match text with
  | [] => cases found
  | c :: text =>
      rw [stringEnd_cons] at found
      rw [List.cons_append, stringEnd_cons]
      by_cases escape : c = '\\'
      · rw [if_pos escape] at found ⊢
        cases text with
        | nil => cases found
        | cons hidden text => exact stringEnd_append found further
      · rw [if_neg escape] at found ⊢
        split at found
        · cases found
        · next line =>
          rw [if_neg line]
          split at found
          · next closes => rw [if_pos closes, found]
          · next other =>
            rw [if_neg other]
            exact stringEnd_append found further

theorem extent_of_isQuote {quote : Char} (isMark : isQuote quote = true) (others : List Char) :
    extent quote others = stringExtent quote others := by
  rcases eq_of_isQuote isMark with rfl | rfl <;> rfl

variable {quote : Char} {body : List Char} (isMark : isQuote quote = true)
  (closes : Closes quote body) (rest : List Char)

include isMark closes

/-- A string is one piece. -/
theorem extent_string :
    extent quote (body ++ quote :: rest) =
      (.token (.string (String.ofList (Literal.decode body))), body.length + 2) := by
  have found : stringEnd quote (body ++ quote :: rest) 0 = ⟨body.length + 1, true⟩ := by
    have whole := stringEnd_append closes rest
    rwa [List.append_assoc, List.singleton_append] at whole
  rw [extent_of_isQuote isMark, stringExtent]
  simp [found]

theorem taken_string : (piece quote (body ++ quote :: rest)).taken = quote :: (body ++ [quote]) := by
  rw [taken_piece, extent_string isMark closes, List.append_cons, List.take_left' (by simp)]

theorem rest_string : (piece quote (body ++ quote :: rest)).rest = rest := by
  rw [rest_piece, extent_string isMark closes]
  simp

theorem token?_string (offset : Nat) :
    (piece quote (body ++ quote :: rest)).token? offset =
      some ⟨.string (String.ofList (Literal.decode body)),
        ⟨offset, offset + byteLength (quote :: (body ++ [quote]))⟩⟩ := by
  rw [Piece.token?, taken_string isMark closes, content_piece, extent_string isMark closes]

end Scanner

/-! ## Texts with other strings -/

namespace Redescribed

variable {places : List Span} {offset : Nat} {text text' : List Char}

theorem refl (places : List Span) (offset : Nat) (text : List Char) :
    Redescribed places offset text text := by
  induction text generalizing offset with
  | nil => exact .done offset
  | cons c text ih => exact .keep c (ih _)

/-- Texts may start with the same characters. -/
theorem prepend (common : List Char) {rest rest' : List Char}
    (redescribed : Redescribed places (offset + byteLength common) rest rest') :
    Redescribed places offset (common ++ rest) (common ++ rest') := by
  induction common generalizing offset with
  | nil => exact redescribed
  | cons c common ih =>
      rw [byteLength_cons, ← Nat.add_assoc] at redescribed
      exact .keep c (ih redescribed)

theorem byteLength_eq (redescribed : Redescribed places offset text text') :
    byteLength text = byteLength text' := by
  induction redescribed with
  | done => rfl
  | keep c _ ih => rw [byteLength_cons, byteLength_cons, ih]
  | replace _ _ _ sameLength _ _ ih => simp [sameLength, ih]

/-- Up to the first string that differs the texts are the same. -/
theorem exists_meet (redescribed : Redescribed places offset text text') :
    ∃ common rest rest', text = common ++ rest ∧ text' = common ++ rest' ∧ Meet rest rest' := by
  induction redescribed with
  | done => exact ⟨[], [], [], rfl, rfl, .nil⟩
  | keep c _ ih =>
      obtain ⟨common, rest, rest', rfl, rfl, meet⟩ := ih
      exact ⟨c :: common, rest, rest', rfl, rfl, meet⟩
  | replace isMark => exact ⟨[], _, _, rfl, rfl, .quote isMark _ _⟩

/-- Where no string differs that starts among some characters, these are the same. -/
theorem split (redescribed : Redescribed places offset text text') {count : Nat}
    (outside : ∀ place ∈ places, offset ≤ place.start →
      offset + byteLength (text.take count) ≤ place.start) :
    text'.take count = text.take count ∧
      Redescribed places (offset + byteLength (text.take count)) (text.drop count)
        (text'.drop count) := by
  induction count generalizing offset text text' with
  | zero => exact ⟨rfl, redescribed⟩
  | succ count ih =>
      cases redescribed with
      | done => exact ⟨rfl, .done _⟩
      | @keep _ c rest rest' others =>
          rw [List.take_succ_cons, byteLength_cons, ← Nat.add_assoc] at outside
          have later : ∀ place ∈ places, offset + c.utf8Size ≤ place.start →
              offset + c.utf8Size + byteLength (rest.take count) ≤ place.start :=
            fun place isPlace after => outside place isPlace (by omega)
          obtain ⟨same, further⟩ := ih others later
          rw [List.take_succ_cons, List.take_succ_cons, same, byteLength_cons, ← Nat.add_assoc]
          exact ⟨rfl, further⟩
      | @replace _ quote _ body body' _ _ _ isPlace rest rest' _ =>
          have passed := outside _ isPlace (Nat.le_refl _)
          have positive := quote.utf8Size_pos
          rw [List.take_succ_cons, byteLength_cons] at passed
          dsimp only at passed
          omega

/-- A piece that starts with no string that differs is the same in both texts. -/
theorem piece_keep {first : Char} {others others' : List Char}
    (redescribed : Redescribed places (offset + first.utf8Size) others others')
    (outside : ∀ place ∈ places, offset + first.utf8Size ≤ place.start →
      offset + byteLength (piece first others).taken ≤ place.start) :
    (piece first others').content = (piece first others).content ∧
      (piece first others').taken = (piece first others).taken ∧
      Redescribed places (offset + byteLength (piece first others).taken) (piece first others).rest
        (piece first others').rest := by
  rw [taken_piece, byteLength_cons, ← Nat.add_assoc] at outside
  obtain ⟨sameTaken, further⟩ := redescribed.split outside
  obtain ⟨common, rest, rest', isRest, isRest', meet⟩ := further.exists_meet
  have isOthers : others = (others.take ((extent first others).2 - 1) ++ common) ++ rest := by
    rw [List.append_assoc, ← isRest, List.take_append_drop]
  have isOthers' : others' = (others.take ((extent first others).2 - 1) ++ common) ++ rest' := by
    rw [List.append_assoc, ← isRest', ← sameTaken, List.take_append_drop]
  have sameExtent : extent first others' = extent first others := by
    by_cases none : others.drop ((extent first others).2 - 1) = []
    · rw [none, eq_comm, List.append_eq_nil_iff] at isRest
      cases meet with
      | nil => rw [isOthers', ← isOthers]
      | quote => cases isRest.2
    · have inside : (extent first others).2 - 1 ≤ others.length := by
        rw [List.drop_eq_nil_iff] at none
        omega
      rw [isOthers', extent_congr meet, ← isOthers]
      rw [← isOthers, List.length_append, List.length_take_of_le inside]
      omega
  rw [content_piece, content_piece, taken_piece, taken_piece, rest_piece, rest_piece, sameExtent,
    sameTaken, byteLength_cons, ← Nat.add_assoc]
  exact ⟨rfl, rfl, further⟩

/-- Tokens of two texts that are alike, where those that differ are at some places. -/
abbrev TokensAlike (places : List Span) (tokens tokens' : List Token) : Prop :=
  List.Forall₂ (fun token token' => token.Alike token' ∧ (token = token' ∨ token.span ∈ places))
    tokens tokens'

/-- **Only strings at the places differ.** If the places are those of tokens of the first text,
the tokens of both texts are alike, and those that differ are at the places. -/
theorem alike_tokensAfter {offset : Nat} {text text' : List Char}
    (redescribed : Redescribed places offset text text')
    (tokens : ∀ place ∈ places, offset ≤ place.start →
      ∃ token ∈ tokensAfter offset text, token.span = place) :
    TokensAlike places (tokensAfter offset text) (tokensAfter offset text') := by
  cases text with
  | nil =>
      cases redescribed with
      | done =>
          rw [tokensAfter_nil]
          exact .nil
  | cons first others =>
  have shorter := (piece first others).rest_length_lt
  have positive := (piece first others).byteLength_taken_pos
  have afterFirst : ∀ place ∈ places, offset < place.start →
      ∃ token ∈ tokensAfter (offset + byteLength (piece first others).taken)
        (piece first others).rest, token.span = place := by
    intro place isPlace after
    obtain ⟨token, inside, stands⟩ := tokens place isPlace (Nat.le_of_lt after)
    rw [tokensAfter_cons, List.mem_append] at inside
    refine ⟨token, inside.resolve_left fun here => ?_, stands⟩
    have start := Piece.span_of_token (Option.mem_toList.1 here)
    rw [← stands, start] at after
    exact Nat.lt_irrefl _ after
  have later : ∀ place ∈ places, offset + byteLength (piece first others).taken ≤ place.start →
      ∃ token ∈ tokensAfter (offset + byteLength (piece first others).taken)
        (piece first others).rest, token.span = place :=
    fun place isPlace after => afterFirst place isPlace (by omega)
  cases redescribed with
  | @keep _ _ _ others' redescribed =>
      have outside : ∀ place ∈ places, offset + first.utf8Size ≤ place.start →
          offset + byteLength (piece first others).taken ≤ place.start := by
        intro place isPlace after
        have width := first.utf8Size_pos
        obtain ⟨token, inside, rfl⟩ := afterFirst place isPlace (by omega)
        exact le_start_of_mem inside
      obtain ⟨content, taken, further⟩ := piece_keep redescribed outside
      have sameToken : (piece first others').token? offset = (piece first others).token? offset := by
        rw [Piece.token?, Piece.token?, content, taken]
      rw [tokensAfter_cons, tokensAfter_cons, sameToken, taken]
      have rest := alike_tokensAfter further later
      cases (piece first others).token? offset with
      | none => exact rest
      | some token => exact .cons ⟨.same token, .inl rfl⟩ rest
  | @replace _ _ isMark body body' closes closes' sameLength isPlace rest rest' further =>
      have sameBytes : byteLength (first :: (body' ++ [first])) =
          byteLength (first :: (body ++ [first])) := by simp [sameLength]
      rw [taken_string isMark closes, rest_string isMark closes] at later
      rw [rest_string isMark closes] at shorter
      rw [tokensAfter_cons, tokensAfter_cons, token?_string isMark closes,
        token?_string isMark closes', taken_string isMark closes, taken_string isMark closes',
        rest_string isMark closes, rest_string isMark closes', sameBytes]
      exact .cons ⟨.string _ _ _, .inr isPlace⟩ (alike_tokensAfter further later)
termination_by text.length

end Redescribed

end InjectionCheck
