import InjectionCheck.Grammar.Cursor
import InjectionCheck.Proofs.LocalPieces
import Mathlib.Data.List.TakeWhile

/-!
# How tokens tile a text

The tokens of a text, and the empty span at its end, follow each other without overlap, and
nothing but blanks and complete comments lies between them (`TokenList.tiles_ofText`). A token
is invalid exactly if a fault is reported at its place. In a text within the bound on offsets all
of these spans are ones that `Span.ofRange` gives (`TokenList.ofRange_withEnd`).

This is true piece by piece: every piece that makes no token is a run of blanks or a complete
comment (`Scanner.gap_of_token?_none`), and a byte outside of all tokens lies in such a piece
(`Scanner.exists_gap`).
-/

set_option autoImplicit false

namespace InjectionCheck

namespace Scanner

/-! ## Between the tokens -/

/-- A line comment reaches to the end of its line. -/
def IsLineComment (taken rest : List Char) : Prop :=
  ∃ line, taken = '/' :: '/' :: line ∧ '\n' ∉ line ∧ ∀ c ∈ rest.head?, c = '\n'

/-- A complete block comment reaches to the first mark that closes it. -/
def IsBlockComment (taken : List Char) : Prop :=
  ∃ inside, taken = '/' :: '*' :: inside ++ ['*', '/'] ∧ ¬ ['*', '/'] <:+: inside ++ ['*']

/-- What may stand between tokens, before some rest of the text. -/
def IsGap (taken rest : List Char) : Prop :=
  (∀ c ∈ taken, isBlank c) ∨ IsLineComment taken rest ∨ IsBlockComment taken

/-- The search for the end of a comment finds the first mark that closes it. -/
theorem commentEnd_found {text : List Char} {passed : Nat}
    (found : (commentEnd text passed).found) :
    ∃ inside rest, text = inside ++ '*' :: '/' :: rest ∧
      (commentEnd text passed).length = passed + inside.length + 2 ∧
      ¬ ['*', '/'] <:+: inside ++ ['*'] := by
  induction text generalizing passed with
  | nil => exact absurd found (by simp [commentEnd])
  | cons c text ih =>
      rw [commentEnd_cons] at found ⊢
      split at found
      · next closes =>
        obtain ⟨rfl, first⟩ := closes
        obtain ⟨rest, rfl⟩ := List.head?_eq_some_iff.mp first
        exact ⟨[], rest, rfl, by simp, by decide⟩
      · next further =>
        obtain ⟨inside, rest, rfl, length, first⟩ := ih found
        refine ⟨c :: inside, rest, rfl, ?_, ?_⟩
        · rw [if_neg further, length, List.length_cons]
          omega
        · intro closed
          rw [List.cons_append, List.infix_cons_iff] at closed
          obtain front | later := closed
          · refine further ?_
            obtain ⟨rfl, slash⟩ := List.cons_prefix_cons.mp front
            cases inside with
            | nil => exact absurd (List.cons_prefix_cons.mp slash).1 (by decide)
            | cons d inside => exact ⟨rfl, congrArg some (List.cons_prefix_cons.mp slash).1.symm⟩
          · exact first later

theorem take_runLength (class? : Char → Bool) (text : List Char) :
    text.take (runLength class? text) = text.takeWhile class? :=
  (List.prefix_iff_eq_take.mp (List.takeWhile_prefix _)).symm

theorem drop_runLength (class? : Char → Bool) (text : List Char) :
    text.drop (runLength class? text) = text.dropWhile class? := by
  conv_lhs => arg 2; rw [← text.takeWhile_append_dropWhile (p := class?)]
  exact List.drop_left

/-! ## What a piece can be -/

/-- What makes a token: a fault, or a token that is not marked as invalid. -/
def Content.MakesToken : Content → Prop
  | .blank | .comment => False
  | .token kind => kind ≠ .invalid
  | .fault _ => True

theorem makesToken_word (word : List Char) : (Content.token (wordKind word)).MakesToken := by
  show wordKind word ≠ .invalid
  unfold wordKind
  split <;> simp

theorem makesToken_markExtent (first : Char) (others : List Char) :
    (markExtent first others).1.MakesToken := by
  unfold markExtent
  split
  · exact Kind.noConfusion
  · trivial

theorem makesToken_stringExtent (quote : Char) (others : List Char) :
    (stringExtent quote others).1.MakesToken := by
  unfold stringExtent
  dsimp only
  split
  · exact Kind.noConfusion
  · trivial

theorem makesToken_templateExtent (others : List Char) :
    (templateExtent others).1.MakesToken := by
  unfold templateExtent
  dsimp only
  split
  · exact Kind.noConfusion
  · trivial

theorem makesToken_pointExtent (point : Char) (others : List Char) :
    (pointExtent point others).1.MakesToken := by
  unfold pointExtent
  split
  · exact makesToken_markExtent point others
  · exact Kind.noConfusion

theorem makesToken_numberSignExtent (sign : Char) (others : List Char) :
    (numberSignExtent sign others).1.MakesToken := by
  unfold numberSignExtent
  split
  · split
    · exact makesToken_word _
    · exact makesToken_markExtent _ _
  · exact makesToken_markExtent _ _

/-- After a slash comes a line comment, a block comment, or something that makes a token. -/
theorem slashExtent_cases (slash : Char) (others : List Char) :
    (∃ line, others = '/' :: line ∧
      slashExtent slash others = (.comment, 2 + runLength (· ≠ '\n') line)) ∨
    (∃ inside, others = '*' :: inside ∧ (commentEnd inside 0).found ∧
      slashExtent slash others = (.comment, (commentEnd inside 0).length + 2)) ∨
    (slashExtent slash others).1.MakesToken := by
  unfold slashExtent
  split
  · next line => exact .inl ⟨line, rfl, rfl⟩
  · next inside =>
    dsimp only
    split
    · next found => exact .inr (.inl ⟨inside, rfl, found, rfl⟩)
    · exact .inr (.inr trivial)
  · exact .inr (.inr (makesToken_markExtent _ _))

/-- A piece is a run of blanks, a comment, or something that makes a token. -/
theorem extent_cases (first : Char) (others : List Char) :
    (isBlank first ∧ extent first others = (.blank, 1 + runLength isBlank others)) ∨
    (first = '/' ∧ ∃ line, others = '/' :: line ∧
      extent first others = (.comment, 2 + runLength (· ≠ '\n') line)) ∨
    (first = '/' ∧ ∃ inside, others = '*' :: inside ∧ (commentEnd inside 0).found ∧
      extent first others = (.comment, (commentEnd inside 0).length + 2)) ∨
    (extent first others).1.MakesToken := by
  unfold extent
  split_ifs with blank word number string template slash point sign
  · exact .inl ⟨blank, rfl⟩
  · exact .inr (.inr (.inr (makesToken_word _)))
  · exact .inr (.inr (.inr Kind.noConfusion))
  · exact .inr (.inr (.inr (makesToken_stringExtent _ _)))
  · exact .inr (.inr (.inr (makesToken_templateExtent _)))
  · obtain line | block | token := slashExtent_cases first others
    · exact .inr (.inl ⟨slash, line⟩)
    · exact .inr (.inr (.inl ⟨slash, block⟩))
    · exact .inr (.inr (.inr token))
  · exact .inr (.inr (.inr (makesToken_pointExtent _ _)))
  · exact .inr (.inr (.inr (makesToken_numberSignExtent _ _)))
  · exact .inr (.inr (.inr (makesToken_markExtent _ _)))

/-- Only a fault makes an invalid token. -/
theorem content_ne_invalid (first : Char) (others : List Char) :
    (piece first others).content ≠ .token .invalid := by
  rw [content_piece]
  obtain ⟨-, known⟩ | ⟨-, line, -, known⟩ | ⟨-, inside, -, -, known⟩ | makes :=
    extent_cases first others
  · simp [known]
  · simp [known]
  · simp [known]
  · intro invalid
    rw [invalid] at makes
    exact makes rfl

theorem token?_of_makesToken {text : List Char} {piece : Piece text} (offset : Nat)
    (makes : piece.content.MakesToken) : piece.token? offset ≠ none := by
  unfold Piece.token?
  cases content : piece.content with
  | blank | comment => simp [content, Content.MakesToken] at makes
  | token kind | fault fault => simp

/-- What a piece takes that makes no token is a run of blanks or a complete comment. -/
theorem isGap_piece {first : Char} {others : List Char} {offset : Nat}
    (silent : (piece first others).token? offset = none) :
    IsGap (piece first others).taken (piece first others).rest := by
  obtain ⟨blank, known⟩ | ⟨rfl, line, rfl, known⟩ | ⟨rfl, inside, rfl, found, known⟩ | makes :=
    extent_cases first others
  · left
    intro c member
    rw [taken_piece, known, Nat.add_sub_cancel_left, take_runLength] at member
    obtain rfl | member := List.mem_cons.mp member
    · exact blank
    · exact List.mem_takeWhile_imp member
  · right; left
    have count : 2 + runLength (· ≠ '\n') line - 1 = runLength (· ≠ '\n') line + 1 := by omega
    rw [taken_piece, rest_piece, known, count, List.take_succ_cons, List.drop_succ_cons,
      take_runLength, drop_runLength]
    refine ⟨_, rfl, fun member => ?_, fun c first => ?_⟩
    · simpa using List.mem_takeWhile_imp member
    · have stops := List.head?_dropWhile_not (fun c => decide (c ≠ '\n')) line
      rw [Option.mem_def.mp first] at stops
      simpa using stops
  · right; right
    obtain ⟨body, rest, rfl, length, unclosed⟩ := commentEnd_found found
    refine ⟨body, ?_, unclosed⟩
    have count : (commentEnd (body ++ '*' :: '/' :: rest) 0).length + 2 - 1 =
        (body ++ ['*', '/']).length + 1 := by
      simp only [length, List.length_append, List.length_cons, List.length_nil]
      omega
    have parts : body ++ '*' :: '/' :: rest = (body ++ ['*', '/']) ++ rest := by simp
    rw [taken_piece, known, count, List.take_succ_cons, parts, List.take_left]
    rfl
  · exact absurd silent (token?_of_makesToken offset makes)

/-! ## Along the text -/

/-- The places of the faults are the places of the invalid tokens. -/
def Progress.Matched (progress : Progress) : Prop :=
  progress.faults.map Prod.snd =
    (progress.tokens.filter (·.kind = .invalid)).map Token.span

theorem Progress.Matched.add {progress : Progress} (matched : progress.Matched) (first : Char)
    (others : List Char) : (progress.add (piece first others)).Matched := by
  have valid := content_ne_invalid first others
  unfold Matched Progress.add at *
  dsimp only
  cases content : (piece first others).content with
  | blank | comment => exact matched
  | token kind =>
      rw [content, ne_eq, Content.token.injEq] at valid
      rw [List.filter_cons_of_neg (by simpa using valid)]
      exact matched
  | fault fault =>
      rw [List.filter_cons_of_pos (by simp), List.map_cons, List.map_cons, matched]

theorem Progress.Matched.scan {progress : Progress} (matched : progress.Matched)
    (text : List Char) : (scan text progress).Matched := by
  cases text with
  | nil => rwa [Scanner.scan]
  | cons first others =>
      rw [Scanner.scan]
      exact (matched.add first others).scan _
termination_by text.length
decreasing_by exact Piece.rest_length_lt _

theorem stop_le_of_mem {text : List Char} {offset : Nat} {token : Token}
    (inside : token ∈ tokensAfter offset text) :
    token.span.start < token.span.stop ∧ token.span.stop ≤ offset + byteLength text := by
  cases text with
  | nil =>
      rw [tokensAfter_nil] at inside
      cases inside
  | cons first others =>
      have whole := congrArg byteLength (piece first others).whole
      rw [byteLength_append] at whole
      rw [tokensAfter_cons, List.mem_append] at inside
      rcases inside with here | later
      · have positive := (piece first others).byteLength_taken_pos
        rw [Piece.span_of_token (Option.mem_toList.1 here)]
        dsimp only
        omega
      · have := stop_le_of_mem later
        omega
termination_by text.length
decreasing_by subst_vars; exact Piece.rest_length_lt _

/-- A token ends before the next one starts. -/
theorem apart_tokensAfter (offset : Nat) (text : List Char) :
    (tokensAfter offset text).Pairwise fun first second =>
      first.span.stop ≤ second.span.start := by
  cases text with
  | nil =>
      rw [tokensAfter_nil]
      exact .nil
  | cons first others =>
      have later := apart_tokensAfter (offset + byteLength (piece first others).taken)
        (piece first others).rest
      rw [tokensAfter_cons]
      cases made : (piece first others).token? offset with
      | none => exact later
      | some token =>
          refine List.pairwise_cons.2 ⟨fun other isLater => ?_, later⟩
          rw [Piece.span_of_token made]
          exact le_start_of_mem isLater
termination_by text.length
decreasing_by exact Piece.rest_length_lt _

/-- **A byte outside of all tokens** lies in a run of blanks or in a complete comment, and the
whole of it lies outside of all tokens. -/
theorem exists_gap {text : List Char} {offset byte : Nat} (after : offset ≤ byte)
    (inside : byte < offset + byteLength text)
    (outside : ∀ token ∈ tokensAfter offset text, token.span.contains byte = false) :
    ∃ before gap rest, text = before ++ (gap ++ rest) ∧ IsGap gap rest ∧
      offset + byteLength before ≤ byte ∧ byte < offset + byteLength (before ++ gap) ∧
      ∀ token ∈ tokensAfter offset text, token.span.stop ≤ offset + byteLength before ∨
        offset + byteLength (before ++ gap) ≤ token.span.start := by
  cases text with
  | nil => exact absurd inside (by simp; omega)
  | cons first others =>
      have whole := (piece first others).whole
      have bytes := congrArg byteLength whole
      rw [byteLength_append] at bytes
      rw [tokensAfter_cons] at outside ⊢
      by_cases here : byte < offset + byteLength (piece first others).taken
      · cases made : (piece first others).token? offset with
        | some token =>
            have span := Piece.span_of_token made
            have covers := outside token (by simp [made])
            rw [span] at covers
            simp [Span.contains] at covers
            omega
        | none =>
            refine ⟨[], _, _, by rw [List.nil_append, whole], isGap_piece made, after, here, ?_⟩
            intro token isLater
            exact .inr (le_start_of_mem isLater)
      · obtain ⟨before, gap, rest, rest_eq, isGap, starts, ends, apart⟩ :=
          exists_gap (by omega) (by omega)
            fun token isLater => outside token (List.mem_append_right _ isLater)
        refine ⟨(piece first others).taken ++ before, gap, rest, ?_, isGap, ?_, ?_, ?_⟩
        · rw [List.append_assoc, ← rest_eq, whole]
        · rw [byteLength_append]; omega
        · rw [List.append_assoc, byteLength_append]; omega
        · intro token member
          rw [List.append_assoc, byteLength_append, byteLength_append (piece first others).taken]
          obtain front | isLater := List.mem_append.mp member
          · have span := Piece.span_of_token (Option.mem_toList.1 front)
            left
            rw [span]
            dsimp only
            omega
          · have := apart token isLater
            omega
termination_by text.length
decreasing_by subst_vars; exact Piece.rest_length_lt _

end Scanner

/-! ## The tiling -/

namespace TokenList

/-- The tokens by their kinds and places, and after them the end, which has no kind. -/
def withEnd (list : TokenList) : List (Option Kind × Span) :=
  list.tokens.map (fun token => (some token.kind, token.span)) ++ [(none, list.stop)]

/-- The grammar sees the tokens and the end: at every position the kind and the span that a
cursor shows are an entry of this list. -/
theorem getElem?_withEnd (list : TokenList) {position : Nat}
    (inside : position ≤ list.tokens.length) :
    let cursor := (Cursor.start list.tokens list.stop).moveTo position
    list.withEnd[position]? = some (cursor.kind?, cursor.span) := by
  have ahead : ((Cursor.start list.tokens list.stop).moveTo position).ahead.head? =
      list.tokens[position]? := by
    simp [Cursor.start, Cursor.moveTo]
  unfold withEnd Cursor.kind? Cursor.span
  dsimp only
  rw [ahead, List.getElem?_append]
  obtain less | same := inside.lt_or_eq
  · rw [if_pos (by simpa using less)]
    simp [less]
  · subst same
    simp [Cursor.start, Cursor.moveTo]

/-- The tokens of a text tile it. -/
structure Tiles (list : TokenList) (text : List Char) : Prop where
  /-- The end, and nothing else, has no kind; it is the empty span at the end of the text.
  All other spans have bytes. -/
  closed : ∃ front, list.withEnd = front ++ [(none, .point (byteLength text))] ∧
    ∀ entry ∈ front, entry.1 ≠ none ∧ entry.2.start < entry.2.stop
  /-- The spans increase and do not overlap. -/
  apart : (list.withEnd.map Prod.snd).Pairwise fun first second =>
    first.start < second.start ∧ first.stop ≤ second.start
  /-- Each byte outside of all spans lies in a run of blanks or in a complete comment, all of
  whose bytes lie outside of all spans. -/
  gaps : ∀ byte < byteLength text,
    (∀ entry ∈ list.withEnd, entry.2.contains byte = false) →
    ∃ before gap rest, text = before ++ (gap ++ rest) ∧ Scanner.IsGap gap rest ∧
      byteLength before ≤ byte ∧ byte < byteLength (before ++ gap) ∧
      ∀ entry ∈ list.withEnd,
        entry.2.stop ≤ byteLength before ∨ byteLength (before ++ gap) ≤ entry.2.start
  /-- The faults are those of the invalid tokens, in the order of the text. -/
  faults : list.faults.map Prod.snd = (list.tokens.filter (·.kind = .invalid)).map Token.span

/-- **Cutting a text into tokens tiles it.** -/
theorem tiles_ofText (text : List Char) : (ofText text).Tiles text := by
  have tokens := tokens_ofText text
  have length := length_ofText text
  refine ⟨?_, ?_, ?_, ?_⟩
  · refine ⟨_, by rw [withEnd, stop, length], fun entry member => ?_⟩
    obtain ⟨token, isToken, rfl⟩ := List.mem_map.mp member
    rw [tokens] at isToken
    exact ⟨by simp, (Scanner.stop_le_of_mem isToken).1⟩
  · rw [withEnd, List.map_append, List.map_map, stop, length, tokens]
    refine List.pairwise_append.mpr ⟨?_, List.pairwise_singleton _ _, ?_⟩
    · refine List.pairwise_map.mpr ?_
      refine (Scanner.apart_tokensAfter 0 text).imp_of_mem fun {first second} isFirst _ apart => ?_
      exact ⟨(Scanner.stop_le_of_mem isFirst).1.trans_le apart, apart⟩
    · intro span isSpan last isLast
      obtain ⟨token, isToken, rfl⟩ := List.mem_map.mp isSpan
      obtain rfl := List.mem_singleton.mp isLast
      have bounds := Scanner.stop_le_of_mem isToken
      rw [Nat.zero_add] at bounds
      exact ⟨bounds.1.trans_le bounds.2, bounds.2⟩
  · intro byte inside outside
    have uncovered : ∀ token ∈ Scanner.tokensAfter 0 text, token.span.contains byte = false :=
      fun token isToken => outside (some token.kind, token.span) (by
        rw [withEnd, tokens]
        exact List.mem_append_left _ (List.mem_map_of_mem isToken))
    obtain ⟨before, gap, rest, text_eq, isGap, starts, ends, apart⟩ :=
      Scanner.exists_gap (Nat.zero_le byte) (by rwa [Nat.zero_add]) uncovered
    simp only [Nat.zero_add] at starts ends apart
    refine ⟨before, gap, rest, text_eq, isGap, starts, ends, fun entry member => ?_⟩
    rw [withEnd, tokens, stop, length, List.mem_append, List.mem_singleton] at member
    obtain isToken | rfl := member
    · obtain ⟨token, isMember, rfl⟩ := List.mem_map.mp isToken
      exact apart token isMember
    · right
      rw [text_eq, ← List.append_assoc, byteLength_append (before ++ gap)]
      exact Nat.le_add_right _ _
  · have start : Scanner.Progress.Matched ⟨[], [], 0⟩ := rfl
    have matched := start.scan text
    unfold ofText
    dsimp only
    rw [List.map_reverse, matched, List.filter_reverse, List.map_reverse]

/-- **In a text within the bound on offsets no span is refused**: every token has the span that its
range of offsets gives, and so has the end. -/
theorem ofRange_withEnd {text : List Char} (fits : byteLength text ≤ Span.offsetLimit)
    {entry : Option Kind × Span} (isEntry : entry ∈ (ofText text).withEnd) :
    Span.ofRange entry.2.start entry.2.stop = .ok entry.2 := by
  have bounds : entry.2.start ≤ entry.2.stop ∧ entry.2.stop ≤ byteLength text := by
    rw [withEnd, tokens_ofText, stop, length_ofText, List.mem_append, List.mem_singleton] at isEntry
    obtain isToken | rfl := isEntry
    · obtain ⟨token, isMember, rfl⟩ := List.mem_map.mp isToken
      obtain ⟨order, inside⟩ := Scanner.stop_le_of_mem isMember
      exact ⟨order.le, by rwa [Nat.zero_add] at inside⟩
    · exact ⟨le_rfl, le_rfl⟩
  rw [Span.ofRange, if_neg (by omega), if_neg (by omega)]

end TokenList

end InjectionCheck
