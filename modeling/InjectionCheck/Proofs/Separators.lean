import InjectionCheck.Proofs.BlankBoundaries
import InjectionCheck.Proofs.Lexemes
import InjectionCheck.Proofs.Tiling

/-!
# Tokens are read alike between all separators

A separator starts with a blank and goes on with blanks and complete comments
(`Scanner.IsSeparator`). Where the tokens of a text without faults are written one after another
with separators in front of, between and behind them, they are cut out again, and there is no
fault (`TokenList.ofText_woven`).

A filler leaves nothing, whatever follows it (`Scanner.lexemes_filler`), and the blank that a
separator starts with ends the token in front of it.
-/

set_option autoImplicit false

namespace InjectionCheck

namespace Scanner

/-! ## Fillers -/

/-- Blanks, complete block comments, and line comments with the line feed that ends them. -/
inductive Filler : List Char → Prop where
  | nil : Filler []
  | blank {c : Char} {filler : List Char} (isBlank : isBlank c = true) (more : Filler filler) :
    Filler (c :: filler)
  | line {line filler : List Char} (inLine : '\n' ∉ line) (more : Filler filler) :
    Filler ('/' :: '/' :: line ++ '\n' :: filler)
  | block {comment filler : List Char} (isComment : IsBlockComment comment) (more : Filler filler) :
    Filler (comment ++ filler)

theorem lexemes_lineComment {line : List Char} (inLine : '\n' ∉ line) (rest : List Char) :
    lexemes ('/' :: '/' :: (line ++ '\n' :: rest)) = lexemes ('\n' :: rest) := by
  have whole : runLength (· ≠ '\n') (line ++ '\n' :: rest) = line.length :=
    runLength_line inLine fun _ isFirst => (Option.some.inj isFirst).symm
  have isPiece : extent '/' ('/' :: line ++ '\n' :: rest) = (.comment, line.length + 2) := by
    rw [List.cons_append, extent_lineComment, whole, Nat.add_comm]
  exact lexemes_append isPiece rfl

/-- The search for the end of a block comment stops at the first mark that closes it. -/
theorem commentEnd_append {inside : List Char} (first : ¬ ['*', '/'] <:+: inside ++ ['*'])
    (rest : List Char) (passed : Nat) :
    commentEnd (inside ++ '*' :: '/' :: rest) passed = ⟨passed + inside.length + 2, true⟩ := by
  induction inside generalizing passed with
  | nil => rfl
  | cons c inside ih =>
      have further : ¬(c = '*' ∧ (inside ++ '*' :: '/' :: rest).head? = some '/') := by
        rintro ⟨rfl, slash⟩
        cases inside with
        | nil => cases slash
        | cons d inside =>
            cases slash
            exact first ⟨[], inside ++ ['*'], rfl⟩
      have later : ¬ ['*', '/'] <:+: inside ++ ['*'] := fun closed =>
        first (closed.trans (List.suffix_cons _ _).isInfix)
      rw [List.cons_append, commentEnd_cons, if_neg further, ih later, List.length_cons]
      congr 1
      omega

theorem lexemes_blockComment {comment : List Char} (isComment : IsBlockComment comment)
    (rest : List Char) : lexemes (comment ++ rest) = lexemes rest := by
  obtain ⟨inside, rfl, first⟩ := isComment
  have closed := commentEnd_append first rest 0
  have isPiece : extent '/' ('*' :: inside ++ ['*', '/'] ++ rest) =
      (.comment, inside.length + 4) := by
    rw [List.append_assoc, List.cons_append, extent_blockComment]
    simp [closed]
  exact lexemes_append isPiece (by simp)

/-- **A filler leaves nothing.** -/
theorem lexemes_filler {filler : List Char} (isFiller : Filler filler) (rest : List Char) :
    lexemes (filler ++ rest) = lexemes rest := by
  induction isFiller with
  | nil => rfl
  | blank isBlank _ ih => rw [List.cons_append, lexemes_blank isBlank, ih]
  | line inLine _ ih =>
      rw [List.append_assoc, List.cons_append, List.cons_append, List.cons_append,
        lexemes_lineComment inLine, lexemes_blank (by decide), ih]
  | block isComment _ ih => rw [List.append_assoc, lexemes_blockComment isComment, ih]

/-! ## Separators -/

/-- A filler that starts with a blank. -/
def IsSeparator (text : List Char) : Prop :=
  ∃ c filler, text = c :: filler ∧ isBlank c = true ∧ Filler filler

theorem IsSeparator.filler {separator : List Char} (isSeparator : IsSeparator separator) :
    Filler separator := by
  obtain ⟨c, filler, rfl, blank, more⟩ := isSeparator
  exact .blank blank more

theorem IsSeparator.startsBlank {separator : List Char} (isSeparator : IsSeparator separator)
    (rest : List Char) : StartsBlank (separator ++ rest) := by
  obtain ⟨c, filler, rfl, blank, more⟩ := isSeparator
  intro d isFirst
  cases isFirst
  exact blank

/-- Slices of a text with separators in front of them, and more separators at the end. -/
def woven : (separators slices : List (List Char)) → List Char
  | separator :: separators, slice :: slices => separator ++ (slice ++ woven separators slices)
  | separators, _ => separators.flatten

/-! ## Lexemes in front of blanks -/

/-- A lexeme is cut off as it is in front of whatever starts with a blank. -/
def Lexeme.Apart (lexeme : Lexeme) : Prop :=
  ∀ ⦃rest : List Char⦄, StartsBlank rest → lexemes (lexeme.taken ++ rest) = lexeme :: lexemes rest

/-- A lexeme that is a token is cut off as it is in front of blanks. -/
theorem apart_of_mem {text : List Char} {lexeme : Lexeme} (among : lexeme ∈ lexemes text)
    (faultless : lexeme.fault? = none) : lexeme.Apart := by
  match text with
  | [] =>
      rw [lexemes_nil] at among
      cases among
  | first :: others =>
      rw [lexemes_cons, List.mem_append, Option.mem_toList] at among
      obtain isPiece | later := among
      · rw [Piece.lexeme?, content_piece, taken_piece] at isPiece
        generalize isExtent : extent first others = found at isPiece
        obtain ⟨content, count⟩ := found
        have fits := extent_le first others
        rw [isExtent] at fits
        have whole : (others.take (count - 1)).length = count - 1 := by
          rw [List.length_take]
          omega
        cases content with
        | blank | comment => cases isPiece
        | fault fault =>
            cases isPiece
            cases faultless
        | token kind =>
            cases isPiece
            intro rest blank
            rw [← others.take_append_drop (count - 1)] at isExtent
            have same := extent_cut_of_token (by rw [isExtent]) blank (by rw [isExtent]; omega)
            rw [isExtent] at same
            exact lexemes_append same whole
      · exact apart_of_mem later faultless
termination_by text.length
decreasing_by exact Piece.rest_length_lt _

/-- **Lexemes that stand apart are cut out again between all separators.** -/
theorem lexemes_woven {found : List Lexeme} (apart : ∀ lexeme ∈ found, lexeme.Apart)
    {separators : List (List Char)} (separated : ∀ separator ∈ separators, IsSeparator separator)
    (enough : separators.length = found.length + 1) :
    lexemes (woven separators (found.map Lexeme.taken)) = found ∧
      StartsBlank (woven separators (found.map Lexeme.taken)) := by
  induction found generalizing separators with
  | nil =>
      obtain ⟨separator, rfl⟩ := List.length_eq_one_iff.1 enough
      have isSeparator := separated separator (List.mem_singleton_self _)
      have blank := isSeparator.startsBlank []
      have none := lexemes_filler isSeparator.filler []
      rw [List.append_nil] at blank none
      have alone : woven [separator] [] = separator := List.append_nil separator
      rw [List.map_nil, alone]
      exact ⟨none.trans lexemes_nil, blank⟩
  | cons lexeme found ih =>
      cases separators with
      | nil => cases enough
      | cons separator separators =>
          obtain ⟨isSeparator, separated⟩ := List.forall_mem_cons.1 separated
          obtain ⟨isApart, apart⟩ := List.forall_mem_cons.1 apart
          obtain ⟨same, blank⟩ := ih apart separated (Nat.succ.inj enough)
          rw [List.map_cons, woven]
          refine ⟨?_, isSeparator.startsBlank _⟩
          rw [lexemes_filler isSeparator.filler, isApart blank, same]

end Scanner

namespace TokenList

open Scanner (woven lexemes Lexeme)

/-- **Tokens are read alike between all separators.** A text without faults is given by its tokens,
whatever separators stand between them. -/
theorem ofText_woven {text : List Char} (faultless : (ofText text).faults = [])
    {slices : List (List Char)}
    (sliced : ((ofText text).tokens.map fun token =>
      sliceBytes text token.span.start token.span.stop) = slices.map some)
    {separators : List (List Char)}
    (separated : ∀ separator ∈ separators, Scanner.IsSeparator separator)
    (enough : separators.length = slices.length + 1) :
    (ofText (woven separators slices)).faults = [] ∧
      (ofText (woven separators slices)).tokens.map Token.kind =
        (ofText text).tokens.map Token.kind := by
  have isSlices : slices = (lexemes text).map Lexeme.taken := by
    rw [slices_ofText, ← Function.comp_def, ← List.map_map] at sliced
    exact (List.map_inj_right fun _ _ => Option.some.inj).1 sliced.symm
  have noFault : (lexemes text).filterMap Lexeme.fault? = [] := by
    rw [← faults_ofText, faultless, List.map_nil]
  rw [List.filterMap_eq_nil_iff] at noFault
  have apart : ∀ lexeme ∈ lexemes text, lexeme.Apart :=
    fun lexeme among => Scanner.apart_of_mem among (noFault lexeme among)
  subst isSlices
  rw [List.length_map] at enough
  obtain ⟨same, -⟩ := Scanner.lexemes_woven apart separated enough
  rw [kinds_ofText, kinds_ofText, same]
  have noFaults : (ofText (woven separators ((lexemes text).map Lexeme.taken))).faults.map Prod.fst
      = [] := by
    rw [faults_ofText, same, List.filterMap_eq_nil_iff]
    exact noFault
  exact ⟨List.map_eq_nil_iff.1 noFaults, rfl⟩

/-- Between the tokens of `x?.y` there may be a line end and comments. -/
theorem ofText_woven_chain :
    let separators := [" ".toList, "\n/* a */".toList, "\t// b\n".toList, " ".toList]
    let woven := woven separators ["x".toList, "?.".toList, "y".toList]
    (ofText woven).faults = [] ∧
      (ofText woven).tokens.map Token.kind = (ofText "x?.y".toList).tokens.map Token.kind := by
  have space : Scanner.IsSeparator [' '] := ⟨' ', [], rfl, rfl, .nil⟩
  have block : Scanner.IsSeparator "\n/* a */".toList :=
    ⟨'\n', _, rfl, rfl, @Scanner.Filler.block _ [] ⟨" a ".toList, rfl, by decide⟩ .nil⟩
  have line : Scanner.IsSeparator "\t// b\n".toList :=
    ⟨'\t', _, rfl, rfl, @Scanner.Filler.line " b".toList [] (by decide) .nil⟩
  refine ofText_woven (by decide +kernel) (by decide +kernel) ?_ rfl
  simp only [List.forall_mem_cons, List.not_mem_nil, false_implies, implies_true, and_true]
  exact ⟨space, block, line, space⟩

end TokenList

end InjectionCheck
