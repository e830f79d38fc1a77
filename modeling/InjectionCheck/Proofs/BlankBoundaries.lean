import InjectionCheck.Proofs.LocalPieces

/-!
# Pieces that end before a blank

A token does not reach over a blank, strings and templates apart. So where a text is cut behind
a token and goes on with a blank, or not at all, the token at its start is the same, whatever
the text went on with before (`Scanner.extent_cut_of_token`).

The words and numbers at the start of a text are measured by a few functions, all of which stop
at blanks: `StopsAtBlanks` says so of a measure, and there is one lemma for each measure and for
each way to put measures together. Strings and templates are searched for their end. Once it is
found, it does not matter what follows it (`Scanner.stringEnd_cut`, `Scanner.templateEnd_cut`).
No piece is longer than its text (`Scanner.extent_le`).
-/

set_option autoImplicit false

namespace InjectionCheck.Scanner

/-- A text is empty or starts with a blank. -/
def StartsBlank (text : List Char) : Prop := ∀ c ∈ text.head?, isBlank c = true

/-- A class of characters without blanks. -/
def NoBlanks (class? : Char → Bool) : Prop := ∀ c, isBlank c = true → class? c = false

theorem eq_of_isBlank {c : Char} (blank : isBlank c = true) :
    c = ' ' ∨ c = '\t' ∨ c = '\r' ∨ c = '\n' ∨ c = '\x0c' := by
  simpa [isBlank, or_assoc] using blank

theorem noBlanks_of {class? : Char → Bool}
    (none : [' ', '\t', '\r', '\n', '\x0c'].any class? = false) : NoBlanks class? := by
  intro c blank
  rw [List.any_eq_false] at none
  have outside : c ∈ [' ', '\t', '\r', '\n', '\x0c'] := by simpa using eq_of_isBlank blank
  simpa using none c outside

theorem noBlanks_continuesWord : NoBlanks continuesWord := noBlanks_of rfl

theorem noBlanks_startsWord : NoBlanks startsWord := noBlanks_of rfl

theorem noBlanks_isDigit : NoBlanks isDigit := noBlanks_of rfl

theorem noBlanks_continuesDigits : NoBlanks continuesDigits := noBlanks_of rfl

theorem noBlanks_continuesBased : NoBlanks continuesBased := noBlanks_of rfl

theorem ne_of_isBlank {c d : Char} (blank : isBlank c = true) (other : isBlank d = false) : c ≠ d :=
  fun same => by simp [same, other] at blank

/-! ## Measures -/

/-- What a measure counts at the start of a text it counts also where the text goes on with a
blank behind that. -/
def StopsAtBlanks (measure : List Char → Nat) : Prop :=
  ∀ text rest rest' : List Char, StartsBlank rest' → measure (text ++ rest) ≤ text.length →
    measure (text ++ rest') = measure (text ++ rest)

/-- A character of a class and what a measure counts behind it. -/
def headed (class? : Char → Bool) (measure : List Char → Nat) : List Char → Nat
  | c :: rest => if class? c then 1 + measure rest else 0
  | [] => 0

/-- One more than a number that is not zero. -/
def oneMore : Nat → Nat
  | 0 => 0
  | count + 1 => count + 2

/-- A character of a class and what a measure counts behind it, if it counts anything. -/
def behind (class? : Char → Bool) (measure : List Char → Nat) : List Char → Nat
  | c :: rest => if class? c then oneMore (measure rest) else 0
  | [] => 0

namespace StopsAtBlanks

variable {class? : Char → Bool} {first second measure : List Char → Nat}

theorem zero : StopsAtBlanks fun _ => 0 := fun _ _ _ _ _ => rfl

theorem headed (none : NoBlanks class?) (stops : StopsAtBlanks measure) :
    StopsAtBlanks (Scanner.headed class? measure) := by
  intro text rest rest' blank inside
  cases text with
  | nil =>
      refine Eq.trans ?_ (Nat.le_zero.1 inside).symm
      cases rest' with
      | nil => rfl
      | cons c others => exact if_neg (Bool.eq_false_iff.1 (none c (blank c rfl)))
  | cons c text =>
      simp only [List.cons_append, Scanner.headed, List.length_cons] at inside ⊢
      split
      · next isClass =>
        rw [if_pos isClass] at inside
        rw [stops text rest rest' blank (by omega)]
      · rfl

theorem behind (none : NoBlanks class?) (stops : StopsAtBlanks measure) :
    StopsAtBlanks (Scanner.behind class? measure) := by
  intro text rest rest' blank inside
  cases text with
  | nil =>
      refine Eq.trans ?_ (Nat.le_zero.1 inside).symm
      cases rest' with
      | nil => rfl
      | cons c others => exact if_neg (Bool.eq_false_iff.1 (none c (blank c rfl)))
  | cons c text =>
      simp only [List.cons_append, Scanner.behind, List.length_cons] at inside ⊢
      split
      · next isClass =>
        rw [if_pos isClass] at inside
        have atMost : measure (text ++ rest) ≤ text.length := by
          cases isCount : measure (text ++ rest) with
          | zero => exact Nat.zero_le _
          | succ count =>
              rw [isCount, oneMore] at inside
              omega
        rw [stops text rest rest' blank atMost]
      · rfl

/-- Two measures that are added up. -/
theorem add (stops : StopsAtBlanks first) (stops' : StopsAtBlanks second) :
    StopsAtBlanks fun text => first text + second text := by
  intro text rest rest' blank inside
  dsimp only at inside ⊢
  rw [stops text rest rest' blank (by omega), stops' text rest rest' blank (by omega)]

/-- The greater one of two measures. -/
theorem max (stops : StopsAtBlanks first) (stops' : StopsAtBlanks second) :
    StopsAtBlanks fun text => Max.max (first text) (second text) := by
  intro text rest rest' blank inside
  dsimp only at inside ⊢
  rw [stops text rest rest' blank (by omega), stops' text rest rest' blank (by omega)]

/-- One measure behind another. -/
theorem andThen (stops : StopsAtBlanks first) (stops' : StopsAtBlanks second) :
    StopsAtBlanks fun text => first text + second (text.drop (first text)) := by
  intro text rest rest' blank inside
  dsimp only at inside ⊢
  rw [stops text rest rest' blank (Nat.le_trans (Nat.le_add_right _ _) inside)]
  generalize first (text ++ rest) = count at inside ⊢
  have front : count ≤ text.length := Nat.le_trans (Nat.le_add_right _ _) inside
  rw [List.drop_append_of_le_length front] at inside ⊢
  rw [List.drop_append_of_le_length front,
    stops' _ rest rest' blank (by rw [List.length_drop]; omega)]

/-- One measure behind another, if the other one counts anything. -/
theorem ifAny (stops : StopsAtBlanks first) (stops' : StopsAtBlanks second) :
    StopsAtBlanks fun text =>
      match first text with
      | 0 => 0
      | count => count + second (text.drop count) := by
  intro text rest rest' blank inside
  have both := stops.andThen stops' text rest rest' blank
  have alone := stops text rest rest' blank
  dsimp only at inside both ⊢
  rcases isCount : first (text ++ rest) with _ | count
  · rw [alone (by omega), isCount]
    rfl
  · rw [isCount] at inside both alone
    have inside : count + 1 + second ((text ++ rest).drop (count + 1)) ≤ text.length := inside
    rw [alone (by omega)] at both ⊢
    exact both inside

end StopsAtBlanks

/-! ## Words and numbers -/

/-- A class without blanks has nothing at the start of a text that starts with a blank. -/
theorem runLength_startsBlank {class? : Char → Bool} (none : NoBlanks class?) {text : List Char}
    (blank : StartsBlank text) : runLength class? text = 0 := by
  cases text with
  | nil => rfl
  | cons c others => simp [runLength, none c (blank c rfl)]

theorem runLength_cons (class? : Char → Bool) (c : Char) (text : List Char) :
    runLength class? (c :: text) = if class? c then runLength class? text + 1 else 0 := by
  rw [runLength, List.takeWhile_cons]
  split <;> rfl

theorem stopsAtBlanks_runLength {class? : Char → Bool} (none : NoBlanks class?) :
    StopsAtBlanks (runLength class?) := by
  intro text rest rest' blank inside
  induction text with
  | nil => exact (runLength_startsBlank none blank).trans (Nat.le_zero.1 inside).symm
  | cons c text ih =>
      rw [List.cons_append, runLength_cons] at inside
      rw [List.cons_append, List.cons_append, runLength_cons, runLength_cons]
      split
      · next isClass =>
        rw [if_pos isClass, List.length_cons] at inside
        rw [ih (Nat.le_of_succ_le_succ inside)]
      · rfl

/-- The letter of an exponent. -/
def isExponentMark (c : Char) : Bool := c = 'e' || c = 'E'

/-- The sign of an exponent. -/
def isSign (c : Char) : Bool := c = '+' || c = '-'

theorem exponentLength_eq :
    exponentLength = behind isExponentMark fun text =>
      behind isSign (runLength isDigit) text + runLength isDigit text := by
  funext text
  cases text with
  | nil => rfl
  | cons c text =>
      by_cases mark : c = 'e' ∨ c = 'E'
      case neg => simp [exponentLength, behind, isExponentMark, mark]
      have isMark : isExponentMark c = true := by simpa [isExponentMark] using mark
      cases text with
      | nil => simp [exponentLength, behind, isMark, runLength, oneMore]
      | cons sign digits =>
          simp only [exponentLength, behind, if_pos mark, if_pos isMark]
          by_cases signed : sign = '+' ∨ sign = '-'
          · have isSigned : isSign sign = true := by simpa [isSign] using signed
            have noDigit : runLength isDigit (sign :: digits) = 0 := by
              obtain rfl | rfl := signed <;> rfl
            rw [if_pos signed, if_pos isSigned, noDigit, Nat.add_zero]
            cases runLength isDigit digits with
            | zero => rfl
            | succ count => exact Nat.add_comm _ _
          · have notSigned : ¬isSign sign = true := by simpa [isSign] using signed
            rw [if_neg signed, if_neg notSigned, Nat.zero_add]
            cases runLength isDigit (sign :: digits) with
            | zero => rfl
            | succ count => exact Nat.add_comm _ _

theorem stopsAtBlanks_exponentLength : StopsAtBlanks exponentLength := by
  rw [exponentLength_eq]
  have digits := stopsAtBlanks_runLength noBlanks_isDigit
  exact .behind (noBlanks_of rfl) (.add (.behind (noBlanks_of rfl) digits) digits)

theorem fractionLength_eq :
    fractionLength = behind (· = '.') (headed isDigit (runLength continuesDigits)) := by
  funext text
  match text with
  | [] => rfl
  | [c] => by_cases point : c = '.' <;> simp [fractionLength, behind, headed, oneMore, point]
  | c :: digit :: text =>
      by_cases point : c = '.'
      case neg => simp [fractionLength, behind, point]
      subst point
      simp only [fractionLength, behind, headed, decide_true, if_true]
      split
      · rw [Nat.add_comm 1, oneMore, Nat.add_comm]
      · rfl

theorem stopsAtBlanks_fractionLength : StopsAtBlanks fractionLength := by
  rw [fractionLength_eq]
  exact .behind (noBlanks_of rfl)
    (.headed noBlanks_isDigit (stopsAtBlanks_runLength noBlanks_continuesDigits))

theorem bigMarkLength_eq : bigMarkLength = headed (· = 'n') fun _ => 0 := by
  funext text
  cases text with
  | nil => rfl
  | cons c text => by_cases mark : c = 'n' <;> simp [bigMarkLength, headed, mark]

theorem stopsAtBlanks_bigMarkLength : StopsAtBlanks bigMarkLength := by
  rw [bigMarkLength_eq]
  exact .headed (noBlanks_of rfl) .zero

theorem stopsAtBlanks_decimalLength : StopsAtBlanks decimalLength :=
  (((stopsAtBlanks_runLength noBlanks_continuesDigits).andThen
    stopsAtBlanks_fractionLength).andThen stopsAtBlanks_exponentLength).andThen
      stopsAtBlanks_bigMarkLength

theorem basedLength_eq :
    basedLength = behind (· = '0') (behind marksBase fun text =>
      match runLength continuesBased text with
      | 0 => 0
      | count => count + bigMarkLength (text.drop count)) := by
  funext text
  match text with
  | [] => rfl
  | [c] => by_cases zero : c = '0' <;> simp [basedLength, behind, oneMore, zero]
  | c :: base :: text =>
      by_cases zero : c = '0'
      case neg => simp [basedLength, behind, zero]
      subst zero
      simp only [basedLength, behind, decide_true, if_true]
      split
      · cases runLength continuesBased text with
        | zero => rfl
        | succ count =>
            change 2 + (count + 1) + _ = oneMore (oneMore (count + 1 + _))
            rw [Nat.add_right_comm count, oneMore, oneMore]
            omega
      · rfl

theorem stopsAtBlanks_basedLength : StopsAtBlanks basedLength := by
  rw [basedLength_eq]
  have digits := stopsAtBlanks_runLength noBlanks_continuesBased
  exact .behind (noBlanks_of rfl)
    (.behind (noBlanks_of rfl) (digits.ifAny stopsAtBlanks_bigMarkLength))

theorem stopsAtBlanks_pointLength : StopsAtBlanks pointLength :=
  stopsAtBlanks_fractionLength.ifAny stopsAtBlanks_exponentLength

/-! ## Marks and words -/

theorem noBlank_of_mem_markSpellings {spelling : List Char × Mark}
    (inside : spelling ∈ markSpellings) : ∀ c ∈ spelling.1, isBlank c = false := by
  have none : markSpellings.any (·.1.any isBlank) = false := rfl
  simpa using List.any_eq_false.1 none spelling inside

/-- What has no blanks is in front of a blank, or reaches no further than in front of it. -/
theorem isPrefixOf_startsBlank {spelling text rest : List Char}
    (noBlank : ∀ c ∈ spelling, isBlank c = false) (blank : StartsBlank rest) :
    spelling.isPrefixOf (text ++ rest) = spelling.isPrefixOf text := by
  induction spelling generalizing text with
  | nil => simp
  | cons c spelling ih =>
      obtain ⟨first, others⟩ := List.forall_mem_cons.1 noBlank
      cases text with
      | nil =>
          cases rest with
          | nil => rfl
          | cons d rest =>
              have differ := ne_of_isBlank (blank d rfl) first
              simp [List.isPrefixOf, differ.symm]
      | cons d text => simp only [List.cons_append, List.isPrefixOf, ih others]

/-- In front of a blank the longest mark is the one of the text before the blank. -/
theorem longestMark?_startsBlank {text rest : List Char} (blank : StartsBlank rest) :
    longestMark? (text ++ rest) = longestMark? text :=
  List.find?_congr fun _ inside =>
    isPrefixOf_startsBlank (noBlank_of_mem_markSpellings inside) blank

/-- Behind the mark at the start of a text it does not matter how the text goes on. -/
theorem longestMark?_of_le {text rest : List Char}
    (inside : ∀ found ∈ longestMark? (text ++ rest), found.1.length ≤ text.length) :
    longestMark? text = longestMark? (text ++ rest) := by
  unfold longestMark? at inside ⊢
  have further {spelling : List Char} (front : spelling.isPrefixOf text = true) :
      spelling.isPrefixOf (text ++ rest) = true := by
    rw [List.isPrefixOf_iff_prefix] at front ⊢
    exact front.trans (List.prefix_append _ _)
  cases isMark : markSpellings.find? (·.1.isPrefixOf (text ++ rest)) with
  | none =>
      rw [List.find?_eq_none] at isMark ⊢
      exact fun spelling inside front => isMark spelling inside (further front)
  | some found =>
      have short := inside found isMark
      rw [List.find?_eq_some_iff_append] at isMark ⊢
      obtain ⟨isPrefix, before, after, same, earlier⟩ := isMark
      rw [List.isPrefixOf_iff_prefix] at isPrefix
      refine ⟨?_, before, after, same, fun spelling isEarlier => ?_⟩
      · exact List.isPrefixOf_iff_prefix.2
          (List.prefix_of_prefix_length_le isPrefix (List.prefix_append _ _) short)
      · have noPrefix := earlier spelling isEarlier
        rw [Bool.not_eq_true', ← Bool.not_eq_true] at noPrefix ⊢
        exact fun front => noPrefix (further front)

section Cut

variable {first : Char} {text rest rest' : List Char} (blank : StartsBlank rest')

include blank

theorem markExtent_cut (inside : (markExtent first (text ++ rest)).2 ≤ 1 + text.length) :
    markExtent first (text ++ rest') = markExtent first (text ++ rest) := by
  unfold markExtent at inside ⊢
  rw [← List.cons_append] at inside ⊢
  rw [← List.cons_append, longestMark?_startsBlank blank, longestMark?_of_le]
  intro found isMark
  rw [isMark] at inside
  rw [List.length_cons, Nat.add_comm]
  exact inside

theorem wordExtent_cut (inside : (wordExtent first (text ++ rest)).2 ≤ 1 + text.length) :
    wordExtent first (text ++ rest') = wordExtent first (text ++ rest) := by
  unfold wordExtent at inside ⊢
  dsimp only at inside ⊢
  have short : runLength continuesWord (text ++ rest) ≤ text.length := by omega
  rw [stopsAtBlanks_runLength noBlanks_continuesWord _ _ _ blank short, ← List.cons_append,
    ← List.cons_append, List.take_append_of_le_length, List.take_append_of_le_length]
  all_goals
    rw [List.length_cons]
    omega

theorem pointExtent_cut (inside : (pointExtent first (text ++ rest)).2 ≤ 1 + text.length) :
    pointExtent first (text ++ rest') = pointExtent first (text ++ rest) := by
  have stops := stopsAtBlanks_pointLength (first :: text) rest rest' blank
  unfold pointExtent at inside ⊢
  rw [List.length_cons, List.cons_append, List.cons_append] at stops
  rcases isCount : pointLength (first :: (text ++ rest)) with _ | count
  · rw [isCount] at inside stops
    rw [stops (Nat.zero_le _)]
    exact markExtent_cut blank inside
  · rw [isCount] at inside stops
    have short : count + 1 ≤ 1 + text.length := inside
    rw [stops (by omega)]
    rfl

theorem numberSignExtent_cut
    (inside : (numberSignExtent first (text ++ rest)).2 ≤ 1 + text.length) :
    numberSignExtent first (text ++ rest') = numberSignExtent first (text ++ rest) := by
  cases text with
  | nil =>
      have mark (others : List Char) (noWord : ∀ c ∈ others.head?, ¬startsWord c = true) :
          numberSignExtent first others = markExtent first others := by
        cases others with
        | nil => rfl
        | cons c others => exact if_neg (noWord c rfl)
      have noWord : ∀ c ∈ rest'.head?, ¬startsWord c = true :=
        fun c isFirst => Bool.eq_false_iff.1 (noBlanks_startsWord c (blank c isFirst))
      have noWord' : ∀ c ∈ rest.head?, ¬startsWord c = true := by
        intro c isFirst starts
        obtain ⟨others, rfl⟩ := List.head?_eq_some_iff.1 isFirst
        have continues : continuesWord c = true := by rw [continuesWord, starts, Bool.true_or]
        simp only [List.nil_append, numberSignExtent, if_pos starts, wordExtent, runLength_cons,
          continues, if_true, List.length_nil] at inside
        omega
      rw [List.nil_append, mark rest noWord'] at inside
      rw [List.nil_append, List.nil_append, mark rest' noWord, mark rest noWord']
      exact @markExtent_cut first [] rest rest' blank inside
  | cons c text =>
      simp only [List.cons_append, numberSignExtent] at inside ⊢
      rw [← List.cons_append, ← List.cons_append]
      split
      · next starts =>
        rw [if_pos starts] at inside
        exact @wordExtent_cut first (c :: text) rest rest' blank inside
      · next other =>
        rw [if_neg other] at inside
        exact @markExtent_cut first (c :: text) rest rest' blank inside

end Cut

/-! ## Strings and templates -/

theorem lt_length_stringEnd {quote : Char} {text : List Char} {passed : Nat}
    (found : (stringEnd quote text passed).found) :
    passed < (stringEnd quote text passed).length := by
  fun_induction stringEnd quote text passed <;> grind

theorem lt_length_templateEnd {text : List Char} {depth passed : Nat}
    (found : (templateEnd text depth passed).found) :
    passed < (templateEnd text depth passed).length := by
  fun_induction templateEnd text depth passed <;> grind

/-- Behind the end of a string it does not matter how the text goes on. -/
theorem stringEnd_cut {quote : Char} {text rest : List Char} {passed : Nat}
    (found : (stringEnd quote (text ++ rest) passed).found)
    (inside : (stringEnd quote (text ++ rest) passed).length ≤ passed + text.length)
    (rest' : List Char) :
    stringEnd quote (text ++ rest') passed = stringEnd quote (text ++ rest) passed := by
  match text with
  | [] => exact absurd inside (Nat.not_le.2 (lt_length_stringEnd found))
  | c :: text =>
      rw [List.cons_append, stringEnd_cons] at found inside
      rw [List.cons_append, List.cons_append, stringEnd_cons, stringEnd_cons]
      rw [List.length_cons] at inside
      split
      · next escape =>
        rw [if_pos escape] at found inside
        cases text with
        | nil =>
            cases rest with
            | nil => cases found
            | cons hidden others =>
                have further := le_length_stringEnd quote others (passed + 2)
                dsimp only [List.nil_append, List.length_nil] at inside
                omega
        | cons hidden text =>
            dsimp only [List.cons_append, List.length_cons] at found inside ⊢
            exact stringEnd_cut found (by omega) rest'
      · next other =>
        rw [if_neg other] at found inside
        split_ifs at found inside ⊢
        · rfl
        · exact stringEnd_cut found (by omega) rest'

/-- Behind the end of a template it does not matter how the text goes on. -/
theorem templateEnd_cut {text rest : List Char} {depth passed : Nat}
    (found : (templateEnd (text ++ rest) depth passed).found)
    (inside : (templateEnd (text ++ rest) depth passed).length ≤ passed + text.length)
    (rest' : List Char) :
    templateEnd (text ++ rest') depth passed = templateEnd (text ++ rest) depth passed := by
  match text with
  | [] => exact absurd inside (Nat.not_le.2 (lt_length_templateEnd found))
  | c :: text =>
      rw [List.cons_append, templateEnd_cons] at found inside
      rw [List.cons_append, List.cons_append, templateEnd_cons, templateEnd_cons]
      rw [List.length_cons] at inside
      split
      · next escape =>
        rw [if_pos escape] at found inside
        cases text with
        | nil =>
            cases rest with
            | nil => cases found
            | cons hidden others =>
                have further := le_length_templateEnd others depth (passed + 2)
                dsimp only [List.nil_append, List.length_nil] at inside
                omega
        | cons hidden text =>
            dsimp only [List.cons_append, List.length_cons] at found inside ⊢
            exact templateEnd_cut found (by omega) rest'
      · next other =>
        rw [if_neg other] at found inside
        split
        · next outer =>
          rw [if_pos outer] at found inside
          cases text with
          | nil =>
              -- Only the mark that closes the template is one character long.
              have isMark : c = '\x60' := by
                by_contra notMark
                simp only [if_neg notMark] at found inside
                rw [List.nil_append] at found inside
                split_ifs at found inside
                · have := le_length_templateEnd rest.tail 1 (passed + 2)
                  exact absurd inside (by rw [List.length_nil]; omega)
                · have := lt_length_templateEnd found
                  exact absurd inside (by rw [List.length_nil]; omega)
              subst isMark
              rfl
          | cons next text =>
              simp only [List.cons_append, List.head?_cons, List.tail_cons, List.length_cons]
                at found inside ⊢
              split_ifs at found inside ⊢
              · exact templateEnd_cut found (by omega) rest'
              · rfl
              · have found' : (templateEnd (next :: text ++ rest) 0 (passed + 1)).found := found
                refine templateEnd_cut found' ?_ rest'
                rw [List.cons_append, List.length_cons]
                omega
        · next inner =>
          rw [if_neg inner] at found inside
          exact templateEnd_cut found (by omega) rest'

/-! ## Pieces within their texts -/

/-- A measure that counts no more characters than there are. -/
def Within (measure : List Char → Nat) : Prop := ∀ text, measure text ≤ text.length

namespace Within

variable {class? : Char → Bool} {first second measure : List Char → Nat}

theorem behind (fits : Within measure) : Within (Scanner.behind class? measure) := by
  intro text
  cases text with
  | nil => exact Nat.zero_le _
  | cons c text =>
      have := fits text
      rw [Scanner.behind, List.length_cons]
      split
      · cases isCount : measure text with
        | zero => exact Nat.zero_le _
        | succ count =>
            rw [oneMore]
            omega
      · exact Nat.zero_le _

theorem andThen (fits : Within first) (fits' : Within second) :
    Within fun text => first text + second (text.drop (first text)) := by
  intro text
  have := fits text
  have := fits' (text.drop (first text))
  rw [List.length_drop] at this
  dsimp only
  omega

theorem ifAny (fits : Within first) (fits' : Within second) :
    Within fun text =>
      match first text with
      | 0 => 0
      | count => count + second (text.drop count) := by
  intro text
  have both := fits.andThen fits' text
  dsimp only at both ⊢
  split
  · exact Nat.zero_le _
  · exact both

end Within

theorem within_bigMarkLength : Within bigMarkLength := by
  intro text
  unfold bigMarkLength
  split
  · exact Nat.succ_pos _
  · exact Nat.zero_le _

theorem within_decimalLength : Within decimalLength :=
  ((Within.andThen (runLength_le continuesDigits) fractionLength_le).andThen
    exponentLength_le).andThen within_bigMarkLength

theorem within_basedLength : Within basedLength := by
  rw [basedLength_eq]
  exact .behind (.behind (.ifAny (runLength_le continuesBased) within_bigMarkLength))

theorem within_pointLength : Within pointLength := .ifAny fractionLength_le exponentLength_le

theorem length_stringEnd_le (quote : Char) (text : List Char) (passed : Nat) :
    (stringEnd quote text passed).length ≤ passed + text.length := by
  fun_induction stringEnd quote text passed <;> grind

theorem length_templateEnd_le (text : List Char) (depth passed : Nat) :
    (templateEnd text depth passed).length ≤ passed + text.length := by
  fun_induction templateEnd text depth passed <;> grind

theorem length_commentEnd_le (text : List Char) (passed : Nat) :
    (commentEnd text passed).length ≤ passed + text.length := by
  fun_induction commentEnd text passed <;> grind

theorem markExtent_le (first : Char) (others : List Char) :
    (markExtent first others).2 ≤ 1 + others.length := by
  unfold markExtent
  cases isMark : longestMark? (first :: others) with
  | none => exact Nat.le_add_right _ _
  | some found =>
      have front := List.find?_some isMark
      rw [List.isPrefixOf_iff_prefix] at front
      have := front.length_le
      rw [List.length_cons, Nat.add_comm] at this
      exact this

theorem wordExtent_le (first : Char) (others : List Char) :
    (wordExtent first others).2 ≤ 1 + others.length :=
  Nat.add_le_add_left (runLength_le continuesWord others) 1

theorem slashExtent_le (slash : Char) (others : List Char) :
    (slashExtent slash others).2 ≤ 1 + others.length := by
  unfold slashExtent
  split
  · next line =>
    have := runLength_le (· ≠ '\n') line
    rw [List.length_cons]
    omega
  · next inside =>
    have := length_commentEnd_le inside 0
    dsimp only
    rw [List.length_cons]
    omega
  · exact markExtent_le _ _

theorem pointExtent_le (point : Char) (others : List Char) :
    (pointExtent point others).2 ≤ 1 + others.length := by
  have := within_pointLength (point :: others)
  rw [List.length_cons] at this
  unfold pointExtent
  split
  · exact markExtent_le _ _
  · rw [Nat.add_comm]
    exact this

theorem numberSignExtent_le (sign : Char) (others : List Char) :
    (numberSignExtent sign others).2 ≤ 1 + others.length := by
  unfold numberSignExtent
  split
  · split
    · exact wordExtent_le _ _
    · exact markExtent_le _ _
  · exact markExtent_le _ _

/-- A piece ends within its text. -/
theorem extent_le (first : Char) (others : List Char) :
    (extent first others).2 ≤ 1 + others.length := by
  unfold extent
  split_ifs
  · exact Nat.add_le_add_left (runLength_le isBlank others) 1
  · exact wordExtent_le _ _
  · have decimal := within_decimalLength (first :: others)
    have based := within_basedLength (first :: others)
    rw [List.length_cons, Nat.add_comm] at decimal based
    exact Nat.max_le.2 ⟨decimal, based⟩
  · have := length_stringEnd_le first others 0
    dsimp only [stringExtent]
    omega
  · have := length_templateEnd_le others 0 0
    dsimp only [templateExtent]
    omega
  · exact slashExtent_le _ _
  · exact pointExtent_le _ _
  · exact numberSignExtent_le _ _
  · exact markExtent_le _ _

/-! ## Pieces cut off -/

/-- What starts neither blanks, nor a string, a template or a comment. -/
structure StartsPlain (first : Char) (others : List Char) : Prop where
  noBlank : isBlank first = false
  noQuote : isQuote first = false
  noTemplate : first ≠ '\x60'
  noComment : first = '/' → ∀ c ∈ others.head?, c ≠ '/' ∧ c ≠ '*'

/-- What a piece starts with. -/
inductive Start : Char → List Char → Prop where
  | blank {first : Char} (isBlank : isBlank first = true) (others : List Char) : Start first others
  | string {quote : Char} (isQuote : isQuote quote = true) (others : List Char) : Start quote others
  | template (others : List Char) : Start '\x60' others
  | lineComment (line : List Char) : Start '/' ('/' :: line)
  | blockComment (inside : List Char) : Start '/' ('*' :: inside)
  | plain {first : Char} {others : List Char} (plain : StartsPlain first others) :
    Start first others

theorem start (first : Char) (others : List Char) : Start first others := by
  by_cases blank : isBlank first = true
  · exact .blank blank others
  by_cases quote : isQuote first = true
  · exact .string quote others
  by_cases template : first = '\x60'
  · subst template
    exact .template others
  have plain (noComment : first = '/' → ∀ c ∈ others.head?, c ≠ '/' ∧ c ≠ '*') :
      Start first others :=
    .plain ⟨Bool.eq_false_iff.2 blank, Bool.eq_false_iff.2 quote, template, noComment⟩
  cases others with
  | nil => exact plain fun _ _ isFirst => nomatch isFirst
  | cons c others =>
      by_cases comment : first = '/' ∧ (c = '/' ∨ c = '*')
      · obtain ⟨rfl, rfl | rfl⟩ := comment
        · exact .lineComment others
        · exact .blockComment others
      · refine plain fun slash d isFirst => ?_
        cases isFirst
        exact ⟨fun line => comment ⟨slash, .inl line⟩, fun block => comment ⟨slash, .inr block⟩⟩

theorem extent_blank {first : Char} (blank : isBlank first = true) (others : List Char) :
    extent first others = (.blank, 1 + runLength isBlank others) := if_pos blank

theorem extent_quote {quote : Char} (isQuote : isQuote quote = true) (others : List Char) :
    extent quote others = stringExtent quote others := by
  obtain rfl | rfl := eq_of_isQuote isQuote <;> rfl

theorem extent_template (others : List Char) : extent '\x60' others = templateExtent others := rfl

theorem extent_lineComment (line : List Char) :
    extent '/' ('/' :: line) = (.comment, 2 + runLength (· ≠ '\n') line) := rfl

theorem extent_blockComment (inside : List Char) :
    extent '/' ('*' :: inside) =
      (if (commentEnd inside 0).found then .comment else .fault .openComment,
        (commentEnd inside 0).length + 2) := rfl

/-- Behind a slash that starts no comment, the mark there is looked for. -/
theorem slashExtent_of_plain {slash : Char} {others : List Char}
    (noComment : ∀ c ∈ others.head?, c ≠ '/' ∧ c ≠ '*') :
    slashExtent slash others = markExtent slash others := by
  cases others with
  | nil => rfl
  | cons c others =>
      obtain ⟨line, block⟩ := noComment c rfl
      simp [slashExtent, line, block]

/-- **A piece that is no comment, string or template is the same in front of every blank behind
it.** -/
theorem extent_cut_of_plain {first : Char} {text rest rest' : List Char}
    (plain : StartsPlain first (text ++ rest)) (blank : StartsBlank rest')
    (inside : (extent first (text ++ rest)).2 ≤ 1 + text.length) :
    extent first (text ++ rest') = extent first (text ++ rest) := by
  have noQuote : ¬(first = '"' ∨ first = '\'') := by simpa [isQuote] using plain.noQuote
  unfold extent at inside ⊢
  simp only [plain.noBlank, Bool.false_eq_true, if_false, if_neg noQuote, if_neg plain.noTemplate]
    at inside ⊢
  split_ifs at inside ⊢ with word number slash point sign
  · exact wordExtent_cut blank inside
  · have lengths := stopsAtBlanks_decimalLength.max stopsAtBlanks_basedLength (first :: text)
      rest rest' blank
    rw [List.length_cons, Nat.add_comm, List.cons_append, List.cons_append] at lengths
    exact congrArg (Prod.mk _) (lengths inside)
  · have noComment' : ∀ c ∈ (text ++ rest').head?, c ≠ '/' ∧ c ≠ '*' := by
      cases text with
      | nil =>
          intro c isFirst
          have isBlank := blank c isFirst
          exact ⟨ne_of_isBlank isBlank rfl, ne_of_isBlank isBlank rfl⟩
      | cons c text => exact plain.noComment slash
    rw [slashExtent_of_plain (plain.noComment slash)] at inside ⊢
    rw [slashExtent_of_plain noComment']
    exact markExtent_cut blank inside
  · exact pointExtent_cut blank inside
  · exact numberSignExtent_cut blank inside
  · exact markExtent_cut blank inside

/-- **A token is the same in front of every blank behind it.** -/
theorem extent_cut_of_token {first : Char} {text rest rest' : List Char} {kind : Kind}
    (isToken : (extent first (text ++ rest)).1 = .token kind) (blank : StartsBlank rest')
    (inside : (extent first (text ++ rest)).2 ≤ 1 + text.length) :
    extent first (text ++ rest') = extent first (text ++ rest) := by
  generalize isWhole : text ++ rest = whole at isToken inside ⊢
  cases start first whole with
  | blank isBlank others =>
      rw [extent_blank isBlank] at isToken
      cases isToken
  | string isQuote others =>
      subst isWhole
      rw [extent_quote isQuote] at isToken inside ⊢
      rw [extent_quote isQuote]
      dsimp only [stringExtent] at isToken inside ⊢
      split at isToken
      · next found =>
        rw [stringEnd_cut found (by omega) rest', List.take_append_of_le_length (by omega),
          List.take_append_of_le_length (by omega)]
      · cases isToken
  | template others =>
      subst isWhole
      rw [extent_template] at isToken inside ⊢
      rw [extent_template]
      dsimp only [templateExtent] at isToken inside ⊢
      split at isToken
      · next found => rw [templateEnd_cut found (by omega) rest']
      · cases isToken
  | lineComment line =>
      rw [extent_lineComment] at isToken
      cases isToken
  | blockComment inside =>
      rw [extent_blockComment] at isToken
      dsimp only at isToken
      split at isToken <;> cases isToken
  | plain plain =>
      subst isWhole
      exact extent_cut_of_plain plain blank inside

end InjectionCheck.Scanner
