import InjectionCheck.Proofs.TokenStreams
import Mathlib.Data.List.Find
import Mathlib.Tactic.SplitIfs

/-!
# What a piece of a text depends on

The scanner does not look past a quote that it does not pass: what a piece at the start of a
text is, and how long it is, does not depend on what follows a quote after it
(`Scanner.extent_congr`). Most pieces do not depend on what follows the first quote at all. Only
comments, strings and templates may hold quotes, and these are searched for their end, which
does not depend on what follows it.
-/

set_option autoImplicit false

namespace InjectionCheck.Scanner

/-- A character that opens and closes strings. -/
def isQuote (c : Char) : Bool := c = '"' || c = '\''

/-- Two texts that are both empty, or start with the same quote. -/
inductive Meet : List Char → List Char → Prop where
  | nil : Meet [] []
  | quote {mark : Char} (isMark : isQuote mark = true) (text text' : List Char) :
    Meet (mark :: text) (mark :: text')

variable {rest rest' : List Char}

theorem Meet.symm (meet : Meet rest rest') : Meet rest' rest := by
  cases meet with
  | nil => exact .nil
  | quote isMark text text' => exact .quote isMark text' text

theorem ne_of_isQuote {mark c : Char} (isMark : isQuote mark = true) (other : isQuote c = false) :
    mark ≠ c := fun same => by simp [← same, isMark] at other

theorem eq_of_isQuote {c : Char} (isMark : isQuote c = true) : c = '"' ∨ c = '\'' := by
  simpa [isQuote] using isMark

/-! ## Pieces without quotes

Each function is the same on a text that goes on with a quote as on the text before it. -/

section Quoted

variable (meet : Meet rest rest')

include meet

theorem runLength_append (class? : Char → Bool) (double : class? '"' = false)
    (single : class? '\'' = false) (text : List Char) :
    runLength class? (text ++ rest) = runLength class? text := by
  unfold runLength
  induction text with
  | nil =>
      cases meet with
      | nil => rfl
      | quote isMark others others' =>
          rcases eq_of_isQuote isMark with rfl | rfl
          · simp [double]
          · simp [single]
  | cons c text ih =>
      rw [List.cons_append, List.takeWhile_cons, List.takeWhile_cons]
      split
      · rw [List.length_cons, List.length_cons, ih]
      · rfl

omit meet in
theorem runLength_le (class? : Char → Bool) (text : List Char) :
    runLength class? text ≤ text.length :=
  (List.takeWhile_prefix _).length_le

theorem exponentLength_append (text : List Char) :
    exponentLength (text ++ rest) = exponentLength text := by
  have digits := runLength_append meet isDigit (by decide) (by decide)
  cases text with
  | nil =>
      cases meet with
      | nil => rfl
      | quote isMark others others' => rcases eq_of_isQuote isMark with rfl | rfl <;> rfl
  | cons c text =>
      cases text with
      | nil =>
          cases meet with
          | nil => rfl
          | quote isMark others others' =>
              have none := digits []
              rcases eq_of_isQuote isMark with rfl | rfl <;> simp_all [exponentLength, runLength]
      | cons sign text =>
          have after := digits (sign :: text)
          simp only [List.cons_append] at after
          simp only [exponentLength, List.cons_append, digits, after]

theorem fractionLength_append (text : List Char) :
    fractionLength (text ++ rest) = fractionLength text := by
  have digits := runLength_append meet continuesDigits (by decide) (by decide)
  match text with
  | [] =>
      cases meet with
      | nil => rfl
      | quote isMark others others' => rcases eq_of_isQuote isMark with rfl | rfl <;> rfl
  | [c] =>
      cases meet with
      | nil => rfl
      | quote isMark others others' =>
          by_cases point : c = '.'
          · subst point
            rcases eq_of_isQuote isMark with rfl | rfl <;> rfl
          · simp [fractionLength, point]
  | c :: digit :: text =>
      by_cases point : c = '.'
      · subst point
        simp only [fractionLength, List.cons_append, digits]
      · simp [fractionLength, point]

theorem bigMarkLength_append (text : List Char) :
    bigMarkLength (text ++ rest) = bigMarkLength text := by
  cases text with
  | nil =>
      cases meet with
      | nil => rfl
      | quote isMark others others' => rcases eq_of_isQuote isMark with rfl | rfl <;> rfl
  | cons c text =>
      by_cases mark : c = 'n'
      · subst mark
        rfl
      · simp [bigMarkLength, mark]

omit meet in
theorem fractionLength_le (text : List Char) : fractionLength text ≤ text.length := by
  unfold fractionLength
  split
  · next c digits =>
    have := runLength_le continuesDigits digits
    split
    · simp only [List.length_cons]; omega
    · exact Nat.zero_le _
  · exact Nat.zero_le _

omit meet in
theorem exponentLength_le (text : List Char) : exponentLength text ≤ text.length := by
  unfold exponentLength
  split
  · next c others =>
    split
    · split
      · next sign digits =>
        have signed := runLength_le isDigit digits
        have unsigned := runLength_le isDigit (sign :: digits)
        simp only [List.length_cons] at unsigned ⊢
        split <;> split <;> omega
      · exact Nat.zero_le _
    · exact Nat.zero_le _
  · exact Nat.zero_le _

theorem decimalLength_append (text : List Char) :
    decimalLength (text ++ rest) = decimalLength text := by
  have whole := runLength_le continuesDigits text
  have fraction := fractionLength_le (text.drop (runLength continuesDigits text))
  rw [List.length_drop] at fraction
  have exponent := exponentLength_le (text.drop (runLength continuesDigits text +
    fractionLength (text.drop (runLength continuesDigits text))))
  rw [List.length_drop] at exponent
  have digits := runLength_append meet continuesDigits (by decide) (by decide) text
  unfold decimalLength
  simp only [digits]
  rw [List.drop_append_of_le_length whole, fractionLength_append meet,
    List.drop_append_of_le_length (by omega), exponentLength_append meet,
    List.drop_append_of_le_length (by omega), bigMarkLength_append meet]

theorem basedLength_append (text : List Char) :
    basedLength (text ++ rest) = basedLength text := by
  match text with
  | [] =>
      cases meet with
      | nil => rfl
      | quote isMark others others' => rcases eq_of_isQuote isMark with rfl | rfl <;> rfl
  | [c] =>
      cases meet with
      | nil => rfl
      | quote isMark others others' =>
          by_cases zero : c = '0'
          · subst zero
            rcases eq_of_isQuote isMark with rfl | rfl <;> rfl
          · simp [basedLength, zero]
  | c :: base :: text =>
      have digits := runLength_append meet continuesBased (by decide) (by decide) text
      have inside := runLength_le continuesBased text
      by_cases zero : c = '0'
      · subst zero
        simp only [basedLength, List.cons_append, digits]
        generalize runLength continuesBased text = count at inside
        cases count with
        | zero => rfl
        | succ count =>
            simp only [List.drop_append_of_le_length inside, bigMarkLength_append meet]
      · simp [basedLength, zero]

theorem pointLength_append (text : List Char) :
    pointLength (text ++ rest) = pointLength text := by
  have inside := fractionLength_le text
  unfold pointLength
  rw [fractionLength_append meet]
  generalize fractionLength text = fraction at inside
  cases fraction with
  | zero => rfl
  | succ fraction =>
      change fraction + 1 + exponentLength ((text ++ rest).drop (fraction + 1)) =
        fraction + 1 + exponentLength (text.drop (fraction + 1))
      rw [List.drop_append_of_le_length inside, exponentLength_append meet]

theorem isPrefixOf_append {spelling : List Char} (unquoted : ∀ c ∈ spelling, isQuote c = false)
    (text : List Char) : spelling.isPrefixOf (text ++ rest) = spelling.isPrefixOf text := by
  induction spelling generalizing text with
  | nil => simp
  | cons c spelling ih =>
      obtain ⟨first, others⟩ := List.forall_mem_cons.1 unquoted
      cases text with
      | nil =>
          cases meet with
          | nil => rfl
          | @quote mark isMark text text' =>
              have differ : c ≠ mark := fun same => by simp [same, isMark] at first
              simp [List.isPrefixOf, differ]
      | cons d text => simp only [List.cons_append, List.isPrefixOf, ih others]

theorem longestMark?_append (text : List Char) :
    longestMark? (text ++ rest) = longestMark? text := by
  have quotes : markSpellings.any (·.1.any isQuote) = false := rfl
  have unquoted : ∀ spelling ∈ markSpellings, ∀ c ∈ spelling.1, isQuote c = false := by
    simpa using quotes
  unfold longestMark?
  refine List.find?_congr fun spelling inside => ?_
  exact isPrefixOf_append meet (unquoted spelling inside) text

theorem wordExtent_append (first : Char) (others : List Char) :
    wordExtent first (others ++ rest) = wordExtent first others := by
  have word := runLength_append meet continuesWord (by decide) (by decide) others
  have inside := runLength_le continuesWord others
  unfold wordExtent
  dsimp only
  rw [word, ← List.cons_append, List.take_append_of_le_length]
  rw [List.length_cons]
  omega

theorem markExtent_append (first : Char) (others : List Char) :
    markExtent first (others ++ rest) = markExtent first others := by
  rw [markExtent, markExtent, ← List.cons_append, longestMark?_append meet]

theorem pointExtent_append (point : Char) (others : List Char) :
    pointExtent point (others ++ rest) = pointExtent point others := by
  rw [pointExtent, pointExtent, ← List.cons_append, pointLength_append meet, markExtent_append meet]

theorem numberSignExtent_append (sign : Char) (others : List Char) :
    numberSignExtent sign (others ++ rest) = numberSignExtent sign others := by
  cases others with
  | nil =>
      have mark := markExtent_append meet sign []
      cases meet with
      | nil => rfl
      | @quote c isMark text text' =>
          have noWord : startsWord c = false := by
            rcases eq_of_isQuote isMark with rfl | rfl <;> decide
          rw [List.nil_append, numberSignExtent, if_neg (by simp [noWord])]
          exact mark
  | cons c others =>
      rw [List.cons_append, numberSignExtent, numberSignExtent, ← List.cons_append,
        wordExtent_append meet, markExtent_append meet]

end Quoted

/-! ## Comments, strings and templates

A search that ends before a quote does not look at what follows the quote. -/

theorem le_length_commentEnd (text : List Char) (passed : Nat) :
    passed ≤ (commentEnd text passed).length := by
  fun_induction commentEnd text passed <;> grind

theorem le_length_stringEnd (quote : Char) (text : List Char) (passed : Nat) :
    passed ≤ (stringEnd quote text passed).length := by
  fun_induction stringEnd quote text passed <;> grind

theorem le_length_templateEnd (text : List Char) (depth passed : Nat) :
    passed ≤ (templateEnd text depth passed).length := by
  fun_induction templateEnd text depth passed <;> grind

theorem commentEnd_cons (c : Char) (text : List Char) (passed : Nat) :
    commentEnd (c :: text) passed =
      if c = '*' ∧ text.head? = some '/' then ⟨passed + 2, true⟩
      else commentEnd text (passed + 1) := by
  rw [commentEnd.eq_def]
  split <;> grind [List.head?_eq_some_iff]

theorem stringEnd_cons (quote c : Char) (text : List Char) (passed : Nat) :
    stringEnd quote (c :: text) passed =
      if c = '\\' then
        match text with
        | [] => ⟨passed + 1, false⟩
        | _ :: others => stringEnd quote others (passed + 2)
      else if c = '\n' then ⟨passed, false⟩
      else if c = quote then ⟨passed + 1, true⟩
      else stringEnd quote text (passed + 1) := by
  rw [stringEnd.eq_def]
  split <;> grind

theorem templateEnd_cons (c : Char) (text : List Char) (depth passed : Nat) :
    templateEnd (c :: text) depth passed =
      if c = '\\' then
        match text with
        | [] => ⟨passed + 1, false⟩
        | _ :: others => templateEnd others depth (passed + 2)
      else if depth = 0 then
        if c = '$' ∧ text.head? = some '{' then templateEnd text.tail 1 (passed + 2)
        else if c = '\x60' then ⟨passed + 1, true⟩
        else templateEnd text 0 (passed + 1)
      else
        templateEnd text (if c = '{' then depth + 1 else if c = '}' then depth - 1 else depth)
          (passed + 1) := by
  by_cases escape : c = '\\'
  · subst escape
    cases text <;> rfl
  · rw [if_neg escape, templateEnd.eq_def]
    split <;> grind [List.head?_eq_some_iff]

section Searches

variable (meet : Meet rest rest')

include meet

theorem head?_append_congr (text : List Char) : (text ++ rest).head? = (text ++ rest').head? := by
  cases text with
  | nil => cases meet <;> rfl
  | cons c text => rfl

theorem commentEnd_congr {text : List Char} {passed : Nat}
    (inside : (commentEnd (text ++ rest) passed).length ≤ passed + text.length) :
    commentEnd (text ++ rest') passed = commentEnd (text ++ rest) passed := by
  induction text generalizing passed with
  | nil =>
      cases meet with
      | nil => rfl
      | quote isMark others others' =>
          have further := le_length_commentEnd others (passed + 1)
          rcases eq_of_isQuote isMark with rfl | rfl
          all_goals
            simp [commentEnd_cons] at inside
            omega
  | cons c text ih =>
      rw [List.cons_append, List.cons_append, commentEnd_cons, commentEnd_cons, ← head?_append_congr meet] 
      rw [List.cons_append, commentEnd_cons, List.length_cons] at inside
      split
      · rfl
      · next other =>
        rw [if_neg other] at inside
        exact ih (by omega)

theorem stringEnd_congr {quote : Char} {text : List Char} {passed : Nat}
    (inside : (stringEnd quote (text ++ rest) passed).length ≤ passed + text.length) :
    stringEnd quote (text ++ rest') passed = stringEnd quote (text ++ rest) passed := by
  match text with
  | [] =>
      cases meet with
      | nil => rfl
      | @quote mark isMark others others' =>
          have further := le_length_stringEnd quote others (passed + 1)
          rw [List.nil_append, stringEnd_cons, if_neg (ne_of_isQuote isMark (by decide)),
            if_neg (ne_of_isQuote isMark (by decide)), List.length_nil] at inside
          split at inside
          · exact absurd inside (Nat.not_succ_le_self _)
          · omega
  | c :: text =>
      rw [List.cons_append, List.cons_append, stringEnd_cons, stringEnd_cons]
      rw [List.cons_append, stringEnd_cons, List.length_cons] at inside
      by_cases escape : c = '\\'
      · rw [if_pos escape, if_pos escape]
        rw [if_pos escape] at inside
        cases text with
        | nil =>
            cases meet with
            | nil => rfl
            | quote isMark others others' =>
                have further := le_length_stringEnd quote others (passed + 2)
                dsimp only [List.nil_append, List.length_nil] at inside
                omega
        | cons hidden text =>
            rw [List.length_cons] at inside
            exact stringEnd_congr (by dsimp only [List.cons_append] at inside; omega)
      · simp only [if_neg escape] at inside ⊢
        split
        · rfl
        · next line =>
          rw [if_neg line] at inside
          split
          · rfl
          · next other =>
            rw [if_neg other] at inside
            exact stringEnd_congr (by omega)

theorem templateEnd_congr {text : List Char} {depth passed : Nat}
    (inside : (templateEnd (text ++ rest) depth passed).length ≤ passed + text.length) :
    templateEnd (text ++ rest') depth passed = templateEnd (text ++ rest) depth passed := by
  match text with
  | [] =>
      cases meet with
      | nil => rfl
      | @quote mark isMark others others' =>
          rw [List.nil_append, templateEnd_cons, if_neg (ne_of_isQuote isMark (by decide)),
            List.length_nil] at inside
          have further (depth : Nat) := le_length_templateEnd others depth (passed + 1)
          split at inside
          · rw [if_neg fun dollar => ne_of_isQuote isMark (by decide) dollar.1,
              if_neg (ne_of_isQuote isMark (by decide))] at inside
            have := further 0
            omega
          · have := further (if mark = '{' then depth + 1 else if mark = '}' then depth - 1 else depth)
            omega
  | c :: text =>
      rw [List.cons_append, List.cons_append, templateEnd_cons, templateEnd_cons,
        ← head?_append_congr meet]
      rw [List.cons_append, templateEnd_cons, List.length_cons] at inside
      by_cases escape : c = '\\'
      · rw [if_pos escape, if_pos escape]
        rw [if_pos escape] at inside
        cases text with
        | nil =>
            cases meet with
            | nil => rfl
            | quote isMark others others' =>
                have further := le_length_templateEnd others depth (passed + 2)
                dsimp only [List.nil_append, List.length_nil] at inside
                omega
        | cons hidden text =>
            rw [List.length_cons] at inside
            exact templateEnd_congr (by dsimp only [List.cons_append] at inside; omega)
      · simp only [if_neg escape] at inside ⊢
        split
        · next outer =>
          rw [if_pos outer] at inside
          split
          · next opens =>
            rw [if_pos opens] at inside
            cases text with
            | nil =>
                cases meet with
                | nil => rfl
                | quote isMark others others' =>
                    exact absurd (Option.some.inj opens.2) (ne_of_isQuote isMark (by decide))
            | cons brace text =>
                rw [List.length_cons] at inside
                exact templateEnd_congr (by
                  dsimp only [List.cons_append, List.tail_cons] at inside
                  omega)
          · next other =>
            rw [if_neg other] at inside
            split
            · rfl
            · next other =>
              rw [if_neg other] at inside
              exact templateEnd_congr (by omega)
        · next inner =>
          rw [if_neg inner] at inside
          exact templateEnd_congr (by omega)

/-- The rest of a line may hold quotes, and ends before what follows it. -/
theorem lineLength_congr {text : List Char}
    (inside : runLength (· ≠ '\n') (text ++ rest) ≤ text.length) :
    runLength (· ≠ '\n') (text ++ rest') = runLength (· ≠ '\n') (text ++ rest) := by
  unfold runLength at inside ⊢
  induction text with
  | nil =>
      cases meet with
      | nil => rfl
      | quote isMark others others' =>
          have line := ne_of_isQuote isMark (c := '\n') (by decide)
          rw [List.nil_append, List.takeWhile_cons_of_pos (by simpa using line)] at inside
          exact absurd inside (Nat.not_succ_le_zero _)
  | cons c text ih =>
      rw [List.cons_append, List.cons_append, List.takeWhile_cons, List.takeWhile_cons]
      rw [List.cons_append, List.takeWhile_cons] at inside
      split
      · next passes =>
        rw [if_pos passes, List.length_cons, List.length_cons] at inside
        rw [List.length_cons, List.length_cons, ih (by omega)]
      · rfl

theorem stringExtent_congr {quote : Char} {text : List Char}
    (inside : (stringExtent quote (text ++ rest)).2 ≤ 1 + text.length) :
    stringExtent quote (text ++ rest') = stringExtent quote (text ++ rest) := by
  unfold stringExtent at inside ⊢
  dsimp only at inside ⊢
  rw [stringEnd_congr meet (by omega), List.take_append_of_le_length (by omega),
    List.take_append_of_le_length (by omega)]

theorem templateExtent_congr {text : List Char}
    (inside : (templateExtent (text ++ rest)).2 ≤ 1 + text.length) :
    templateExtent (text ++ rest') = templateExtent (text ++ rest) := by
  unfold templateExtent at inside ⊢
  dsimp only at inside ⊢
  rw [templateEnd_congr meet (by omega)]

theorem slashExtent_congr {slash : Char} {text : List Char}
    (inside : (slashExtent slash (text ++ rest)).2 ≤ 1 + text.length) :
    slashExtent slash (text ++ rest') = slashExtent slash (text ++ rest) := by
  have mark (text : List Char) : markExtent slash (text ++ rest') = markExtent slash (text ++ rest) := by
    rw [markExtent_append meet, markExtent_append meet.symm]
  match text with
  | [] =>
      cases meet with
      | nil => rfl
      | quote isMark others others' =>
          rcases eq_of_isQuote isMark with rfl | rfl
          · exact mark []
          · exact mark []
  | c :: text =>
      by_cases line : c = '/'
      · subst line
        simp only [List.cons_append, slashExtent, List.length_cons] at inside ⊢
        rw [lineLength_congr meet (by omega)]
      · by_cases block : c = '*'
        · subst block
          simp only [List.cons_append, slashExtent, List.length_cons] at inside ⊢
          rw [commentEnd_congr meet (by omega)]
        · have other (others : List Char) : slashExtent slash (c :: others) = markExtent slash (c :: others) := by
            simp [slashExtent, line, block]
          rw [List.cons_append, List.cons_append, other, other]
          exact mark (c :: text)

/-- **A piece does not depend on what follows a quote after it.** -/
theorem extent_congr {first : Char} {text : List Char}
    (inside : (extent first (text ++ rest)).2 ≤ 1 + text.length) :
    extent first (text ++ rest') = extent first (text ++ rest) := by
  unfold extent at inside ⊢
  split_ifs at inside ⊢ with blank word number string template slash point sign
  · rw [runLength_append meet isBlank (by decide) (by decide),
      runLength_append meet.symm isBlank (by decide) (by decide)]
  · rw [wordExtent_append meet, wordExtent_append meet.symm]
  · simp only [← List.cons_append, decimalLength_append meet, decimalLength_append meet.symm,
      basedLength_append meet, basedLength_append meet.symm]
  · exact stringExtent_congr meet inside
  · exact templateExtent_congr meet inside
  · exact slashExtent_congr meet inside
  · rw [pointExtent_append meet, pointExtent_append meet.symm]
  · rw [numberSignExtent_append meet, numberSignExtent_append meet.symm]
  · rw [markExtent_append meet, markExtent_append meet.symm]

end Searches

end InjectionCheck.Scanner
