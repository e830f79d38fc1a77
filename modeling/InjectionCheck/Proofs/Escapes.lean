import InjectionCheck.Token.Literal
import Mathlib.Data.List.Induction
import Mathlib.Data.List.TakeWhile
import Mathlib.Data.Nat.Digits.Defs

/-!
# Escapes as a grammar

The body of a string literal is a row of elements: characters that stand for themselves, line ends
and other characters behind a backslash, numbers of characters in three forms, and perhaps a
backslash at the very end. `Reading` tells which rows of elements a body can be read as, and
`Element.meaning` what an element stands for, with no regard to how bodies are decoded.

**Decoding.** Every body has a reading, and it decodes to the meanings of the elements one after
the other (`exists_reading_and_decode_eq`). A number in braces that gives no character is kept
without its braces.

**Loose numbers.** A number can have a digit too few, lack its brace or have a sign in front, and
its digits still be those of a character (`Element.IsLoose`). The theorem leaves open what such a
number stands for, and only that: the elements around it mean what they mean elsewhere.
-/

set_option autoImplicit false

namespace InjectionCheck.Literal

/-! ## The elements of a body -/

/-- The forms of the number of a character. -/
inductive NumberForm where
  | two
  | four
  | braced (closed : Bool)

/-- The letter in front of a number. -/
def NumberForm.letter : NumberForm → Char
  | .two => 'x'
  | .four => 'u'
  | .braced _ => 'u'

/-- The digits of a number as they are written. -/
def NumberForm.enclose : NumberForm → List Char → List Char
  | .two, digits => digits
  | .four, digits => digits
  | .braced true, digits => '{' :: (digits ++ ['}'])
  | .braced false, digits => '{' :: digits

/-- How many digits a form asks for, and that braces are closed. -/
def NumberForm.Admits : NumberForm → List Char → Prop
  | .two, digits => digits.length = 2
  | .four, digits => digits.length = 4
  | .braced closed, digits => closed = true ∧ digits ≠ []

instance : (form : NumberForm) → (digits : List Char) → Decidable (form.Admits digits)
  | .two, digits => inferInstanceAs (Decidable (digits.length = 2))
  | .four, digits => inferInstanceAs (Decidable (digits.length = 4))
  | .braced closed, digits => inferInstanceAs (Decidable (closed = true ∧ digits ≠ []))

/-- The elements that a body is made of. -/
inductive Element where
  /-- A character that stands for itself. -/
  | plain (c : Char)
  /-- A line end behind a backslash. -/
  | lineEnd (ending : List Char)
  /-- Any other character behind a backslash. -/
  | escaped (c : Char)
  /-- The number of a character, with what stands in the place of its digits. -/
  | numbered (form : NumberForm) (digits : List Char)
  /-- A backslash with nothing behind it. -/
  | lone

namespace Element

/-- The characters of an element. -/
def source : Element → List Char
  | plain c => [c]
  | lineEnd ending => '\\' :: ending
  | escaped c => ['\\', c]
  | numbered form digits => '\\' :: form.letter :: form.enclose digits
  | lone => ['\\']

/-- The characters of an element, without the braces of a number. -/
def unbraced : Element → List Char
  | numbered form digits => '\\' :: form.letter :: digits
  | element => element.source

/-- An element is cut off as a whole in front of a rest. Fewer characters than a number asks for,
or braces that are not closed, occur at the end of a body only. -/
def Fits : Element → List Char → Prop
  | plain c, _ => c ≠ '\\'
  | lineEnd ending, rest =>
    ending = ['\n'] ∨ ending = ['\r', '\n'] ∨ ending = ['\r'] ∧ rest.head? ≠ some '\n'
  | escaped c, _ => c ∉ ['\n', '\r', 'x', 'u']
  | numbered .two digits, rest => digits.length = 2 ∨ digits.length < 2 ∧ rest = []
  | numbered .four digits, rest =>
    (digits.length = 4 ∨ digits.length < 4 ∧ rest = []) ∧ digits.head? ≠ some '{'
  | numbered (.braced closed) digits, rest => '}' ∉ digits ∧ (closed = true ∨ rest = [])
  | lone, rest => rest = []

theorem source_ne_nil (element : Element) : element.source ≠ [] := by
  cases element <;> exact List.cons_ne_nil _ _

end Element

/-- A body read as a row of elements. -/
inductive Reading : List Char → List Element → Prop
  | nil : Reading [] []
  | cons {element : Element} {rest : List Char} {elements : List Element} :
      element.Fits rest → Reading rest elements →
        Reading (element.source ++ rest) (element :: elements)

/-! ## What the elements stand for -/

/-- The digits in the order of their values. -/
def digitsInOrder : List Char :=
  ['0', '1', '2', '3', '4', '5', '6', '7', '8', '9', 'a', 'b', 'c', 'd', 'e', 'f']

/-- A digit may be a capital letter. -/
def isHexDigit (c : Char) : Bool :=
  (digitsInOrder ++ ['A', 'B', 'C', 'D', 'E', 'F']).contains c

/-- The number that digits stand for, the last one counting once. -/
def numberOf (digits : List Char) : Nat :=
  Nat.ofDigits 16 (digits.reverse.map fun c => digitsInOrder.idxOf c.toLower)

/-- Digits that are the number of a character: one that exists and is no surrogate. -/
def NamesCharacter (digits : List Char) : Prop :=
  digits.all isHexDigit = true ∧ (numberOf digits).isValidChar

/-- The letters that stand for a control character behind a backslash. -/
def controls : List (Char × Char) :=
  [('n', '\n'), ('t', '\t'), ('r', '\r'), ('b', '\x08'), ('f', '\x0c'), ('v', '\x0b'),
    ('0', '\x00')]

/-- Digits without a sign in front. -/
def unsigned : List Char → List Char
  | '+' :: digits => digits
  | digits => digits

instance (digits : List Char) : Decidable (NamesCharacter digits) :=
  inferInstanceAs (Decidable (_ ∧ _))

namespace Element

/-- What an element stands for, when it is told what to keep of a number that is no character's. -/
def meaning (kept : Element → List Char) : Element → List Char
  | plain c => [c]
  | lineEnd _ => []
  | escaped c => [(controls.lookup c).getD c]
  | numbered form digits =>
    if form.Admits digits ∧ NamesCharacter digits then [Char.ofNat (numberOf digits)]
    else kept (numbered form digits)
  | lone => ['\\']

/-- A number that is not written as its form asks for, although its digits, perhaps behind a sign,
are those of a character. -/
def IsLoose : Element → Prop
  | numbered form digits =>
    ¬(form.Admits digits ∧ NamesCharacter digits) ∧
      unsigned digits ≠ [] ∧ NamesCharacter (unsigned digits)
  | _ => False

/-- What an element is decoded to. -/
def decoded : Element → List Char
  | plain c => [c]
  | lineEnd _ => []
  | escaped c => [(control? c).getD c]
  | numbered form digits => codePoint form.letter digits
  | lone => ['\\']

end Element

/-! ## Digits and their values -/

theorem hexDigit?_of_isHexDigit {c : Char} (isDigit : isHexDigit c = true) :
    hexDigit? c = some (digitsInOrder.idxOf c.toLower) := by
  simp only [isHexDigit, digitsInOrder, List.cons_append, List.nil_append, List.contains_eq_mem,
    decide_eq_true_eq, List.mem_cons, List.not_mem_nil, or_false] at isDigit
  rcases isDigit with rfl | rfl | rfl | rfl | rfl | rfl | rfl | rfl | rfl | rfl | rfl | rfl | rfl
    | rfl | rfl | rfl | rfl | rfl | rfl | rfl | rfl | rfl <;> decide

theorem lt_of_hexDigit?_ne_none {c : Char} (isDigit : hexDigit? c ≠ none) : c.toNat < 103 := by
  have atMost : c ≤ '9' ∨ c ≤ 'f' ∨ c ≤ 'F' := by
    by_contra none
    simp only [not_or] at none
    simp [hexDigit?, none] at isDigit
  simp only [Char.le_def, UInt32.le_iff_toNat_le] at atMost
  have nine : '9'.val.toNat = 57 := rfl
  have small : 'f'.val.toNat = 102 := rfl
  have capital : 'F'.val.toNat = 70 := rfl
  have same : c.val.toNat = c.toNat := rfl
  omega

theorem hexDigit?_eq_none {c : Char} (noDigit : ¬isHexDigit c = true) : hexDigit? c = none := by
  by_contra isDigit
  -- digits are among the first characters, and these can be tried one by one
  have all : ∀ number < 103, hexDigit? (Char.ofNat number) ≠ none →
      isHexDigit (Char.ofNat number) = true := by decide
  apply noDigit
  have known := all c.toNat (lt_of_hexDigit?_ne_none isDigit)
  rw [Char.ofNat_toNat] at known
  exact known isDigit

theorem numberOf_concat (digits : List Char) (c : Char) :
    numberOf (digits ++ [c]) = numberOf digits * 16 + digitsInOrder.idxOf c.toLower := by
  rw [numberOf, List.reverse_concat, List.map_cons, Nat.ofDigits_cons, Nat.add_comm, Nat.mul_comm]
  rfl

theorem hexDigits?_concat (digits : List Char) (c : Char) :
    hexDigits? (digits ++ [c]) =
      (hexDigits? digits).bind fun value => (hexDigit? c).map (value * 16 + ·) := by
  rw [hexDigits?, List.foldlM_append]
  simp [hexDigits?]

/-- **Digits are read as the number they stand for, and other characters not at all.** -/
theorem hexDigits?_eq (digits : List Char) :
    hexDigits? digits = if digits.all isHexDigit = true then some (numberOf digits) else none := by
  induction digits using List.reverseRecOn with
  | nil => simp [hexDigits?, numberOf]
  | append_singleton digits c ih =>
    rw [hexDigits?_concat, ih]
    by_cases isDigit : isHexDigit c = true
    · rw [hexDigit?_of_isHexDigit isDigit, numberOf_concat, List.all_append]
      by_cases all : digits.all isHexDigit = true
      · rw [if_pos all, if_pos (by simp [all, isDigit])]
        rfl
      · rw [if_neg all, if_neg (by simp [all])]
        rfl
    · have notAll : ¬(digits ++ [c]).all isHexDigit = true := by simp [isDigit]
      rw [hexDigit?_eq_none isDigit, if_neg notAll]
      exact Option.bind_fun_none _

theorem hexNumber?_eq (digits : List Char) :
    hexNumber? digits = if unsigned digits = [] then none else hexDigits? (unsigned digits) := by
  rcases digits with _ | ⟨c, digits⟩
  · rfl
  · by_cases isSign : c = '+'
    · subst isSign
      cases digits <;> rfl
    · have same : unsigned (c :: digits) = c :: digits := by simp [unsigned, isSign]
      rw [same, if_neg (List.cons_ne_nil c digits), hexNumber?]
      all_goals simp [isSign]

theorem unsigned_of_all_isHexDigit {digits : List Char}
    (all : digits.all isHexDigit = true) : unsigned digits = digits := by
  rcases digits with _ | ⟨c, digits⟩
  · rfl
  · have notSign : c ≠ '+' := by
      rintro rfl
      rw [List.all_cons, Bool.and_eq_true] at all
      exact absurd all.1 (by decide)
    simp [unsigned, notSign]

theorem codePoint_eq (letter : Char) (digits : List Char) :
    codePoint letter digits =
      if unsigned digits ≠ [] ∧ NamesCharacter (unsigned digits) then
        [Char.ofNat (numberOf (unsigned digits))]
      else '\\' :: letter :: digits := by
  rw [codePoint, hexNumber?_eq, hexDigits?_eq]
  by_cases none : unsigned digits = []
  · simp [none]
  by_cases all : (unsigned digits).all isHexDigit = true
  · rw [if_neg none, if_pos all, Option.bind_some, charOfNumber?]
    by_cases valid : (numberOf (unsigned digits)).isValidChar
    · rw [if_pos valid, if_pos ⟨none, all, valid⟩]
    · rw [if_neg valid, if_neg fun names => valid names.2.2]
  · rw [if_neg none, if_neg all, if_neg fun names => all names.2.1, Option.bind_none]

theorem control?_eq (c : Char) : control? c = controls.lookup c := by
  unfold control?
  split
  iterate 7 rfl
  next notN notT notR notB notF notV notZero =>
    symm
    apply List.lookup_eq_none_iff.2
    simpa [controls] using ⟨notN, notT, notR, notB, notF, notV, notZero⟩

theorem NumberForm.Admits.ne_nil {form : NumberForm} {digits : List Char}
    (admits : form.Admits digits) : digits ≠ [] := by
  rintro rfl
  cases form with
  | two => cases admits
  | four => cases admits
  | braced closed => exact admits.2 rfl

/-- Unless a number is loose, what an element is decoded to is its meaning. -/
theorem Element.decoded_eq_meaning {element : Element} (strict : ¬element.IsLoose) :
    element.decoded = element.meaning unbraced := by
  cases element with
  | plain c => rfl
  | lineEnd ending => rfl
  | escaped c => rw [decoded, meaning, control?_eq]
  | lone => rfl
  | numbered form digits =>
    rw [decoded, meaning, codePoint_eq]
    by_cases formed : form.Admits digits ∧ NamesCharacter digits
    · have same := unsigned_of_all_isHexDigit formed.2.1
      rw [same, if_pos formed, if_pos ⟨formed.1.ne_nil, formed.2⟩]
    · rw [if_neg formed, if_neg fun names => strict ⟨formed, names⟩, unbraced]

/-! ## Bodies are read and decoded element by element -/

theorem exists_element (c : Char) (body : List Char) :
    ∃ (element : Element) (rest : List Char),
      element.Fits rest ∧ element.source ++ rest = c :: body := by
  by_cases isPlain : c ≠ '\\'
  · exact ⟨.plain c, body, isPlain, rfl⟩
  obtain rfl : c = '\\' := not_not.1 isPlain
  rcases body with _ | ⟨letter, body⟩
  · exact ⟨.lone, [], rfl, rfl⟩
  by_cases isEscaped : letter ∉ ['\n', '\r', 'x', 'u']
  · exact ⟨.escaped letter, body, isEscaped, rfl⟩
  simp only [List.mem_cons, List.not_mem_nil, or_false, not_not] at isEscaped
  rcases isEscaped with rfl | rfl | rfl | rfl
  · exact ⟨.lineEnd ['\n'], body, .inl rfl, rfl⟩
  · by_cases returns : body.head? = some '\n'
    · rcases body with _ | ⟨feed, body⟩
      · cases returns
      · cases returns
        exact ⟨.lineEnd ['\r', '\n'], body, .inr (.inl rfl), rfl⟩
    · exact ⟨.lineEnd ['\r'], body, .inr (.inr ⟨rfl, returns⟩), rfl⟩
  · refine ⟨.numbered .two (body.take 2), body.drop 2, ?_, ?_⟩
    · simp only [Element.Fits, List.length_take, List.drop_eq_nil_iff]
      omega
    · simp [Element.source, NumberForm.letter, NumberForm.enclose]
  · by_cases braces : body.head? = some '{'
    · rcases body with _ | ⟨brace, body⟩
      · cases braces
      cases braces
      by_cases closed : '}' ∈ body
      · obtain ⟨digits, rest, rfl, inside⟩ := List.eq_append_cons_of_mem closed
        refine ⟨.numbered (.braced true) digits, rest, ⟨inside, .inl rfl⟩, ?_⟩
        simp [Element.source, NumberForm.letter, NumberForm.enclose]
      · refine ⟨.numbered (.braced false) body, [], ⟨closed, .inr rfl⟩, ?_⟩
        simp [Element.source, NumberForm.letter, NumberForm.enclose]
    · refine ⟨.numbered .four (body.take 4), body.drop 4, ⟨?_, ?_⟩, ?_⟩
      · simp only [List.length_take, List.drop_eq_nil_iff]
        omega
      · rwa [List.head?_take, if_neg (by decide)]
      · simp [Element.source, NumberForm.letter, NumberForm.enclose]

theorem exists_reading (body : List Char) : ∃ elements, Reading body elements := by
  -- on the length, since an element may take any number of characters
  induction length : body.length using Nat.strong_induction_on generalizing body with
  | _ count ih =>
    rcases body with _ | ⟨c, body⟩
    · exact ⟨[], .nil⟩
    obtain ⟨element, rest, fits, same⟩ := exists_element c body
    have shorter : rest.length < count := by
      have nonempty := element.source_ne_nil
      rw [← length, ← same, List.length_append]
      have := List.length_pos_iff.2 nonempty
      omega
    obtain ⟨elements, reading⟩ := ih rest.length shorter rest rfl
    exact ⟨element :: elements, same ▸ .cons fits reading⟩

/-- The characters of a number are as many as it asks for, or all that are left. -/
theorem take_and_drop {digits rest : List Char} {count : Nat}
    (fits : digits.length = count ∨ digits.length < count ∧ rest = []) :
    (digits ++ rest).take count = digits ∧ (digits ++ rest).drop count = rest := by
  rcases fits with exact | ⟨fewer, rfl⟩
  · exact ⟨List.take_left' exact, List.drop_left' exact⟩
  · rw [List.append_nil]
    exact ⟨List.take_of_length_le fewer.le, List.drop_of_length_le fewer.le⟩

theorem decode_element {element : Element} {rest : List Char} (fits : element.Fits rest) :
    decode (element.source ++ rest) = element.decoded ++ decode rest := by
  cases element with
  | plain c =>
    rw [Element.source, List.singleton_append, decode]
    all_goals simp_all [Element.Fits, Element.decoded]
  | lineEnd ending =>
    rcases fits with rfl | rfl | ⟨rfl, noFeed⟩
    · simp [Element.source, Element.decoded, decode]
    · simp [Element.source, Element.decoded, decode]
    · rw [Element.source, Element.decoded, List.cons_append, List.singleton_append, decode]
      · rfl
      · rintro others rfl
        exact noFeed rfl
  | escaped c =>
    simp only [Element.Fits, List.mem_cons, List.not_mem_nil, or_false, not_or] at fits
    obtain ⟨notFeed, notReturn, notX, notU⟩ := fits
    rw [Element.source, Element.decoded, List.cons_append, List.singleton_append, decode]
    all_goals simp_all
  | lone =>
    obtain rfl : rest = [] := fits
    simp [Element.source, Element.decoded, decode]
  | numbered form digits =>
    rw [Element.decoded, Element.source, List.cons_append, List.cons_append]
    cases form with
    | two =>
      obtain ⟨taken, left⟩ := take_and_drop fits
      rw [NumberForm.letter, NumberForm.enclose, decode, taken, left]
    | four =>
      obtain ⟨fits, noBrace⟩ := fits
      obtain ⟨taken, left⟩ := take_and_drop fits
      rw [NumberForm.letter, NumberForm.enclose, decode, taken, left]
      intro others same
      rcases digits with _ | ⟨c, digits⟩
      · rcases fits with exact | ⟨-, rfl⟩
        · cases exact
        · cases same
      · cases same
        exact noBrace rfl
    | braced closed =>
      obtain ⟨inside, fits⟩ := fits
      have within : ∀ c ∈ digits, (c != '}') = true := by
        intro c isDigit
        simpa using fun same : c = '}' => inside (same ▸ isDigit)
      cases closed with
      | true =>
        rw [NumberForm.letter, NumberForm.enclose, List.cons_append, List.append_assoc, decode,
          List.takeWhile_append_of_pos within, List.dropWhile_append_of_pos within]
        simp
      | false =>
        obtain rfl : rest = [] := fits.resolve_left Bool.false_ne_true
        simp [NumberForm.letter, NumberForm.enclose, decode, List.takeWhile_eq_self_iff.2 within,
          List.dropWhile_eq_nil_iff.2 within]

theorem Reading.decode_eq {body : List Char} {elements : List Element}
    (reading : Reading body elements) : decode body = elements.flatMap Element.decoded := by
  induction reading with
  | nil => rw [decode, List.flatMap_nil]
  | cons fits _ ih => rw [decode_element fits, ih, List.flatMap_cons]

/-- **A body decodes to the meanings of the elements that it is read as.** There is always a
reading. What a loose number stands for is left open, but it is the same wherever the number
stands, and everything around it decodes as if the number were not there. -/
theorem exists_reading_and_decode_eq :
    (∀ body : List Char, ∃ elements, Reading body elements) ∧
      ∃ denotation : Element → List Char,
        (∀ element, ¬element.IsLoose →
          denotation element = element.meaning Element.unbraced) ∧
        ∀ body elements, Reading body elements → decode body = elements.flatMap denotation := by
  refine ⟨exists_reading, Element.decoded, ?_, ?_⟩
  · intro element strict
    exact Element.decoded_eq_meaning strict
  · intro body elements reading
    exact reading.decode_eq

example : decode ['\\', 'x', '4', '1', '\\', 'q', '\\'] = ['A', 'q', '\\'] := by cbv

/-- Numbers that give no character are not always kept as they are written: in `\u{zz}` the braces
are lost. -/
theorem not_decode_eq_meaning_source :
    ¬∀ (body : List Char) (elements : List Element), Reading body elements →
      decode body = elements.flatMap (Element.meaning Element.source) := by
  intro all
  have fits : (Element.numbered (.braced true) ['z', 'z']).Fits [] := ⟨by decide, .inl rfl⟩
  have reading := Reading.cons fits .nil
  have kept := all _ _ reading
  rw [reading.decode_eq] at kept
  revert kept
  decide

end InjectionCheck.Literal
