import Mathlib.Data.Rat.Defs
import InjectionCheck.Token.Literal

/-!
# JSON texts and what they denote

The grammar of JSON as a relation between texts and values: `Denotes text value` says that
the whole of `text` is one way to write `value`, and `IsDocument` admits blanks around it.
Two numbers are equal if they are the same number, however they are written; the names of
an object are distinct.

The relation says nothing about how a text is read. `parse` reads a text from the front, and
what the grammar derives it reads (`IsDocument.parse_eq`); so a document denotes one value
(`IsDocument.unique`).
-/

set_option autoImplicit false

namespace InjectionCheck.Json

/-- What a JSON text denotes. -/
inductive Value where
  | null
  | boolean (value : Bool)
  | number (value : ℚ)
  | text (value : String)
  | array (elements : List Value)
  | object (fields : List (String × Value))
deriving Inhabited

/-! ## Numbers -/

/-- The number that a row of decimal digits spells; a row has at least one digit. -/
def digits? (row : List Char) : Option ℕ :=
  if row ≠ [] ∧ row.all Char.isDigit then some (Nat.ofDigitChars 10 row 0) else none

/-- The whole part of a number, which does not start with a zero unless it is zero. -/
def whole? : List Char → Option ℕ
  | '0' :: _ :: _ => none
  | row => digits? row

/-- The fraction of a number: nothing, or a point and digits. -/
def fraction? : List Char → Option ℚ
  | [] => some 0
  | '.' :: row => (digits? row).map fun count : ℕ => (count : ℚ) / 10 ^ row.length
  | _ => none

/-- The power of ten of an exponent, whose sign may be missing. -/
def signedPower? : List Char → Option ℚ
  | '-' :: row => (digits? row).map fun exponent : ℕ => 1 / (10 : ℚ) ^ exponent
  | '+' :: row => (digits? row).map fun exponent : ℕ => (10 : ℚ) ^ exponent
  | row => (digits? row).map fun exponent : ℕ => (10 : ℚ) ^ exponent

/-- Whether a letter starts an exponent. -/
def isPowerMark (c : Char) : Bool := c = 'e' || c = 'E'

/-- The exponent of a number: nothing, or a letter and a power of ten. -/
def power? : List Char → Option ℚ
  | [] => some 1
  | _ :: row => signedPower? row

/-- The number that a text without a sign spells. -/
def unsigned? (lexeme : List Char) : Option ℚ :=
  let mantissa := lexeme.takeWhile (!isPowerMark ·)
  (whole? (mantissa.takeWhile (· != '.'))).bind fun whole =>
    (fraction? (mantissa.dropWhile (· != '.'))).bind fun fraction =>
      (power? (lexeme.dropWhile (!isPowerMark ·))).map fun power => (whole + fraction) * power

/-- The number that a text spells. -/
def number? : List Char → Option ℚ
  | '-' :: lexeme => (unsigned? lexeme).map (- ·)
  | lexeme => unsigned? lexeme

/-! ## The grammar -/

/-- The characters that may stand between the parts of a text. -/
def isBlank (c : Char) : Bool := c = ' ' || c = '\t' || c = '\n' || c = '\r'

/-- The letters that name a character after a backslash. -/
def shortEscapes : List (Char × Char) :=
  [('"', '"'), ('\\', '\\'), ('/', '/'), ('b', '\x08'), ('f', '\x0c'), ('n', '\n'),
    ('r', '\r'), ('t', '\t')]

/-- An escape by four hexadecimal digits. -/
inductive UnitText : List Char → ℕ → Prop where
  | intro {a b c d : Char} {unit : ℕ} (digits : Literal.hexDigits? [a, b, c, d] = some unit) :
      UnitText ['\\', 'u', a, b, c, d] unit

/-- The ways to write a character between quotes: as it is, by a letter, by its number, or
by the two surrogates of its number. -/
inductive CharacterText : List Char → Char → Prop where
  | plain {c : Char} (visible : 0x20 ≤ c.toNat) (notQuote : c ≠ '"') (notSlash : c ≠ '\\') :
      CharacterText [c] c
  | short {letter c : Char} (known : (letter, c) ∈ shortEscapes) : CharacterText ['\\', letter] c
  | number {text : List Char} {unit : ℕ} {c : Char} (written : UnitText text unit)
      (named : Literal.charOfNumber? unit = some c) : CharacterText text c
  | surrogates {first second : List Char} {high low : ℕ} {c : Char}
      (written : UnitText first (0xd800 + high)) (inHigh : high < 0x400)
      (followed : UnitText second (0xdc00 + low)) (inLow : low < 0x400)
      (named : Literal.charOfNumber? (0x10000 + high * 0x400 + low) = some c) :
      CharacterText (first ++ second) c

/-- The ways to write a row of characters between quotes. -/
inductive BodyText : List Char → List Char → Prop where
  | nil : BodyText [] []
  | cons {piece text : List Char} {c : Char} {characters : List Char}
      (head : CharacterText piece c) (tail : BodyText text characters) :
      BodyText (piece ++ text) (c :: characters)

/-- Blanks, and nothing else. -/
def Blank (text : List Char) : Prop := ∀ c ∈ text, isBlank c

mutual

/-- The ways to write a value. -/
inductive Denotes : List Char → Value → Prop where
  | nullWord : Denotes ['n', 'u', 'l', 'l'] .null
  | trueWord : Denotes ['t', 'r', 'u', 'e'] (.boolean true)
  | falseWord : Denotes ['f', 'a', 'l', 's', 'e'] (.boolean false)
  | number {text : List Char} {value : ℚ} (spelled : number? text = some value) :
      Denotes text (.number value)
  | text {body characters : List Char} (written : BodyText body characters) :
      Denotes ('"' :: body ++ ['"']) (.text (String.ofList characters))
  | noElements {gap : List Char} (blank : Blank gap) : Denotes ('[' :: gap ++ [']']) (.array [])
  | array {text : List Char} {values : List Value} (elements : Elements text values) :
      Denotes ('[' :: text ++ [']']) (.array values)
  | noFields {gap : List Char} (blank : Blank gap) : Denotes ('{' :: gap ++ ['}']) (.object [])
  | object {text : List Char} {pairs : List (String × Value)} (fields : Fields text pairs)
      (distinct : (pairs.map Prod.fst).Nodup) : Denotes ('{' :: text ++ ['}']) (.object pairs)

/-- One or more values, with commas between them. -/
inductive Elements : List Char → List Value → Prop where
  | last {before text after : List Char} {value : Value} (blank : Blank before)
      (head : Denotes text value) (blank' : Blank after) :
      Elements (before ++ (text ++ after)) [value]
  | cons {before text after others : List Char} {value : Value} {values : List Value}
      (blank : Blank before) (head : Denotes text value) (blank' : Blank after)
      (tail : Elements others values) :
      Elements (before ++ (text ++ (after ++ ',' :: others))) (value :: values)

/-- One or more names with their values, with commas between them. -/
inductive Fields : List Char → List (String × Value) → Prop where
  | last {name text after : List Char} {key : String} {value : Value}
      (named : Name name key) (head : Denotes text value) (blank : Blank after) :
      Fields (name ++ (text ++ after)) [(key, value)]
  | cons {name text after others : List Char} {key : String} {value : Value}
      {pairs : List (String × Value)} (named : Name name key) (head : Denotes text value)
      (blank : Blank after) (tail : Fields others pairs) :
      Fields (name ++ (text ++ (after ++ ',' :: others))) ((key, value) :: pairs)

/-- The name of a field with the colon and the blanks around it. -/
inductive Name : List Char → String → Prop where
  | intro {first body second third characters : List Char} (blank : Blank first)
      (written : BodyText body characters) (blank' : Blank second) (blank'' : Blank third) :
      Name (first ++ '"' :: (body ++ '"' :: (second ++ ':' :: third)))
        (String.ofList characters)

end

/-- A value with blanks around it. -/
def IsDocument (text : List Char) (value : Value) : Prop :=
  ∃ before written after, text = before ++ (written ++ after) ∧ Blank before ∧
    Denotes written value ∧ Blank after

/-! ## Reading from the front -/

/-- The text without the blanks in front. -/
def skipBlank (text : List Char) : List Char := text.dropWhile isBlank

/-- The number of an escape by four digits. -/
def unit? : List Char → Option (ℕ × List Char)
  | '\\' :: 'u' :: a :: b :: c :: d :: rest =>
    (Literal.hexDigits? [a, b, c, d]).map fun unit => (unit, rest)
  | _ => none

/-- The character of one escape by number, or of two that are surrogates. -/
def numbered? (text : List Char) : Option (Char × List Char) :=
  (unit? text).bind fun (high, rest) =>
    match Literal.charOfNumber? high with
    | some c => some (c, rest)
    | none =>
      (unit? rest).bind fun (low, rest) =>
        if high < 0xdc00 ∧ 0xdc00 ≤ low ∧ low < 0xe000 then
          (Literal.charOfNumber? (0x10000 + (high - 0xd800) * 0x400 + (low - 0xdc00))).map
            fun c => (c, rest)
        else none

/-- The first character between quotes. -/
def character? : List Char → Option (Char × List Char)
  | [] => none
  | '\\' :: [] => none
  | '\\' :: letter :: rest =>
    if letter = 'u' then numbered? ('\\' :: letter :: rest)
    else (shortEscapes.lookup letter).map fun c => (c, rest)
  | c :: rest => if 0x20 ≤ c.toNat ∧ c ≠ '"' then some (c, rest) else none

/-- The characters up to the closing quote. -/
def body? : (fuel : ℕ) → List Char → Option (List Char × List Char)
  | 0, _ => none
  | _ + 1, '"' :: rest => some ([], rest)
  | fuel + 1, text =>
    (character? text).bind fun (c, rest) =>
      (body? fuel rest).map fun (characters, rest) => (c :: characters, rest)

/-- The characters of which numbers are made. -/
def isNumberCharacter (c : Char) : Bool :=
  c.isDigit || c = '-' || c = '+' || c = '.' || c = 'e' || c = 'E'

/-- A name and its colon. -/
def name? (fuel : ℕ) (text : List Char) : Option (String × List Char) :=
  match skipBlank text with
  | '"' :: rest =>
    (body? fuel rest).bind fun (characters, rest) =>
      match skipBlank rest with
      | ':' :: rest => some (String.ofList characters, skipBlank rest)
      | _ => none
  | _ => none

mutual

/-- The value at the front of a text, and the text after it. -/
def value? : (fuel : ℕ) → List Char → Option (Value × List Char)
  | 0, _ => none
  | _ + 1, 'n' :: 'u' :: 'l' :: 'l' :: rest => some (.null, rest)
  | _ + 1, 't' :: 'r' :: 'u' :: 'e' :: rest => some (.boolean true, rest)
  | _ + 1, 'f' :: 'a' :: 'l' :: 's' :: 'e' :: rest => some (.boolean false, rest)
  | fuel + 1, '"' :: rest =>
    (body? fuel rest).map fun (characters, rest) => (.text (String.ofList characters), rest)
  | fuel + 1, '[' :: rest =>
    match skipBlank rest with
    | ']' :: rest => some (.array [], rest)
    | _ => (elements? fuel rest).map fun (values, rest) => (.array values, rest)
  | fuel + 1, '{' :: rest =>
    match skipBlank rest with
    | '}' :: rest => some (.object [], rest)
    | _ =>
      (fields? fuel rest).bind fun (pairs, rest) =>
        if (pairs.map Prod.fst).Nodup then some (.object pairs, rest) else none
  | _ + 1, text =>
    (number? (text.takeWhile isNumberCharacter)).map fun value =>
      (.number value, text.dropWhile isNumberCharacter)

/-- The elements of an array up to its closing bracket. -/
def elements? : (fuel : ℕ) → List Char → Option (List Value × List Char)
  | 0, _ => none
  | fuel + 1, text =>
    (value? fuel (skipBlank text)).bind fun (value, rest) =>
      match skipBlank rest with
      | ',' :: rest => (elements? fuel rest).map fun (values, rest) => (value :: values, rest)
      | ']' :: rest => some ([value], rest)
      | _ => none

/-- The fields of an object up to its closing brace. -/
def fields? : (fuel : ℕ) → List Char → Option (List (String × Value) × List Char)
  | 0, _ => none
  | fuel + 1, text =>
    (name? fuel text).bind fun (key, rest) =>
      (value? fuel rest).bind fun (value, rest) =>
        match skipBlank rest with
        | ',' :: rest => (fields? fuel rest).map fun (pairs, rest) => ((key, value) :: pairs, rest)
        | '}' :: rest => some ([(key, value)], rest)
        | _ => none

end

/-- The value of a whole text. -/
def parse (text : List Char) : Option Value :=
  (value? text.length (skipBlank text)).bind fun (value, rest) =>
    if (skipBlank rest).isEmpty then some value else none

/-! ## What is derived is read -/

section

variable {text rest gap : List Char}

/-- No character of a number stands in front. -/
def EndsNumber (rest : List Char) : Prop := rest.takeWhile isNumberCharacter = []

theorem EndsNumber.dropWhile_eq (ends : EndsNumber rest) :
    rest.dropWhile isNumberCharacter = rest := by
  conv_rhs => rw [← rest.takeWhile_append_dropWhile (p := isNumberCharacter), ends,
    List.nil_append]

theorem skipBlank_append (blank : Blank gap) (rest : List Char) :
    skipBlank (gap ++ rest) = skipBlank rest :=
  List.dropWhile_append_of_pos blank

theorem skipBlank_cons {c : Char} (visible : isBlank c = false) (rest : List Char) :
    skipBlank (c :: rest) = c :: rest :=
  List.dropWhile_cons_of_neg (by simp [visible])

/-- After blanks a character that is none stands in front. -/
theorem skipBlank_append_cons (blank : Blank gap) {c : Char} (visible : isBlank c = false)
    (rest : List Char) : skipBlank (gap ++ c :: rest) = c :: rest := by
  rw [skipBlank_append blank, skipBlank_cons visible]

theorem isNumberCharacter_of_isBlank {c : Char} (blank : isBlank c) :
    isNumberCharacter c = false := by
  simp only [isBlank, Bool.or_eq_true, decide_eq_true_eq, or_assoc] at blank
  obtain rfl | rfl | rfl | rfl := blank <;> rfl

theorem isBlank_of_isDigit {c : Char} (digit : c.isDigit) : isBlank c = false := by
  by_contra blank
  simp only [Bool.not_eq_false] at blank
  have := isNumberCharacter_of_isBlank blank
  simp [isNumberCharacter, digit] at this

/-- After blanks a comma or a bracket ends a number as it does without them. -/
theorem endsNumber_append (blank : Blank gap) {c : Char} (ends : isNumberCharacter c = false) :
    EndsNumber (gap ++ c :: rest) := by
  cases gap with
  | nil => exact List.takeWhile_cons_of_neg (by simp [ends])
  | cons first gap =>
    have first_blank := isNumberCharacter_of_isBlank (blank first List.mem_cons_self)
    exact List.takeWhile_cons_of_neg (by simp [first_blank])

end

/-! ### Numbers -/

section

variable {row lexeme : List Char}

theorem digits?_isSome (spelled : (digits? row).isSome) :
    row ≠ [] ∧ ∀ c ∈ row, c.isDigit := by
  unfold digits? at spelled
  split at spelled
  · next digits => exact ⟨digits.1, List.all_eq_true.mp digits.2⟩
  · exact absurd spelled (by simp)

theorem whole?_isSome (spelled : (whole? row).isSome) : row ≠ [] ∧ ∀ c ∈ row, c.isDigit := by
  unfold whole? at spelled
  split at spelled
  · exact absurd spelled (by simp)
  · exact digits?_isSome spelled

theorem fraction?_isSome (spelled : (fraction? row).isSome) :
    ∀ c ∈ row, c = '.' ∨ c.isDigit := by
  unfold fraction? at spelled
  split at spelled
  · simp
  · have digits := (digits?_isSome (by simpa using spelled)).2
    simpa using fun c member => Or.inr (digits c member)
  · exact absurd spelled (by simp)

theorem signedPower?_isSome (spelled : (signedPower? row).isSome) :
    ∀ c ∈ row, (c = '-' ∨ c = '+') ∨ c.isDigit := by
  unfold signedPower? at spelled
  split at spelled <;> rw [Option.isSome_map] at spelled <;>
    have digits := (digits?_isSome spelled).2
  · simpa using fun c member => Or.inr (digits c member)
  · simpa using fun c member => Or.inr (digits c member)
  · exact fun c member => Or.inr (digits c member)

theorem power?_isSome (spelled : (power? row).isSome) (marked : ∀ c ∈ row.head?, isPowerMark c) :
    ∀ c ∈ row, isPowerMark c ∨ (c = '-' ∨ c = '+') ∨ c.isDigit := by
  cases row with
  | nil => simp
  | cons mark row =>
    have exponent := signedPower?_isSome spelled
    simp only [List.head?_cons, Option.mem_some_iff, forall_eq'] at marked
    simpa [marked] using fun c member => Or.inr (exponent c member)

/-- A number is made of the characters of numbers, and starts with a digit after its sign. -/
theorem unsigned?_isSome (spelled : (unsigned? lexeme).isSome) :
    (∃ c rest, lexeme = c :: rest ∧ c.isDigit) ∧ ∀ c ∈ lexeme, isNumberCharacter c := by
  obtain ⟨number, spelled⟩ := Option.isSome_iff_exists.mp spelled
  unfold unsigned? at spelled
  set mantissa := lexeme.takeWhile (!isPowerMark ·)
  set exponent := lexeme.dropWhile (!isPowerMark ·)
  obtain ⟨whole, wholeSpelled, spelled⟩ := Option.bind_eq_some_iff.mp spelled
  obtain ⟨fraction, fractionSpelled, spelled⟩ := Option.bind_eq_some_iff.mp spelled
  obtain ⟨power, powerSpelled, -⟩ := Option.map_eq_some_iff.mp spelled
  have wholeDigits := whole?_isSome (Option.isSome_of_eq_some wholeSpelled)
  have fractionDigits := fraction?_isSome (Option.isSome_of_eq_some fractionSpelled)
  have powerDigits := power?_isSome (Option.isSome_of_eq_some powerSpelled) (by
    intro c first
    have := List.head?_dropWhile_not (!isPowerMark ·) lexeme
    simp_all [exponent])
  have parts : lexeme =
      mantissa.takeWhile (· != '.') ++ mantissa.dropWhile (· != '.') ++ exponent := by
    rw [List.takeWhile_append_dropWhile, List.takeWhile_append_dropWhile]
  rw [parts]
  constructor
  · obtain ⟨c, row, whole_eq⟩ := List.exists_cons_of_ne_nil wholeDigits.1
    rw [whole_eq] at wholeDigits ⊢
    exact ⟨c, row ++ mantissa.dropWhile (· != '.') ++ exponent, rfl,
      wholeDigits.2 c List.mem_cons_self⟩
  · intro c member
    simp only [List.mem_append] at member
    obtain (member | member) | member := member
    · simp [isNumberCharacter, wholeDigits.2 c member]
    · obtain rfl | digit := fractionDigits c member
      · rfl
      · simp [isNumberCharacter, digit]
    · obtain mark | (rfl | rfl) | digit := powerDigits c member
      · simp only [isPowerMark, Bool.or_eq_true, decide_eq_true_eq] at mark
        obtain rfl | rfl := mark <;> rfl
      · rfl
      · rfl
      · simp [isNumberCharacter, digit]

/-- A number starts with its sign or a digit, and has no characters but those of numbers. -/
theorem number?_isSome (spelled : (number? lexeme).isSome) :
    (∃ c rest, lexeme = c :: rest ∧ (c = '-' ∨ c.isDigit)) ∧
      ∀ c ∈ lexeme, isNumberCharacter c := by
  unfold number? at spelled
  split at spelled
  · next rest =>
    rw [Option.isSome_map] at spelled
    obtain ⟨-, characters⟩ := unsigned?_isSome spelled
    exact ⟨⟨'-', rest, rfl, .inl rfl⟩, List.forall_mem_cons.mpr ⟨rfl, characters⟩⟩
  · obtain ⟨⟨c, rest, lexeme_eq, digit⟩, characters⟩ := unsigned?_isSome spelled
    exact ⟨⟨c, rest, lexeme_eq, .inr digit⟩, characters⟩

end

/-! ### Characters -/

section

variable {text rest : List Char}

theorem UnitText.unit?_append {unit : ℕ} (written : UnitText text unit) (rest : List Char) :
    unit? (text ++ rest) = some (unit, rest) := by
  cases written with
  | intro digits => simp [unit?, digits]

theorem UnitText.character?_append {unit : ℕ} (written : UnitText text unit)
    (rest : List Char) : character? (text ++ rest) = numbered? (text ++ rest) := by
  cases written with
  | intro digits => simp [character?]

/-- The numbers of surrogates name no character. -/
theorem charOfNumber?_surrogate {high : ℕ} (inHigh : high < 0x400) :
    Literal.charOfNumber? (0xd800 + high) = none := by
  have invalid : ¬(0xd800 + high).isValidChar := by
    simp only [Nat.isValidChar]
    omega
  simp [Literal.charOfNumber?, invalid]

theorem CharacterText.character?_append {c : Char} (written : CharacterText text c)
    (rest : List Char) : character? (text ++ rest) = some (c, rest) := by
  cases written with
  | plain visible notQuote notSlash => simp [character?, visible, notQuote, notSlash]
  | short known =>
    simp only [shortEscapes, List.mem_cons, Prod.mk.injEq, List.not_mem_nil, or_false] at known
    obtain h | h | h | h | h | h | h | h := known <;> obtain ⟨rfl, rfl⟩ := h <;> rfl
  | number written named =>
    rw [written.character?_append, numbered?, written.unit?_append]
    simp [named]
  | surrogates written inHigh followed inLow named =>
    rw [List.append_assoc, written.character?_append, numbered?, written.unit?_append]
    simp only [Option.bind_some, charOfNumber?_surrogate inHigh, followed.unit?_append]
    rw [if_pos (by omega), Nat.add_sub_cancel_left, Nat.add_sub_cancel_left, named]
    rfl

/-- The quote that closes a row of characters is none of them. -/
theorem CharacterText.not_quote {c : Char} (written : CharacterText text c) :
    ∃ first others, text = first :: others ∧ first ≠ '"' := by
  cases written with
  | plain visible notQuote notSlash => exact ⟨_, _, rfl, notQuote⟩
  | short known => exact ⟨_, _, rfl, by decide⟩
  | number written named => cases written with | intro digits => exact ⟨_, _, rfl, by decide⟩
  | surrogates written inHigh followed inLow named =>
    cases written with | intro digits => exact ⟨_, _, rfl, by decide⟩

/-- A row of characters is read up to the quote that closes it. -/
theorem BodyText.body?_append {characters : List Char} (written : BodyText text characters)
    (rest : List Char) {fuel : ℕ} (enough : text.length < fuel) :
    body? fuel (text ++ '"' :: rest) = some (characters, rest) := by
  induction written generalizing fuel with
  | nil =>
    obtain ⟨fuel, rfl⟩ := Nat.exists_eq_add_one_of_ne_zero (Nat.ne_zero_of_lt enough)
    rfl
  | @cons piece text c characters head tail ih =>
    obtain ⟨fuel, rfl⟩ := Nat.exists_eq_add_one_of_ne_zero (Nat.ne_zero_of_lt enough)
    obtain ⟨first, others, rfl, notQuote⟩ := head.not_quote
    have shorter : text.length < fuel := by simp at enough; omega
    have read := head.character?_append (text ++ '"' :: rest)
    rw [List.append_assoc, List.cons_append, body?]
    · rw [← List.cons_append, read]
      simp [ih shorter]
    · simpa using notQuote

end

/-! ### Values -/

section

variable {text rest : List Char}

/-- A value starts with a character that is neither blank nor a closing bracket. -/
theorem Denotes.exists_cons {value : Value} (written : Denotes text value) :
    ∃ c others, text = c :: others ∧ isBlank c = false ∧ c ≠ ']' ∧ c ≠ '}' := by
  cases written
  case number spelled =>
    obtain ⟨⟨c, others, text_eq, first⟩, -⟩ := number?_isSome (Option.isSome_of_eq_some spelled)
    refine ⟨c, others, text_eq, ?_⟩
    obtain rfl | digit := first
    · decide
    · refine ⟨?_, ?_, ?_⟩
      · exact isBlank_of_isDigit digit
      · rintro rfl; contradiction
      · rintro rfl; contradiction
  all_goals exact ⟨_, _, rfl, by decide⟩

theorem Denotes.length_pos {value : Value} (written : Denotes text value) : 0 < text.length := by
  obtain ⟨c, others, rfl, -⟩ := written.exists_cons
  simp

theorem Denotes.skipBlank_append {value : Value} (written : Denotes text value)
    (rest : List Char) : skipBlank (text ++ rest) = text ++ rest := by
  obtain ⟨c, others, rfl, visible, -⟩ := written.exists_cons
  exact skipBlank_cons visible _

/-- Between the brackets of an array that has elements no bracket stands first. -/
theorem Elements.skipBlank_append {values : List Value} (written : Elements text values)
    (rest : List Char) : ∃ c others, skipBlank (text ++ rest) = c :: others ∧ c ≠ ']' := by
  cases written with
  | last blank head _ | cons blank head _ _ =>
    rw [List.append_assoc, Json.skipBlank_append blank, List.append_assoc, head.skipBlank_append]
    obtain ⟨c, others, rfl, -, notBracket, -⟩ := head.exists_cons
    exact ⟨c, _, rfl, notBracket⟩

theorem Name.skipBlank_append {key : String} (written : Name text key) (rest : List Char) :
    ∃ others, skipBlank (text ++ rest) = '"' :: others := by
  cases written with
  | intro blank written _ _ =>
    rw [List.append_assoc, Json.skipBlank_append blank]
    exact ⟨_, skipBlank_cons rfl _⟩

theorem Fields.skipBlank_append {pairs : List (String × Value)} (written : Fields text pairs)
    (rest : List Char) : ∃ others, skipBlank (text ++ rest) = '"' :: others := by
  cases written with
  | last named _ _ | cons named _ _ _ =>
    rw [List.append_assoc]
    exact named.skipBlank_append _

theorem Name.name?_append {key : String} (written : Name text key) (rest : List Char)
    {fuel : ℕ} (enough : text.length ≤ fuel) :
    name? fuel (text ++ rest) = some (key, skipBlank rest) := by
  cases written with
  | @intro first body second third characters blank written blank' blank'' =>
    simp only [List.append_assoc, List.cons_append, List.length_append, List.length_cons] at *
    rw [name?, Json.skipBlank_append blank, skipBlank_cons rfl]
    simp only
    rw [written.body?_append _ (by omega)]
    simp only [Option.bind_some]
    rw [Json.skipBlank_append blank', skipBlank_cons rfl]
    simp only [Json.skipBlank_append blank'']

end

mutual

/-- What denotes a value is read as this value, up to its end. -/
theorem Denotes.value?_append {text rest : List Char} {fuel : ℕ} {value : Value}
    (written : Denotes text value) (ends : EndsNumber rest) (enough : text.length ≤ fuel) :
    value? fuel (text ++ rest) = some (value, rest) := by
  obtain ⟨fuel, rfl⟩ := Nat.exists_eq_add_one_of_ne_zero (Nat.ne_zero_of_lt
    (written.length_pos.trans_le enough))
  match written with
  | .nullWord | .trueWord | .falseWord => rfl
  | .number spelled =>
    obtain ⟨⟨c, others, rfl, first⟩, characters⟩ :=
      number?_isSome (Option.isSome_of_eq_some spelled)
    have front : (c :: others ++ rest).takeWhile isNumberCharacter = c :: others := by
      rw [List.takeWhile_append_of_pos characters, ends, List.append_nil]
    have back : (c :: others ++ rest).dropWhile isNumberCharacter = rest := by
      rw [List.dropWhile_append_of_pos characters, ends.dropWhile_eq]
    have otherwise : ∀ d ∈ ['n', 't', 'f', '"', '[', '{'], c ≠ d := by
      rintro d known rfl
      obtain rfl | digit := first
      · simp at known
      · simp only [List.mem_cons, List.not_mem_nil, or_false] at known
        obtain rfl | rfl | rfl | rfl | rfl | rfl := known <;> contradiction
    rw [value?, front, back, spelled]
    · rfl
    all_goals
      intro tail same
      exact otherwise _ (by simp) (List.cons.inj same).1
  | .text written =>
    simp only [List.cons_append, List.append_assoc, List.length_append, List.length_cons,
      List.nil_append, value?] at enough ⊢
    rw [written.body?_append rest (by omega)]
    rfl
  | .noElements blank =>
    simp only [List.cons_append, List.append_assoc, List.nil_append, value?]
    rw [Json.skipBlank_append blank, skipBlank_cons rfl]
    rfl
  | .array elements =>
    obtain ⟨c, others, front, notBracket⟩ := elements.skipBlank_append (']' :: rest)
    simp only [List.cons_append, List.append_assoc, List.length_append, List.length_cons,
      List.nil_append, value?, front] at enough ⊢
    have read : elements? fuel (_ ++ ']' :: rest) = some (_, rest) :=
      Elements.elements?_append elements (by omega)
    rw [read]
    split
    · next closed => exact absurd (List.cons.inj closed).1 notBracket
    · rfl
  | .noFields blank =>
    simp only [List.cons_append, List.append_assoc, List.nil_append, value?]
    rw [Json.skipBlank_append blank, skipBlank_cons rfl]
    rfl
  | .object fields distinct =>
    obtain ⟨others, front⟩ := fields.skipBlank_append ('}' :: rest)
    simp only [List.cons_append, List.append_assoc, List.length_append, List.length_cons,
      List.nil_append, value?, front] at enough ⊢
    have read : fields? fuel (_ ++ '}' :: rest) = some (_, rest) :=
      Fields.fields?_append fields (by omega)
    rw [read]
    simp [distinct]

/-- The elements of an array are read up to its bracket. -/
theorem Elements.elements?_append {text rest : List Char} {fuel : ℕ} {values : List Value}
    (written : Elements text values) (enough : text.length < fuel) :
    elements? fuel (text ++ ']' :: rest) = some (values, rest) := by
  obtain ⟨fuel, rfl⟩ := Nat.exists_eq_add_one_of_ne_zero (Nat.ne_zero_of_lt enough)
  match written with
  | @Elements.last _ _ after _ blank head blank' =>
    simp only [List.append_assoc, List.length_append] at enough ⊢
    have read : value? fuel (_ ++ (after ++ ']' :: rest)) = some (_, after ++ ']' :: rest) :=
      Denotes.value?_append head (endsNumber_append blank' rfl) (by omega)
    have mark := skipBlank_append_cons blank' (show isBlank ']' = false from rfl) rest
    rw [elements?, Json.skipBlank_append blank, head.skipBlank_append, read]
    simp only [Option.bind_some, mark]
  | @Elements.cons _ _ after others _ _ blank head blank' tail =>
    simp only [List.append_assoc, List.cons_append, List.length_append, List.length_cons]
      at enough ⊢
    have read : value? fuel (_ ++ (after ++ ',' :: (others ++ ']' :: rest))) =
        some (_, after ++ ',' :: (others ++ ']' :: rest)) :=
      Denotes.value?_append head (endsNumber_append blank' rfl) (by omega)
    have readOthers : elements? fuel (others ++ ']' :: rest) = some (_, rest) :=
      Elements.elements?_append tail (by omega)
    have mark := skipBlank_append_cons blank' (show isBlank ',' = false from rfl)
      (others ++ ']' :: rest)
    rw [elements?, Json.skipBlank_append blank, head.skipBlank_append, read]
    simp only [Option.bind_some, mark, readOthers, Option.map_some]

/-- The fields of an object are read up to its brace. -/
theorem Fields.fields?_append {text rest : List Char} {fuel : ℕ}
    {pairs : List (String × Value)} (written : Fields text pairs) (enough : text.length < fuel) :
    fields? fuel (text ++ '}' :: rest) = some (pairs, rest) := by
  obtain ⟨fuel, rfl⟩ := Nat.exists_eq_add_one_of_ne_zero (Nat.ne_zero_of_lt enough)
  match written with
  | @Fields.last _ _ after _ _ named head blank =>
    simp only [List.append_assoc, List.length_append] at enough ⊢
    have read : value? fuel (_ ++ (after ++ '}' :: rest)) = some (_, after ++ '}' :: rest) :=
      Denotes.value?_append head (endsNumber_append blank rfl) (by omega)
    have mark := skipBlank_append_cons blank (show isBlank '}' = false from rfl) rest
    rw [fields?, named.name?_append _ (by omega), Option.bind_some]
    simp only [head.skipBlank_append, read, Option.bind_some, mark]
  | @Fields.cons _ _ after others _ _ _ named head blank tail =>
    simp only [List.append_assoc, List.cons_append, List.length_append, List.length_cons]
      at enough ⊢
    have read : value? fuel (_ ++ (after ++ ',' :: (others ++ '}' :: rest))) =
        some (_, after ++ ',' :: (others ++ '}' :: rest)) :=
      Denotes.value?_append head (endsNumber_append blank rfl) (by omega)
    have readOthers : fields? fuel (others ++ '}' :: rest) = some (_, rest) :=
      Fields.fields?_append tail (by omega)
    have mark := skipBlank_append_cons blank (show isBlank ',' = false from rfl)
      (others ++ '}' :: rest)
    rw [fields?, named.name?_append _ (by omega), Option.bind_some]
    simp only [head.skipBlank_append, read, Option.bind_some, mark, readOthers, Option.map_some]

end

/-- A document is read as the value that it denotes. -/
theorem IsDocument.parse_eq {text : List Char} {value : Value} (document : IsDocument text value) :
    parse text = some value := by
  obtain ⟨before, written, after, rfl, blank, denotes, blank'⟩ := document
  have ends : EndsNumber after := by
    cases after with
    | nil => rfl
    | cons first after =>
      have first_blank := isNumberCharacter_of_isBlank (blank' first List.mem_cons_self)
      exact List.takeWhile_cons_of_neg (by simp [first_blank])
  have end_eq : skipBlank after = [] := by
    rw [← List.append_nil after, Json.skipBlank_append blank']
    rfl
  rw [parse, Json.skipBlank_append blank, denotes.skipBlank_append,
    denotes.value?_append ends (by simp; omega), Option.bind_some]
  simp [end_eq]

/-- A document denotes one value. -/
theorem IsDocument.unique {text : List Char} {first second : Value}
    (denotes : IsDocument text first) (denotes' : IsDocument text second) : first = second :=
  Option.some.inj (denotes.parse_eq.symm.trans denotes'.parse_eq)

example : parse "[ \x7b\"a\": \"\\ud83d\\ude00\"\x7d ]\n".toList =
    some (.array [.object [("a", .text "😀")]]) := by cbv

example : parse "[1,]".toList = none := by cbv

end InjectionCheck.Json
