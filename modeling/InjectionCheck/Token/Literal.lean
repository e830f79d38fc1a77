/-!
# What a string literal denotes

Inside a string literal a backslash starts an escape. `decode` reads the escapes
of a literal's body, the text between its quotes:

* the letters `n`, `t`, `r`, `b`, `f`, `v` and the digit `0` stand for a control
  character;
* a line end after the backslash stands for nothing;
* `x` with two digits, `u` with four, and `u` with digits in braces stand for the
  character of that number, when there is one;
* before any other character the backslash stands for nothing.

The digits of an escape are read as a number, with a sign `+` admitted in front.
An escape whose digits give no character is kept without its braces.
-/

set_option autoImplicit false

namespace InjectionCheck.Literal

/-- The value of a hexadecimal digit. -/
def hexDigit? (c : Char) : Option Nat :=
  if '0' ≤ c ∧ c ≤ '9' then some (c.toNat - '0'.toNat)
  else if 'a' ≤ c ∧ c ≤ 'f' then some (c.toNat - 'a'.toNat + 10)
  else if 'A' ≤ c ∧ c ≤ 'F' then some (c.toNat - 'A'.toNat + 10)
  else none

/-- The value of a row of hexadecimal digits. -/
def hexDigits? (digits : List Char) : Option Nat :=
  digits.foldlM (fun value c => (hexDigit? c).map (value * 16 + ·)) 0

/-- The value of a hexadecimal number, which has at least one digit and may have
a sign in front. -/
def hexNumber? : List Char → Option Nat
  | [] => none
  | ['+'] => none
  | '+' :: digits => hexDigits? digits
  | digits => hexDigits? digits

/-- The character with a given number: surrogates and numbers beyond the last
character have none. -/
def charOfNumber? (number : Nat) : Option Char :=
  if number.isValidChar then some (Char.ofNat number) else none

/-- The character that the digits of an escape name; digits that name none are
kept after the backslash and the letter. -/
def codePoint (letter : Char) (digits : List Char) : List Char :=
  match (hexNumber? digits).bind charOfNumber? with
  | some c => [c]
  | none => '\\' :: letter :: digits

/-- The control character that a letter after a backslash stands for. -/
def control? : Char → Option Char
  | 'n' => some '\n'
  | 't' => some '\t'
  | 'r' => some '\r'
  | 'b' => some '\x08'
  | 'f' => some '\x0c'
  | 'v' => some '\x0b'
  | '0' => some '\x00'
  | _ => none

/-- The text that a body denotes. -/
def decode : List Char → List Char
  | [] => []
  | '\\' :: '\r' :: '\n' :: rest => decode rest
  | '\\' :: '\r' :: rest => decode rest
  | '\\' :: '\n' :: rest => decode rest
  | '\\' :: 'x' :: rest => codePoint 'x' (rest.take 2) ++ decode (rest.drop 2)
  | '\\' :: 'u' :: '{' :: rest =>
    codePoint 'u' (rest.takeWhile (· != '}')) ++ decode ((rest.dropWhile (· != '}')).drop 1)
  | '\\' :: 'u' :: rest => codePoint 'u' (rest.take 4) ++ decode (rest.drop 4)
  | '\\' :: c :: rest => (control? c).getD c :: decode rest
  | c :: rest => c :: decode rest
termination_by body => body.length
decreasing_by
  all_goals simp only [List.length_cons, List.length_drop]
  all_goals try omega
  have := (rest.dropWhile_suffix (· != '}')).length_le
  omega

end InjectionCheck.Literal
