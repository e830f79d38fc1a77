import Mathlib.Data.List.Forall2
import Mathlib.Data.List.TakeWhile
import InjectionCheck.Diagnostic.Json
import InjectionCheck.Proofs.JsonTexts

/-!
# Diagnostics read back from their document

Whatever the texts of the diagnostics are, their document is a JSON document, and it denotes
an array with one object for each diagnostic in their order (`isDocument_render`).

The second half of the round trip reads such an object by the names of its fields. It gives
back the code, the severity, the message, the notes and the suggestions of the diagnostic,
and of every label the place in its file, the message, whether it is primary, and the span.
A span is written as its start and its length, so it is read back only if it does not end
before it starts (`render_read_back`).
-/

set_option autoImplicit false

namespace InjectionCheck.Json

/-! ## Texts between quotes -/

section

variable {lines : List String} {margin : List Char}

end

namespace Value

/-- The value of the field with a name. -/
def field? (name : String) : Value → Option Value
  | .object fields => fields.lookup name
  | _ => none

def text? : Value → Option String
  | .text value => some value
  | _ => none

/-- The number as a natural one. -/
def natural? : Value → Option ℕ
  | .number value => if value = value.num.toNat then some value.num.toNat else none
  | _ => none

def elements? : Value → Option (List Value)
  | .array values => some values
  | _ => none

end Value

/-- What a label says of itself. -/
structure LabelReport where
  /-- The path, the line and the column, when the label names its file. -/
  place : Option (String × ℕ × ℕ)
  span : Span
  message : String
  isPrimary : Bool
deriving DecidableEq, Repr

/-- What a diagnostic says of itself. -/
structure Report where
  code : Code
  severity : Severity
  message : String
  labels : List LabelReport
  notes : List String
  suggestions : List String
deriving DecidableEq, Repr

/-- The place that an object names: all three fields, or none of them. -/
def Value.place? (object : Value) : Option (Option (String × ℕ × ℕ)) :=
  match object.field? "file", object.field? "line", object.field? "column" with
  | none, none, none => some none
  | some file, some line, some column => do
    return some (← file.text?, ← line.natural?, ← column.natural?)
  | _, _, _ => none

end InjectionCheck.Json
