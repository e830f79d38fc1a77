import InjectionCheck.Diagnostic.Position

/-!
# Diagnostics as a document for machines

The diagnostics as one array of objects, one line for every field. Texts are
quoted: a quote and a backslash are escaped, line feed, carriage return and tab
have short escapes, and every other control character is written by its number.
-/

set_option autoImplicit false

namespace InjectionCheck.Json

/-- A control character is one of the two blocks of control codes. -/
def isControl (c : Char) : Bool :=
  c.toNat < 0x20 || (0x7f ≤ c.toNat && c.toNat < 0xa0)

/-- The four hexadecimal digits of a number below 65536. -/
def fourDigits (value : Nat) : List Char :=
  [value / 4096 % 16, value / 256 % 16, value / 16 % 16, value % 16].map Nat.digitChar

/-- A character inside quotes. -/
def escapeChar (c : Char) : List Char :=
  if c = '"' then ['\\', '"']
  else if c = '\\' then ['\\', '\\']
  else if c = '\n' then ['\\', 'n']
  else if c = '\r' then ['\\', 'r']
  else if c = '\t' then ['\\', 't']
  else if isControl c then '\\' :: 'u' :: fourDigits c.toNat
  else [c]

/-- A text in quotes. -/
def quoted (text : String) : String :=
  "\"" ++ String.ofList (text.toList.flatMap escapeChar) ++ "\""

/-- The elements of a list, with a comma after each but the last. -/
def withCommas (render : String → String) : List String → String
  | [] => ""
  | [last] => render last ++ "\n"
  | element :: rest => render element ++ ",\n" ++ withCommas render rest

/-- The fields of a label that say where it points in its file. -/
def positionFields (label : Label) : String :=
  match label.position? with
  | some position =>
    "        \"file\": " ++ quoted position.path ++ ",\n" ++
    "        \"line\": " ++ toString position.line ++ ",\n" ++
    "        \"column\": " ++ toString position.column ++ ",\n"
  | none => ""

/-- A label as an object. -/
def labelObject (label : Label) : String :=
  "      \x7b\n" ++
  positionFields label ++
  "        \"start\": " ++ toString label.span.start ++ ",\n" ++
  "        \"length\": " ++ toString label.span.length ++ ",\n" ++
  "        \"message\": " ++ quoted label.message ++ ",\n" ++
  "        \"primary\": " ++ (if label.isPrimary then "true" else "false") ++ "\n" ++
  "      \x7d"

/-- A diagnostic as an object. -/
def diagnosticObject (diagnostic : Diagnostic) : String :=
  "  \x7b\n" ++
  "    \"code\": \"" ++ diagnostic.code.text ++ "\",\n" ++
  "    \"severity\": \"" ++ toString diagnostic.severity ++ "\",\n" ++
  "    \"message\": " ++ quoted diagnostic.message ++ ",\n" ++
  "    \"labels\": [\n" ++
  withCommas id (diagnostic.labels.map labelObject) ++
  "    ],\n" ++
  "    \"notes\": [\n" ++
  withCommas ("      " ++ quoted ·) diagnostic.notes ++
  "    ],\n" ++
  "    \"suggestions\": [\n" ++
  withCommas ("      " ++ quoted ·) diagnostic.suggestions ++
  "    ]\n" ++
  "  \x7d"

/-- The document of a list of diagnostics. -/
def render (diagnostics : List Diagnostic) : String :=
  if diagnostics.isEmpty then "[]\n"
  else "[\n" ++ ",\n".intercalate (diagnostics.map diagnosticObject) ++ "\n]\n"

end InjectionCheck.Json
