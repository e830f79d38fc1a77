import InjectionCheck.Diagnostic.Position

/-!
# Diagnostics on a terminal

The form for readers: a header, then every label with its line and column. Under
a primary label stands the source line with the labelled characters underlined.
Color is optional, and is a matter of the text alone: without it exactly the
escape sequences are missing.
-/

set_option autoImplicit false

namespace InjectionCheck

/-- When the terminal form is colored. -/
inductive ColorMode where
  /-- Color for a terminal only. -/
  | auto
  | always
  | never
deriving DecidableEq, Repr, Inhabited

/-- Whether to color what is written to a terminal, or to something else. -/
def ColorMode.usesColors (mode : ColorMode) (isTerminal : Bool) : Bool :=
  match mode with
  | .auto => isTerminal
  | .always => true
  | .never => false

namespace Terminal

/-- The ways in which a piece of the terminal form is set off. -/
inductive Paint where
  | error
  | warning
  | help
  | bold
  | secondary
deriving DecidableEq, Repr

/-- The escape sequence that starts a paint. -/
def Paint.start : Paint → String
  | .error => "\x1b[1;31m"
  | .warning => "\x1b[1;33m"
  | .help => "\x1b[1;32m"
  | .bold => "\x1b[1m"
  | .secondary => "\x1b[1;34m"

/-- The escape sequence that ends every paint. -/
def Paint.stop : String := "\x1b[0m"

/-- A text in a paint, when color is on. -/
def painted (colors : Bool) (paint : Paint) (text : String) : String :=
  if colors then paint.start ++ text ++ Paint.stop else text

/-- The paint of a severity. -/
def severityPaint : Severity → Paint
  | .error => .error
  | .warning => .warning

/-- The paint of a label's message and underline. -/
def labelPaint (label : Label) : Paint :=
  if label.isPrimary then .error else .secondary

/-- The number of marks under a label: as many as its span is long, within the
characters that are left on the line, and at least one. -/
def underlineWidth (span : Span) (column lineLength : Nat) : Nat :=
  max 1 (min span.length (max 1 (lineLength - (column - 1))))

/-- A character, repeated. -/
def repeated (c : Char) (count : Nat) : String :=
  String.ofList (List.replicate count c)

/-- The source line of a label with its underline. -/
def snippet (colors : Bool) (label : Label) (position : Label.Position)
    (lineText : List Char) : String :=
  let gutter := toString position.line
  let pad := repeated ' ' gutter.length
  let indent := repeated ' ' (position.column - 1)
  let marks := repeated '^' (underlineWidth label.span position.column lineText.length)
  "   " ++ pad ++ " |\n" ++
  "   " ++ gutter ++ " | " ++ String.ofList lineText ++ "\n" ++
  "   " ++ pad ++ " | " ++ indent ++ painted colors (labelPaint label) marks ++ "\n"

/-- A label: where it points, what it says, and for a primary label the source
line. -/
def labelText (colors : Bool) (label : Label) : String :=
  let (place, shown) :=
    match label.position? with
    | some position =>
      (painted colors .bold s!"{position.path}:{position.line}:{position.column}",
        match position.lineText with
        | some lineText => if label.isPrimary then snippet colors label position lineText else ""
        | none => "")
    | none => (toString label.span, "")
  "  " ++ label.marker ++ " " ++ place ++ ": " ++
    painted colors (labelPaint label) label.message ++ "\n" ++ shown

/-- A diagnostic, followed by an empty line. -/
def diagnosticText (colors : Bool) (diagnostic : Diagnostic) : String :=
  painted colors (severityPaint diagnostic.severity) (toString diagnostic.severity) ++
  painted colors .bold s!"[{diagnostic.code.text}]" ++
  ": " ++ diagnostic.message ++ "\n" ++
  String.join (diagnostic.labels.map (labelText colors)) ++
  String.join (diagnostic.notes.map fun note =>
    "  = " ++ painted colors .bold "note" ++ ": " ++ note ++ "\n") ++
  String.join (diagnostic.suggestions.map fun suggestion =>
    "  = " ++ painted colors .help "help" ++ ": " ++ suggestion ++ "\n") ++
  "\n"

/-- A noun after a count: `s` unless the count is one. -/
def pluralEnding (count : Nat) : String := if count = 1 then "" else "s"

/-- The closing line, which counts errors and warnings; there is none when
nothing was found. -/
def summary (colors : Bool) (errors warnings : Nat) : String :=
  let warningPart := s!"{warnings} warning{pluralEnding warnings} emitted\n"
  if 0 < errors then
    let errorPart := s!": found {errors} configuration error{pluralEnding errors}"
    painted colors .error "error" ++ errorPart ++
      (if 0 < warnings then "; " ++ warningPart else "\n")
  else if 0 < warnings then painted colors .warning "warning" ++ ": " ++ warningPart
  else ""

/-- The terminal form of a list of diagnostics, without the closing line. -/
def render (colors : Bool) (diagnostics : List Diagnostic) : String :=
  String.join (diagnostics.map (diagnosticText colors))

end Terminal

end InjectionCheck
