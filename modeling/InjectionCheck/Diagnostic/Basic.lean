import InjectionCheck.Diagnostic.Code
import InjectionCheck.Text.Span

/-!
# Diagnostics

A diagnostic is a code, a severity and a message, with labels that point into
source text, notes that give context and suggestions that help to mend the cause.

Every label may name its own file: a registration in one file is routinely
explained by a parameter in another.
-/

set_option autoImplicit false

namespace InjectionCheck

/-- Whether a diagnostic refuses the program or only warns. -/
inductive Severity where
  | error
  | warning
deriving DecidableEq, Repr, Inhabited

instance : ToString Severity where
  toString
    | .error => "error"
    | .warning => "warning"

/-- A source text together with the path under which it is known. -/
structure SourceFile where
  path : String
  content : List Char
deriving DecidableEq, Repr, Inhabited

/-- A place in a source text and what is to be said of it. -/
structure Label where
  span : Span
  message : String
  /-- The place of the problem itself, and not a place that explains it. -/
  isPrimary : Bool
  /-- The file of the span, when it is known. -/
  file : Option SourceFile
deriving DecidableEq, Repr, Inhabited

namespace Label

/-- The path of the labelled file. -/
def path? (label : Label) : Option String := label.file.map SourceFile.path

/-- The mark that introduces a label. -/
def marker (label : Label) : String := if label.isPrimary then "-->" else ":::"

end Label

/-- A message with everything that is needed to understand it. -/
structure Diagnostic where
  code : Code
  severity : Severity
  message : String
  labels : List Label
  notes : List String
  suggestions : List String
deriving DecidableEq, Repr, Inhabited

namespace Diagnostic

/-- A diagnostic that refuses the program. -/
def error (code : Code) (message : String) (labels : List Label)
    (notes suggestions : List String) : Diagnostic :=
  ⟨code, .error, message, labels, notes, suggestions⟩

/-- A diagnostic that only warns. -/
def warning (code : Code) (message : String) (labels : List Label)
    (notes suggestions : List String) : Diagnostic :=
  ⟨code, .warning, message, labels, notes, suggestions⟩

/-- Whether a diagnostic refuses the program. -/
def isError (diagnostic : Diagnostic) : Bool := diagnostic.severity = .error

/-- The line of a label in the plain form of a diagnostic. -/
def labelLine (label : Label) : String :=
  match label.path? with
  | some path => s!"  {label.marker} {path} {label.span}: {label.message}"
  | none => s!"  {label.marker} {label.span}: {label.message}"

/-- The lines of the plain form: the header, the labels, the notes, the
suggestions. -/
def plainLines (diagnostic : Diagnostic) : List String :=
  s!"{diagnostic.severity} [{diagnostic.code.text}]: {diagnostic.message}" ::
    diagnostic.labels.map labelLine ++
    diagnostic.notes.map (s!"  = note: {·}") ++
    diagnostic.suggestions.map (s!"  = help: {·}")

/-- The plain form of a diagnostic, without source text. -/
def plain (diagnostic : Diagnostic) : String :=
  "\n".intercalate diagnostic.plainLines

end Diagnostic

end InjectionCheck
