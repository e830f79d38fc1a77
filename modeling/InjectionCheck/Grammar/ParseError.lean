import InjectionCheck.Diagnostic.Basic
import InjectionCheck.Token.Kind

/-!
# Errors of the grammar

An error says what a rule expected and what it found, or that a bracket is not
closed. The wording and the code follow from the cause. An error inside brackets
may point back at the bracket that was opened.
-/

set_option autoImplicit false

namespace InjectionCheck

/-- What a rule can expect. -/
inductive Expectation where
  /-- A token of a kind, or the end of the file. -/
  | token (kind : Option Kind)
  /-- A token that opens a bracket. -/
  | openBracket
  | expression
  | identifier
  | type
  /-- A name with a meaning of its own at its place. -/
  | word (text : String)
  | classBody
  | statement
  | importSpecifiers
  | moduleSpecifier
deriving DecidableEq, Repr

namespace Expectation

/-- What was expected, as messages call it. -/
def text : Expectation → String
  | .token kind => s!"`{Kind.titleOrEnd kind}`"
  | .openBracket => "`(`, `[` or `\x7b`"
  | .expression => "expression"
  | .identifier => "identifier"
  | .type => "type"
  | .word spelling => s!"`{spelling}`"
  | .classBody => "class body"
  | .statement => "statement"
  | .importSpecifiers => "import specifiers"
  | .moduleSpecifier => "module specifier string"

/-- The code of an error that expected something. -/
def code : Expectation → Code
  | .expression => .expectedExpression
  | .identifier => .expectedIdentifier
  | .type => .expectedType
  | _ => .unexpectedToken

end Expectation

/-- A mark that opened something, and where. -/
structure Opening where
  mark : Mark
  span : Span
deriving DecidableEq, Repr

/-- Why a rule failed. -/
inductive Complaint where
  /-- Something was expected and something else was found. -/
  | expected (what : Expectation) (found : Option Kind)
  /-- The file ended before a mark was closed by another. -/
  | unclosed (opening closing : Mark)
deriving DecidableEq, Repr

/-- An error of the grammar in one file. -/
structure ParseError where
  complaint : Complaint
  span : Span
  /-- What was opened and has to do with the error. -/
  opening : Option Opening
deriving DecidableEq, Repr

namespace ParseError

/-- Something was expected, and something else stands at a span. -/
def expected (what : Expectation) (found : Option Kind) (span : Span) : ParseError :=
  ⟨.expected what found, span, none⟩

/-- The file ended at a span before an opening was closed. -/
def unclosed (opening : Opening) (closing : Mark) (span : Span) : ParseError :=
  ⟨.unclosed opening.mark closing, span, some opening⟩

/-- The error, pointing back at an opening. -/
def inside (opening : Opening) (error : ParseError) : ParseError :=
  { error with opening := some opening }

/-- The code of an error. -/
def code (error : ParseError) : Code :=
  match error.complaint with
  | .expected what _ => what.code
  | .unclosed _ _ => .unclosedDelimiter

/-- The wording of an error. -/
def message (error : ParseError) : String :=
  match error.complaint with
  | .expected what found => s!"expected {what.text}, found {Kind.described found}"
  | .unclosed opening _ => s!"unclosed delimiter `{opening.text}`"

/-- What is said at the place of an error. -/
def context (error : ParseError) : String :=
  match error.complaint with
  | .expected what _ => s!"expected {what.text}"
  | .unclosed _ closing => s!"expected `{closing.text}`"

/-- What is said of an opening. -/
def openingMessage (opening : Opening) : String := s!"`{opening.mark.text}` opened here"

/-- How to mend an error. -/
def help (error : ParseError) : List String :=
  match error.complaint with
  | .expected _ _ => []
  | .unclosed _ closing => [s!"add a matching `{closing.text}`"]

/-- The diagnostic of an error in a file. -/
def diagnostic (error : ParseError) (file : SourceFile) : Diagnostic :=
  let related := error.opening.toList.map fun opening =>
    (⟨opening.span, openingMessage opening, false, some file⟩ : Label)
  .error error.code error.message (⟨error.span, error.context, true, some file⟩ :: related) []
    error.help

end ParseError

end InjectionCheck
