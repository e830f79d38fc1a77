/-!
# Diagnostic codes

Every diagnostic carries a code. The letter of a code is its severity, and the
first digit is the phase that reports it: tokens, grammar, imports between files,
configurations.
-/

set_option autoImplicit false

namespace InjectionCheck

/-- What a diagnostic is about. -/
inductive Code where
  /-- A string literal without its closing quote. -/
  | unterminatedString
  /-- A character that starts no token. -/
  | invalidCharacter
  /-- A template literal without its closing mark. -/
  | unterminatedTemplate
  /-- A block comment without its end. -/
  | unterminatedComment
  /-- A token that cannot stand where it does. -/
  | unexpectedToken
  /-- No expression where one has to stand. -/
  | expectedExpression
  /-- A bracket that is not closed. -/
  | unclosedDelimiter
  /-- No name where one has to stand. -/
  | expectedIdentifier
  /-- No type where one has to stand. -/
  | expectedType
  /-- A relative import of an unknown file or of a name it does not export. -/
  | unresolvedImport
  /-- A configuration that describes no container that can be built. -/
  | invalidConfiguration
deriving DecidableEq, Repr, Inhabited

namespace Code

/-- Every code, in the order of the phases. -/
def all : List Code :=
  [.unterminatedString, .invalidCharacter, .unterminatedTemplate,
    .unterminatedComment, .unexpectedToken, .expectedExpression,
    .unclosedDelimiter, .expectedIdentifier, .expectedType,
    .unresolvedImport, .invalidConfiguration]

/-- The written code. -/
def text : Code → String
  | .unterminatedString => "E0001"
  | .invalidCharacter => "E0002"
  | .unterminatedTemplate => "E0003"
  | .unterminatedComment => "E0004"
  | .unexpectedToken => "E1001"
  | .expectedExpression => "E1002"
  | .unclosedDelimiter => "E1003"
  | .expectedIdentifier => "E1004"
  | .expectedType => "E1005"
  | .unresolvedImport => "W2001"
  | .invalidConfiguration => "E3001"

/-- The short title of a code. -/
def title : Code → String
  | .unterminatedString => "unterminated string literal"
  | .invalidCharacter => "invalid character"
  | .unterminatedTemplate => "unterminated template literal"
  | .unterminatedComment => "unterminated block comment"
  | .unexpectedToken => "unexpected token"
  | .expectedExpression => "expected expression"
  | .unclosedDelimiter => "unclosed delimiter"
  | .expectedIdentifier => "expected identifier"
  | .expectedType => "expected type"
  | .unresolvedImport => "unresolved import"
  | .invalidConfiguration => "invalid dependency-injection configuration"

/-- Codes reported while the source is cut into tokens. -/
def isLexical : Code → Bool
  | .unterminatedString | .invalidCharacter | .unterminatedTemplate | .unterminatedComment => true
  | _ => false

/-- Codes reported while tokens are read as declarations. -/
def isGrammatical : Code → Bool
  | .unexpectedToken | .expectedExpression | .unclosedDelimiter | .expectedIdentifier
  | .expectedType => true
  | _ => false

/-- Codes reported while configurations are validated. -/
def isValidation : Code → Bool
  | .invalidConfiguration => true
  | _ => false

/-- Codes that warn and refuse nothing. -/
def isWarning : Code → Bool
  | .unresolvedImport => true
  | _ => false

/-- The code that a text spells, in upper or lower case. -/
def ofText? (text : String) : Option Code :=
  all.find? fun code => code.text = text.toUpper

end Code

end InjectionCheck
