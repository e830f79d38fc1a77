import InjectionCheck.Diagnostic.Basic
import InjectionCheck.Text.Unseen
import InjectionCheck.Token.Scanner

/-!
# Diagnostics of faulty pieces

What is reported for a piece of a source that is no token.
-/

set_option autoImplicit false

namespace InjectionCheck.Fault

/-- The code of a fault. -/
def code : Fault → Code
  | .strayCharacter _ => .invalidCharacter
  | .openString => .unterminatedString
  | .openTemplate => .unterminatedTemplate
  | .openComment => .unterminatedComment

/-- The wording of a fault. -/
def message : Fault → String
  | .strayCharacter c => "invalid character `" ++ String.ofList (Unseen.shown c) ++ "`"
  | .openString => "unterminated string literal"
  | .openTemplate => "unterminated template literal"
  | .openComment => "unterminated block comment"

/-- What is said at the place of a fault. -/
def labelMessage : Fault → String
  | .strayCharacter _ => "not valid here"
  | .openString => "string starts here"
  | .openTemplate => "template starts here"
  | .openComment => "comment starts here"

/-- How to mend a fault. -/
def suggestions : Fault → List String
  | .strayCharacter _ => []
  | .openString => ["close the string with a matching quote before the end of the line"]
  | .openTemplate => ["close the template literal with a backtick"]
  | .openComment => ["close the comment with `*/`"]

/-- The diagnostic of a fault in a file. -/
def diagnostic (fault : Fault) (span : Span) (file : SourceFile) : Diagnostic :=
  .error fault.code fault.message [⟨span, fault.labelMessage, true, some file⟩] []
    fault.suggestions

end InjectionCheck.Fault
