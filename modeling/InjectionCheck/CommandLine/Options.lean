import InjectionCheck.CommandLine.Failure
import InjectionCheck.Diagnostic.Terminal

/-!
# Options of a check

The arguments of a check are options and paths, in any order. Of two values for one
option the later one counts, and the first argument that cannot be read is refused.
Without a path the current folder is checked.
-/

set_option autoImplicit false

namespace InjectionCheck

/-- The forms of a report. -/
inductive OutputFormat where
  /-- The form for readers. -/
  | text
  | json
deriving DecidableEq, Repr, Inhabited

/-- How a check is reported. -/
structure CheckOptions where
  format : OutputFormat
  color : ColorMode
  /-- Progress and literals that are left out are reported too. -/
  verbose : Bool
deriving DecidableEq, Repr, Inhabited

/-- The options and paths of a check. -/
structure CheckRequest where
  options : CheckOptions
  paths : List String
deriving DecidableEq, Repr

namespace CheckOptions

/-- The options of a check without arguments. -/
def standard : CheckOptions := ⟨.text, .auto, false⟩

/-- The form of a report with a name. -/
def formatNamed (value : String) : Except Failure OutputFormat :=
  match value with
  | "text" => .ok .text
  | "json" => .ok .json
  | _ => .error (.invalidFlag "--format" value)

/-- The use of color with a name. -/
def colorNamed (value : String) : Except Failure ColorMode :=
  match value with
  | "auto" => .ok .auto
  | "always" => .ok .always
  | "never" => .ok .never
  | _ => .error (.invalidFlag "--color" value)

end CheckOptions

/-- What follows a beginning, if a text starts with it. -/
def afterBeginning? (beginning text : String) : Option String :=
  if beginning.toList.isPrefixOf text.toList then
    some (String.ofList (text.toList.drop beginning.toList.length))
  else none

namespace CheckRequest

/-- Reads one more argument. -/
def read (request : CheckRequest) (argument : String) : Except Failure CheckRequest :=
  match afterBeginning? "--format=" argument, afterBeginning? "--color=" argument with
  | some value, _ =>
    (CheckOptions.formatNamed value).map fun format =>
      { request with options := { request.options with format } }
  | none, some value =>
    (CheckOptions.colorNamed value).map fun color =>
      { request with options := { request.options with color } }
  | none, none =>
    if argument = "--verbose" ∨ argument = "-v" then
      .ok { request with options := { request.options with verbose := true } }
    else if (afterBeginning? "-" argument).isSome then .error (.unknownOption argument)
    else .ok { request with paths := request.paths ++ [argument] }

/-- The options and paths that arguments ask for. -/
def ofArguments (arguments : List String) : Except Failure CheckRequest := do
  let request ← arguments.foldlM read ⟨.standard, []⟩
  return if request.paths.isEmpty then { request with paths := ["."] } else request

end CheckRequest

end InjectionCheck
