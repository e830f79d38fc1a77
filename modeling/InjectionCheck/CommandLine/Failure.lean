/-!
# Failures of the program itself

What goes wrong with arguments and with the disk, as opposed to what is wrong with
the files that are checked.
-/

set_option autoImplicit false

namespace InjectionCheck

/-- Why the disk does not give what is asked for. -/
inductive DiskFailure where
  /-- Nothing stands at the path. -/
  | missing
  /-- The user may not read it. -/
  | denied
  /-- The content is no text. -/
  | notText
  /-- The path goes on after a file. -/
  | notFolder
  /-- A folder stands where a file is read. -/
  | notFile
  /-- The path, or a name in it, is longer than the disk admits. -/
  | tooLong
  /-- Something else, in the words of the system. -/
  | other (text : String)
deriving DecidableEq, Repr

/-- How a failure of the disk is described when a path could not be read. -/
def DiskFailure.message (path : String) : DiskFailure → String
  | .missing => s!"cannot find '{path}'"
  | .denied => s!"permission denied reading '{path}'"
  | .notText => s!"'{path}' contains invalid UTF-8 data"
  | .notFolder => s!"error reading '{path}': Not a directory (os error 20)"
  | .notFile => s!"error reading '{path}': Is a directory (os error 21)"
  | .tooLong => s!"error reading '{path}': File name too long (os error 36)"
  | .other text => s!"error reading '{path}': {text}"

/-- A failure of the program itself. -/
inductive Failure where
  | unreadable (path : String) (cause : DiskFailure)
  /-- There is nothing to check in a folder. -/
  | noSources (path : String)
  | invalidFlag (flag value : String)
  | unknownOption (option : String)
  | unknownCode (code : String)
deriving DecidableEq, Repr

/-- The wording of a failure. -/
def Failure.message : Failure → String
  | .unreadable path cause => cause.message path
  | .noSources path => s!"no .ts files found in {path}"
  | .invalidFlag flag value => s!"invalid value '{value}' for {flag}"
  | .unknownOption option => s!"unknown option '{option}'"
  | .unknownCode code => s!"unknown error code '{code}'"

end InjectionCheck
