import InjectionCheck.CommandLine.Run

/-!
# The command line

The program on the disk of the machine.
-/

set_option autoImplicit false

namespace InjectionCheck

/-- Whether a failure has a number; some calls of the system give it negated. -/
def hasNumber (code number : UInt32) : Bool := code = number || code = 0 - number

/-- What the system reports when it does not give what was asked for. -/
def failureOf (cause : IO.Error) : DiskFailure :=
  match cause with
  | .noFileOrDirectory .. | .noSuchThing .. => .missing
  | .permissionDenied .. => .denied
  | .inappropriateType _ code _ =>
    if hasNumber code 20 then .notFolder
    else if hasNumber code 21 then .notFile
    else .other (toString cause)
  | .invalidArgument _ code _ =>
    if hasNumber code 36 then .tooLong else .other (toString cause)
  | cause => .other (toString cause)

/-- An answer of the system. -/
def answerOf {α : Type} (action : IO α) : IO (Except DiskFailure α) := do
  try return .ok (← action) catch cause => return .error (failureOf cause)

/-- The disk of the machine. -/
def machineDisk : Disk IO where
  kind path := answerOf do
    let metadata ← System.mkFilePath [path] |>.metadata
    return if metadata.type == .file then .file else .folder
  names path := answerOf do
    return (← System.mkFilePath [path] |>.readDir).toList.map (·.fileName)
  canonical path := do
    try return some (← IO.FS.realPath path).toString catch _ => return none
  read path := do
    match ← answerOf (IO.FS.readBinFile path) with
    | .error cause => return .error cause
    | .ok content =>
      match String.fromUTF8? content with
      | some text => return .ok text
      | none => return .error .notText

end InjectionCheck

open InjectionCheck in
/-- Runs the program. -/
def main (arguments : List String) : IO UInt32 := do
  let output ← IO.getStdout
  let result ← run machineDisk (← output.isTty) arguments
  output.putStr result.output
  (← IO.getStderr).putStr result.errors
  return result.code.toUInt32
