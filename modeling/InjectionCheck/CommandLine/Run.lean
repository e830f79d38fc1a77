import InjectionCheck.CommandLine.Disk
import InjectionCheck.CommandLine.Report
import InjectionCheck.Diagnostic.Explanation

/-!
# The program

What the program does with its arguments, up to what it writes and the code with
which it ends.
-/

set_option autoImplicit false

namespace InjectionCheck

/-- What a run of the program writes, and the code with which it ends. -/
structure RunResult where
  code : UInt8
  /-- What is written to the standard output. -/
  output : String
  /-- What is written to the standard error. -/
  errors : String

namespace RunResult

/-- A run that ends well. -/
def success (output : String) : RunResult := ⟨0, output, ""⟩

/-- A run that ends badly. -/
def failure (errors : String) : RunResult := ⟨1, "", errors⟩

end RunResult

/-- Lines, each one ended. -/
def lines (texts : List String) : String := String.join (texts.map (· ++ "\n"))

/-- The version of the program. -/
def version : String := "0.1.0-alpha.3"

/-- How the program is used. -/
def usage : String := lines [
  "inj: dependency-injection configuration checker",
  "",
  "Usage: inj <command> [options]",
  "",
  "Commands:",
  "  check <paths...>   Validate every configuration under the given files or directories",
  "  explain <code>     Explain a diagnostic code (e.g. inj explain E3001)",
  "  help               Show this message",
  "  version            Show version information",
  "",
  "Environment:",
  "  INJ_LOG            Tracing filter (e.g. INJ_LOG=inj_validate=debug)",
  "  INJ_LOG_TREE       Render tracing spans as a tree"]

/-- How a check is asked for. -/
def checkUsage : String := lines [
  "Usage: inj check <paths...> [options]",
  "",
  "Options:",
  "  --format=<fmt>    Output format: text (default), json",
  "  --color=<when>    Colors: auto (default), always, never",
  "  -v, --verbose     Report skipped configurations and progress"]

/-- How an explanation is asked for. -/
def explainUsage : String := lines [
  "Usage: inj explain <error-code>",
  "Example: inj explain E3001"]

/-- What codes look like. -/
def codeHint : String := lines [
  "Codes have the format EXXXX (errors) or WXXXX (warnings).",
  "Examples: E0001, E1001, W2001, E3001"]

/-- The explanation of a code. -/
def explain (code : String) : Except Failure String :=
  match Code.ofText? code with
  | some code => .ok code.explanation
  | none => .error (.unknownCode code)

/-- The run that explains a code. -/
def runExplain (arguments : List String) : RunResult :=
  match arguments with
  | [] => .failure explainUsage
  | code :: _ =>
    match explain code with
    | .ok explanation => .success (lines [explanation])
    | .error cause => .failure (lines [s!"error: {cause.message}", ""] ++ codeHint)

/-- The run that checks files of a disk. -/
def runCheck {m : Type → Type} [Monad m] (disk : Disk m) (isTerminal : Bool)
    (arguments : List String) : m RunResult := do
  match CheckRequest.ofArguments arguments with
  | .error cause => return .failure (lines [s!"error: {cause.message}", ""] ++ checkUsage)
  | .ok request =>
    match ← (disk.sources request.paths).run with
    | .error cause => return .failure (lines [s!"error: {cause.message}"])
    | .ok sources =>
      let report := Report.ofFiles sources
      return {
        code := if report.hasErrors then 1 else 0
        output := report.render request.options isTerminal
        errors := if request.options.verbose then lines report.remarks else "" }

/-- What the program does with its arguments. -/
def run {m : Type → Type} [Monad m] (disk : Disk m) (isTerminal : Bool)
    (arguments : List String) : m RunResult :=
  match arguments with
  | [] => return .success usage
  | command :: others =>
    match command with
    | "check" => runCheck disk isTerminal others
    | "explain" => return runExplain others
    | "help" | "--help" | "-h" => return .success usage
    | "version" | "--version" | "-V" => return .success (lines [s!"inj {version}"])
    | _ => return ⟨1, usage, lines [s!"Unknown command: {command}", ""]⟩

end InjectionCheck
