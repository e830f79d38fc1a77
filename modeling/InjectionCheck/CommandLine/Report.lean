import InjectionCheck.CommandLine.Options
import InjectionCheck.Diagnostic.Json
import InjectionCheck.Validation.Check

/-!
# Reports

A report lists what is wrong with some source files: the errors of the files and the
warnings of their imports first, and then what is wrong with the configurations.
-/

set_option autoImplicit false

namespace InjectionCheck

/-- What a check has found. -/
structure Report where
  /-- How many files were checked. -/
  fileCount : Nat
  diagnostics : List Diagnostic
  /-- Progress, and the literals that were left out. -/
  remarks : List String

namespace Report

/-- What is remarked of a literal that was left out. -/
def skippedRemark (program : Program) (skipped : SkippedConfiguration) : String :=
  let name := ((program.declaration? skipped.declaration).map Declaration.name).getD ""
  let path := ((program.source? skipped.location.file).map SourceFile.path).getD ""
  s!"{path}: skipping configuration '{name}': {skipped.reason.message}"

/-- The report of some source files. -/
def ofFiles (sources : List SourceFile) : Report :=
  let wiring := Wiring.ofProgram (.ofFiles sources)
  let found := wiring.diagnostics
  { fileCount := sources.length
    diagnostics := wiring.program.diagnostics ++ found
    remarks := wiring.skipped.map (skippedRemark wiring.program) ++
      [s!"checked {sources.length} files, found {found.length} problems"] }

variable (report : Report)

/-- How many errors were found. -/
def errorCount : Nat := report.diagnostics.countP Diagnostic.isError

/-- How many warnings were found. -/
def warningCount : Nat := report.diagnostics.length - report.errorCount

/-- Whether errors were found, and not only warnings. -/
def hasErrors : Bool := 0 < report.errorCount

/-- A report in the form that is asked for, written to a terminal or to something else. -/
def render (options : CheckOptions) (isTerminal : Bool) : String :=
  match options.format with
  | .text =>
    let colors := options.color.usesColors isTerminal
    Terminal.render colors report.diagnostics ++
      Terminal.summary colors report.errorCount report.warningCount
  | .json => Json.render report.diagnostics

end Report

end InjectionCheck
