import InjectionCheck.Diagnostic.Basic
import InjectionCheck.Text.Lines

/-!
# Where a label points

A label that names its file has a line and a column there, and the text of that
line. A label without a file has its span only.
-/

set_option autoImplicit false

namespace InjectionCheck

/-- The place of a label in its file. -/
structure Label.Position where
  path : String
  line : Nat
  column : Nat
  /-- The text of the line on which the label starts. -/
  lineText : Option (List Char)
deriving DecidableEq, Repr

/-- The place of a label, when its file is known. -/
def Label.position? (label : Label) : Option Label.Position :=
  label.file.map fun file =>
    let table := LineTable.ofText file.content
    let (line, column) := table.position file.content label.span.start
    ⟨file.path, line, column, table.lineText file.content line⟩

end InjectionCheck
