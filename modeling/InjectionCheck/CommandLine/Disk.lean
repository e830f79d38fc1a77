import InjectionCheck.CommandLine.Failure
import InjectionCheck.Diagnostic.Basic
import InjectionCheck.Validation.Wiring

/-!
# Finding source files

The paths of a check name files and folders. A file is checked whatever its name is.
A folder is searched with all folders in it, in the order of names, for the files
whose names end in `.ts`, but for those that only declare (`.d.ts`); hidden entries
and `node_modules` are passed over. A file that is found twice is checked once.

What can be asked of a disk is a `Disk`, over any monad: the disk of the machine, or
files that are only described.
-/

set_option autoImplicit false

namespace InjectionCheck

/-- What stands at a path. -/
inductive EntryKind where
  | file
  | folder
deriving DecidableEq, Repr

/-- What can be asked of a disk. -/
structure Disk (m : Type → Type) where
  /-- What stands at a path. -/
  kind : String → m (Except DiskFailure EntryKind)
  /-- The names of the entries of a folder. -/
  names : String → m (Except DiskFailure (List String))
  /-- The one path of a file that has many. -/
  canonical : String → m (Option String)
  /-- The text of a file. -/
  read : String → m (Except DiskFailure String)

/-- How many folders can lie inside each other: paths are not longer than this. -/
def Disk.depthLimit : Nat := 4096

/-- A path as it is shown: with slashes. -/
def shownPath (path : String) : String :=
  String.ofList (path.toList.map fun c => if c = '\\' then '/' else c)

/-- An entry of a folder. -/
def entryPath (folder name : String) : String :=
  if folder.toList.getLast? = some '/' then folder ++ name else folder ++ "/" ++ name

/-- Whether an entry of a folder is passed over. -/
def isPassedOver (name : String) : Bool :=
  name.toList.head? = some '.' || name = "node_modules"

/-- What follows the last point of a name; a point at the start does not count. -/
def extension? (name : List Char) : Option (List Char) :=
  match name.reverse.dropWhile (· ≠ '.') with
  | [] | [_] => none
  | _ :: _ => some (name.reverse.takeWhile (· ≠ '.')).reverse

/-- Whether a name is that of a source file. -/
def isSourceName (name : String) : Bool :=
  (extension? name.toList).map (·.map Char.toLower) = some ['t', 's'] &&
    !".d.ts".toList.isSuffixOf name.toList

namespace Disk

variable {m : Type → Type} [Monad m] (disk : Disk m)

/-- Asks the disk; what the disk does not give is a failure. -/
def ask {α : Type} (path : String) (answer : m (Except DiskFailure α)) : ExceptT Failure m α :=
  ExceptT.mk do
    return (← answer).mapError (.unreadable (shownPath path))

/-- Whether a folder stands at a path. -/
def isFolder (path : String) : m Bool := do
  match ← disk.kind path with
  | .ok .folder => return true
  | _ => return false

/-- The paths of the source files in a folder, as they are shown. -/
def filesIn : (depth : Nat) → (folder : String) → ExceptT Failure m (List String)
  | 0, _ => return []
  | depth + 1, folder => do
    let names ← ask folder (disk.names folder)
    let entries := (names.mergeSort (· ≤ ·)).filter (!isPassedOver ·)
    let found ← entries.mapM fun name => do
      let path := entryPath folder name
      if ← disk.isFolder path then filesIn depth path
      else if isSourceName name then return [shownPath path]
      else return []
    return found.flatten

/-- The paths of the source files that a path names, as they are shown. -/
def filesAt (path : String) : ExceptT Failure m (List String) := do
  match ← ask path (disk.kind path) with
  | .file => return [shownPath path]
  | .folder =>
    let files ← disk.filesIn depthLimit path
    if files.isEmpty then throw (.noSources path) else return files

/-- The source files that some paths name, each one once. All paths are looked at
before a file is read. -/
def sources (paths : List String) : ExceptT Failure m (List SourceFile) := do
  let found ← paths.mapM disk.filesAt
  let keyed ← found.flatten.mapM fun path => do
    let canonical ← disk.canonical path
    return (canonical.getD path, path)
  (distinctBy Prod.fst keyed).mapM fun (_, path) => do
    let content ← ask path (disk.read path)
    return ⟨path, content.toList⟩

end Disk

end InjectionCheck
