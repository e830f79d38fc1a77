import InjectionCheck.CommandLine.Disk

/-!
# Files that are only described

A tree of folders and files with the contents of the files. It is a disk whose current
folder is the tree, and on which nothing else stands: a check can be run on it without
reading anything. As on other disks, names and paths have a greatest length in bytes.
-/

set_option autoImplicit false

namespace InjectionCheck

/-- A file with its content, or a folder with its entries. -/
inductive FileTree where
  | file (content : ByteArray)
  | folder (entries : List (String × FileTree))

namespace FileTree

/-- The folder without entries. -/
def empty : FileTree := .folder []

/-- The names in a path, with the empty names at doubled slashes. -/
def components (path : String) : List String := path.splitOn "/"

/-- The entries of a folder. -/
def entries : FileTree → List (String × FileTree)
  | .folder entries => entries
  | .file _ => []

/-- The names that lead along a path: an empty name and one point lead nowhere new. -/
def steps (path : String) : List String :=
  (components path).filter fun name => name ≠ "" ∧ name ≠ "."

/-- The tree in which what stands at the end of some names is changed. Folders on the
way are made, and where nothing stands an empty folder is changed. -/
def change (changed : FileTree → FileTree) : (names : List String) → FileTree → FileTree
  | [], tree => changed tree
  | name :: others, tree =>
    let inner := change changed others ((tree.entries.lookup name).getD empty)
    .folder ((name, inner) :: tree.entries.filter (·.1 ≠ name))

/-- The tree with one more file; a file that stands at the path is replaced. -/
def addFile (tree : FileTree) (path : String) (content : ByteArray) : FileTree :=
  change (fun _ => .file content) (steps path) tree

/-- The tree with one more folder; a folder that stands at the path stays. -/
def addFolder (tree : FileTree) (path : String) : FileTree := change id (steps path) tree

/-- Where a walk through a tree stands: the folders that were entered, the last one
first, each with its name, and what stands there. -/
structure Position where
  above : List (String × FileTree)
  here : FileTree

/-- The greatest length of a name. -/
def nameLimit : Nat := 255

/-- The greatest length of a path. -/
def pathLimit : Nat := 4095

/-- Walks on by one name: an empty name or one point stays in a folder, and two points
lead back. -/
def Position.enter (position : Position) (name : String) : Except DiskFailure Position :=
  match position.here with
  | .file _ => .error .notFolder
  | .folder entries =>
    if name = "" ∨ name = "." then .ok position
    else if name = ".." then
      match position.above with
      | [] => .error .missing
      | (_, outer) :: others => .ok ⟨others, outer⟩
    else if nameLimit < name.utf8ByteSize then .error .tooLong
    else
      match entries.lookup name with
      | some inner => .ok ⟨(name, position.here) :: position.above, inner⟩
      | none => .error .missing

/-- Whether a path starts in the current folder. -/
def isRelative (path : String) : Bool :=
  match path.toList with
  | [] | '/' :: _ => false
  | _ => true

/-- Walks along a path. -/
def walk (tree : FileTree) (path : String) : Except DiskFailure Position :=
  if pathLimit < path.utf8ByteSize then .error .tooLong
  else if isRelative path then (components path).foldlM Position.enter ⟨[], tree⟩
  else .error .missing

/-- The text of a file. -/
def text : FileTree → Except DiskFailure String
  | .folder _ => .error .notFile
  | .file content =>
    match String.fromUTF8? content with
    | some content => .ok content
    | none => .error .notText

/-- A tree as a disk. -/
def disk (tree : FileTree) : Disk Id where
  kind path := (tree.walk path).map fun position =>
    match position.here with
    | .file _ => .file
    | .folder _ => .folder
  names path := (tree.walk path).map fun position => position.here.entries.map Prod.fst
  canonical path := (tree.walk path).toOption.map fun position =>
    "/".intercalate (position.above.reverse.map Prod.fst)
  read path := (tree.walk path).bind fun position => position.here.text

end FileTree

end InjectionCheck
