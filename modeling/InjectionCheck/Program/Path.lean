/-!
# Paths of source files

Paths are compared in a normal form: slashes only, no empty segments and no `.`
segments, and `..` segments undone as far as possible. An import names a file by a
path relative to the file that imports; the path may leave out the extension, may
name a folder with an index file, or may have the extension of the compiled file.
-/

set_option autoImplicit false

namespace InjectionCheck.Path

/-- The parts of a text between slashes. -/
def segments : List Char → List (List Char)
  | [] => [[]]
  | '/' :: rest => [] :: segments rest
  | c :: rest =>
    match segments rest with
    | [] => [[c]]
    | first :: others => (c :: first) :: others

/-- A path with slashes in place of backslashes. -/
def withSlashes (text : List Char) : List Char :=
  text.map fun c => if c = '\\' then '/' else c

/-- One more segment after those before it, the last one first: nothing for an empty
segment or `.`, and for `..` the segment before is dropped where there is one. Above
the root there is nothing. -/
def enter (rooted : Bool) (before : List (List Char)) (segment : List Char) :
    List (List Char) :=
  if segment = [] ∨ segment = ['.'] then before
  else if segment = ['.', '.'] then
    match before with
    | [] => if rooted then [] else [segment]
    | last :: others => if last = ['.', '.'] then
        if rooted then before else segment :: before
      else others
  else segment :: before

/-- The segments of a path in normal form. -/
def normalSegments (rooted : Bool) (text : List Char) : List (List Char) :=
  ((segments text).foldl (enter rooted) []).reverse

/-- Whether a path starts at the root. -/
def isRooted : List Char → Bool
  | '/' :: _ => true
  | _ => false

/-- Segments with slashes between them. -/
def joined (parts : List (List Char)) : List Char := ['/'].intercalate parts

/-- The normal form of a path, on characters. -/
def normalChars (text : List Char) : List Char :=
  let path := withSlashes text
  let rooted := isRooted path
  if rooted then '/' :: joined (normalSegments rooted path)
  else joined (normalSegments rooted path)

/-- The normal form of a path. -/
def normalize (text : String) : String := String.ofList (normalChars text.toList)

/-- The folder of a path in normal form: what stands before the last slash, the slash
itself if nothing stands before it, and nothing if there is no slash. -/
def folder (text : List Char) : List Char :=
  match text.reverse.dropWhile (· ≠ '/') with
  | [] => []
  | [slash] => [slash]
  | _ :: before => before.reverse

/-- Whether the source of an import is a path, and not the name of a package. -/
def isPath (source : List Char) : Bool :=
  ['.', '/'].isPrefixOf source || ['.', '.', '/'].isPrefixOf source || source = ['.'] ||
    source = ['.', '.'] || isRooted source

/-- The text before an ending, if a text has the ending. -/
def beforeEnding? (ending text : List Char) : Option (List Char) :=
  if ending.isSuffixOf text then some (text.take (text.length - ending.length)) else none

/-- The path that an import names, seen from the file that imports. -/
def target (importer source : List Char) : List Char :=
  if isRooted source then normalChars source
  else
    match folder (normalChars importer) with
    | [] => normalChars source
    | folder => normalChars (folder ++ '/' :: source)

/-- The paths of files that an import may mean, in the order in which they are tried. -/
def candidates (importer source : List Char) : List (List Char) :=
  let base := target importer source
  ((beforeEnding? ".js".toList base).map (· ++ ".ts".toList)).toList ++
    [base, base ++ ".ts".toList, base ++ "/index.ts".toList]

/-- What the source of an import leads to. -/
inductive Destination where
  /-- A file of the program. -/
  | file (number : Nat)
  /-- A package, which is not part of the program. -/
  | package
  /-- A path that no file of the program has. -/
  | missing
deriving DecidableEq, Repr

/-- What the source of an import leads to, given the normal forms of the paths of all
files with their numbers; the first entry for a path counts. -/
def destination (files : List (String × Nat)) (importer source : String) : Destination :=
  if isPath source.toList then
    match (candidates importer.toList source.toList).findSome? fun candidate =>
        files.lookup (String.ofList candidate) with
    | some number => .file number
    | none => .missing
  else .package

end InjectionCheck.Path
