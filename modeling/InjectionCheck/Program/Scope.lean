import InjectionCheck.Diagnostic.Basic
import InjectionCheck.Grammar.SourceUnit
import InjectionCheck.Program.Declaration
import InjectionCheck.Program.Path
import InjectionCheck.Walk.Unvisited

/-!
# Scopes and what files export

A name in a file refers to a declaration of the file, or to what an import binds.
Imports are followed through the exports of other files: an export offers a name of
its own file, or a name of yet another file, and `export *` offers all names of a
file but its default. Exports may refer to each other in a circle, so the search
through them (`Exports.search`) enters no file twice for one name.

Imports from packages bind nothing. An import by a path that leads nowhere, or of a
name that is not exported, is warned of.
-/

set_option autoImplicit false

namespace InjectionCheck

/-- A file of a program with what it declares. -/
structure ProgramFile where
  source : SourceFile
  unit : SourceUnit

/-- Where an imported name comes from. -/
structure ImportOrigin where
  /-- The source of the import. -/
  source : String
  /-- The name that the source exports. -/
  name : String
deriving DecidableEq, Repr

/-- What an exported name offers. -/
inductive ExportOffer where
  /-- What a name of the same file refers to. -/
  | own (name : String)
  /-- What another file exports. -/
  | other (origin : ImportOrigin)
deriving DecidableEq, Repr

/-- The names of a file before imports are followed. In each list the first entry for
a name counts. -/
structure FileNames where
  path : String
  /-- The declarations of the file. -/
  declared : List (String × Nat)
  /-- What imports bind; of two imports of one name the later one is listed first. -/
  imported : List (String × ImportOrigin)
  /-- What exports offer: later exports before earlier ones, and exported declarations
  last. -/
  exported : List (String × ExportOffer)
  /-- The sources of which all names are exported. -/
  stars : List String

namespace FileNames

variable {file : FileNames} {name : String} {origin : ImportOrigin}

/-- The names that a file takes from other files. -/
def taken (file : FileNames) : List String :=
  (file.imported.map fun entry => entry.2.name) ++
    file.exported.filterMap fun entry =>
      match entry.2 with
      | .other origin => some origin.name
      | .own _ => none

theorem mem_taken_of_imported (imported : file.imported.lookup name = some origin) :
    origin.name ∈ file.taken := by
  obtain ⟨before, behind, entries, -⟩ := List.lookup_eq_some_iff.1 imported
  simp [taken, entries]

theorem mem_taken_of_exported (exported : file.exported.lookup name = some (.other origin)) :
    origin.name ∈ file.taken := by
  obtain ⟨before, behind, entries, -⟩ := List.lookup_eq_some_iff.1 exported
  simp [taken, entries]

end FileNames

/-- What the specifiers of an import bind. -/
def ImportDeclaration.bound (declaration : ImportDeclaration) : List (String × ImportOrigin) :=
  declaration.specifiers.map fun specifier =>
    (specifier.localName, ⟨declaration.source, specifier.importedName⟩)

/-- What the specifiers of an export offer. -/
def ExportDeclaration.offers (declaration : ExportDeclaration) : List (String × ExportOffer) :=
  declaration.specifiers.map fun specifier =>
    (specifier.exportedName,
      match declaration.source with
      | some source => .other ⟨source, specifier.localName⟩
      | none => .own specifier.localName)

/-- The imports of a file. -/
def ProgramFile.imports (file : ProgramFile) : List ImportDeclaration :=
  file.unit.items.filterMap fun item =>
    match item.form with
    | .importing declaration => some declaration
    | _ => none

/-- The exports of a file that stand apart from declarations. -/
def ProgramFile.exports (file : ProgramFile) : List ExportDeclaration :=
  file.unit.items.filterMap fun item =>
    match item.form with
    | .exporting declaration => some declaration
    | _ => none

/-- The names of a file, given the declarations of the program. -/
def FileNames.ofFile (declarations : List (Nat × Declaration)) (number : Nat)
    (file : ProgramFile) : FileNames :=
  let own := declarations.filter fun (_, declaration) => declaration.file = number
  { path := file.source.path
    declared := own.map fun (index, declaration) => (declaration.name, index)
    imported := (file.imports.flatMap ImportDeclaration.bound).reverse
    exported := (file.exports.flatMap ExportDeclaration.offers).reverse ++
      own.filterMap fun (_, declaration) =>
        if declaration.exported then some (declaration.name, .own declaration.name) else none
    stars := file.exports.filterMap fun declaration =>
      if declaration.all then declaration.source else none }

/-- The names of all files. -/
structure Exports where
  files : Array FileNames
  /-- The normal forms of all paths; of two files with one path the later one is
  listed first. -/
  paths : List (String × Nat)

namespace Exports

/-- The names of all files of a program. -/
def ofFiles (declarations : List (Nat × Declaration)) (files : List ProgramFile) : Exports where
  files := (files.zipIdx.map fun (file, number) =>
    FileNames.ofFile declarations number file).toArray
  paths := (files.zipIdx.map fun (file, number) =>
    (Path.normalize file.source.path, number)).reverse

variable (exports : Exports)

/-- What the source of an import leads to, in a file with a path. -/
def destination (importer source : String) : Path.Destination :=
  Path.destination exports.paths importer source

/-- The file that an import leads to, with a name there. -/
def place? (importer : String) (origin : ImportOrigin) : Option (Nat × String) :=
  match exports.destination importer origin.source with
  | .file number => some (number, origin.name)
  | .package | .missing => none

/-- Where one step of the search for an export leads. -/
inductive Step where
  /-- To a declaration. -/
  | found (declaration : Nat)
  /-- To what other files export, in the order in which they are tried. -/
  | onward (places : List (Nat × String))
deriving DecidableEq, Repr

/-- What a name of a file's own refers to. -/
def ownStep (file : FileNames) (name : String) : Step :=
  match file.declared.lookup name with
  | some declaration => .found declaration
  | none => .onward ((file.imported.lookup name).bind (exports.place? file.path)).toList

/-- What a file exports under a name. -/
def step (file : FileNames) (name : String) : Step :=
  match file.exported.lookup name with
  | some (.own name) => exports.ownStep file name
  | some (.other origin) => .onward (exports.place? file.path origin).toList
  | none =>
    if name = "default" then .onward []
    else .onward (file.stars.filterMap fun source => exports.place? file.path ⟨source, name⟩)

/-- The names that files take from other files. -/
def takenNames : List String :=
  exports.files.toList.flatMap FileNames.taken

/-- All files with all names that a search can come across from some places on. -/
def places (pending : List (Nat × String)) : List (Nat × String) :=
  ((List.range exports.files.size).flatMap fun number =>
    (exports.takenNames ++ pending.map Prod.snd).map fun name => (number, name)).eraseDups

theorem mem_places {pending : List (Nat × String)} {place : Nat × String} :
    place ∈ exports.places pending ↔ place.1 < exports.files.size ∧
      (place.2 ∈ exports.takenNames ∨ ∃ waiting ∈ pending, waiting.2 = place.2) := by
  rcases place with ⟨number, name⟩
  simp only [places, List.mem_eraseDups, List.mem_flatMap, List.mem_range, List.mem_map,
    List.mem_append, Prod.mk.injEq]
  constructor
  · rintro ⟨_, inside, _, known, rfl, rfl⟩
    exact ⟨inside, known⟩
  · rintro ⟨inside, known⟩
    exact ⟨number, inside, name, known, rfl, rfl⟩

/-- A place that waits is one of those that the search can come across. -/
theorem mem_places_of_waits {number : Nat} {name : String} {others : List (Nat × String)}
    (inside : number < exports.files.size) :
    (number, name) ∈ exports.places ((number, name) :: others) :=
  exports.mem_places.2 ⟨inside, .inr ⟨_, List.mem_cons_self, rfl⟩⟩

/-- There is no more to come across from places whose names are known already. -/
theorem unvisited_places_le (visited : List (Nat × String)) {earlier later : List (Nat × String)}
    (known : ∀ place ∈ later, place.2 ∈ exports.takenNames ∨
      ∃ waiting ∈ earlier, waiting.2 = place.2) :
    unvisited (exports.places later) visited ≤ unvisited (exports.places earlier) visited := by
  refine unvisited_le_of_nodup (nodup_eraseDups _) fun place isPlace => ?_
  obtain ⟨inside, taken | ⟨waiting, isWaiting, same⟩⟩ := exports.mem_places.1 isPlace
  · exact exports.mem_places.2 ⟨inside, .inl taken⟩
  · exact exports.mem_places.2 ⟨inside, same ▸ known waiting isWaiting⟩

theorem place?_name {importer : String} {origin : ImportOrigin} {place : Nat × String}
    (leads : exports.place? importer origin = some place) : place.2 = origin.name := by
  unfold place? at leads
  split at leads
  · cases leads
    rfl
  all_goals cases leads

/-- A step keeps to the name, or goes on with one that the file takes from another file. -/
theorem name_of_step {file : FileNames} {name : String} {places : List (Nat × String)}
    (onward : exports.step file name = .onward places) {place : Nat × String}
    (isPlace : place ∈ places) : place.2 ∈ file.taken ∨ place.2 = name := by
  unfold step at onward
  split at onward
  · next own exported =>
    unfold ownStep at onward
    split at onward
    · cases onward
    · cases onward
      obtain ⟨origin, imported, leads⟩ := Option.bind_eq_some_iff.1 (Option.mem_toList.1 isPlace)
      rw [exports.place?_name leads]
      exact .inl (FileNames.mem_taken_of_imported imported)
  · next origin exported =>
    cases onward
    rw [exports.place?_name (Option.mem_toList.1 isPlace)]
    exact .inl (FileNames.mem_taken_of_exported exported)
  · split at onward
    · cases onward
      cases isPlace
    · cases onward
      obtain ⟨source, -, leads⟩ := List.mem_filterMap.1 isPlace
      exact .inr (exports.place?_name leads)

/-- Entering a place leaves fewer places to come across. -/
theorem unvisited_places_lt {visited others places : List (Nat × String)} {number : Nat}
    {name : String} (inside : number < exports.files.size) (fresh : (number, name) ∉ visited)
    (onward : exports.step exports.files[number] name = .onward places) :
    unvisited (exports.places (places ++ others)) ((number, name) :: visited) <
      unvisited (exports.places ((number, name) :: others)) visited := by
  refine Nat.lt_of_le_of_lt (exports.unvisited_places_le _ fun place isPlace => ?_)
    (unvisited_cons_lt (exports.mem_places_of_waits inside) fresh)
  rcases List.mem_append.1 isPlace with isNext | isOther
  · rcases exports.name_of_step onward isNext with taken | same
    · exact .inl (List.mem_flatMap.2 ⟨_, by simp, taken⟩)
    · exact .inr ⟨_, List.mem_cons_self, same.symm⟩
  · exact .inr ⟨place, List.mem_cons_of_mem _ isOther, rfl⟩

/-- A place that is passed over leaves no more places to come across. -/
theorem unvisited_others_le (visited others : List (Nat × String)) (place : Nat × String) :
    unvisited (exports.places others) visited ≤
      unvisited (exports.places (place :: others)) visited :=
  exports.unvisited_places_le _ fun other isOther =>
    .inr ⟨other, List.mem_cons_of_mem _ isOther, rfl⟩

/-- The first declaration that is found from some places on, without entering the
places that are visited. A place is visited from the moment it is entered, and all files
together have finitely many names to ask for, so files that export from each other in a
circle are left again, also when none of them exports the name. -/
def search (visited pending : List (Nat × String)) : Option Nat :=
  match pending with
  | [] => none
  | (number, name) :: others =>
    if inside : number < exports.files.size then
      if fresh : (number, name) ∉ visited then
        match onward : exports.step exports.files[number] name with
        | .found declaration => some declaration
        | .onward places => search ((number, name) :: visited) (places ++ others)
      else search visited others
    else search visited others
termination_by (unvisited (exports.places pending) visited, pending.length)
decreasing_by
  · exact .left _ _ (exports.unvisited_places_lt inside fresh onward)
  · exact .right' _ (exports.unvisited_others_le visited others _) (Nat.lt_succ_self _)
  · exact .right' _ (exports.unvisited_others_le visited others _) (Nat.lt_succ_self _)

/-- The declaration that a file exports under a name. -/
def find? (number : Nat) (name : String) : Option Nat := exports.search [] [(number, name)]

/-- The declaration that a name of a file refers to, as another file finds it that
imports the name. -/
def findOwn? (number : Nat) (name : String) : Option Nat :=
  match exports.files[number]? with
  | none => none
  | some file =>
    match exports.ownStep file name with
    | .found declaration => some declaration
    | .onward places => exports.search [] places

end Exports

/-! ## Scopes -/

/-- A scope, and what is warned of while imports are followed. -/
structure Imported where
  scope : Scope
  warnings : List Diagnostic

/-- The warning of an import that leads nowhere. -/
def missingFile (source : SourceFile) (declaration : ImportDeclaration) : Diagnostic :=
  .warning .unresolvedImport s!"cannot find module `{declaration.source}`"
    [⟨declaration.sourceSpan, "not part of the program", true, some source⟩]
    ["bindings from this import are unresolved and will not be validated"] []

/-- The warning of an imported name that is not exported. -/
def missingName (source : SourceFile) (declaration : ImportDeclaration)
    (specifier : ImportSpecifier) : Diagnostic :=
  .warning .unresolvedImport
    (if specifier.importedName = "default" then
      s!"module `{declaration.source}` has no default export"
    else
      s!"module `{declaration.source}` has no exported member `{specifier.importedName}`")
    [⟨specifier.span, "not found", true, some source⟩] [] []

namespace Imported

/-- Follows one name of an import that leads to a file. A name that is already in
scope stays what it is. -/
def bind (exports : Exports) (source : SourceFile) (declaration : ImportDeclaration)
    (target : Nat) (imported : Imported) (specifier : ImportSpecifier) : Imported :=
  match imported.scope.lookup specifier.localName with
  | some _ => imported
  | none =>
    match exports.find? target specifier.importedName with
    | some number =>
      { imported with scope := imported.scope ++ [(specifier.localName, number)] }
    | none =>
      { imported with warnings := imported.warnings ++ [missingName source declaration specifier] }

/-- Follows one import. -/
def follow (exports : Exports) (source : SourceFile) (imported : Imported)
    (declaration : ImportDeclaration) : Imported :=
  match exports.destination source.path declaration.source with
  | .package => imported
  | .missing => { imported with warnings := imported.warnings ++ [missingFile source declaration] }
  | .file target => declaration.specifiers.foldl (bind exports source declaration target) imported

/-- The scope of a file: its declarations, and then what its imports bind, in order. -/
def ofFile (exports : Exports) (names : FileNames) (file : ProgramFile) : Imported :=
  file.imports.foldl (follow exports file.source) ⟨names.declared, []⟩

end Imported

/-- The scopes of all files, and what is warned of. -/
def Exports.scopes (exports : Exports) (files : List ProgramFile) : List Imported :=
  (exports.files.toList.zip files).map fun (names, file) => .ofFile exports names file

end InjectionCheck
