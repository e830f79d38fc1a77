import InjectionCheck.Proofs.ImportedNames
import InjectionCheck.Proofs.OfferedNames
import Mathlib.Data.List.Infix

/-!
# Warnings of imports

An import that leads to no file is warned of once, and one that leads to a file is warned of name by
name. A name is warned of if the file offers nothing under it, unless something is bound already
under the name that the import gives it: the importing file declares that name, or an import before
has taken a declaration for it (`Program.IsBound`).

`Program.unresolvedImports_eq` lists these warnings for a whole program, in their order, and says
that nothing else is warned of in this way. So imports from packages are never warned of, no warning
is without reason, and the only names that are missing without a warning are those whose place is
taken. There are such names (`Program.silent_import`).
-/

set_option autoImplicit false

namespace InjectionCheck

/-! ## Warnings that add up -/

namespace Imported

/-- Where each step adds warnings, the steps together add those of each one, taken after the
steps before it. -/
theorem warnings_foldl {α : Type} {step : Imported → α → Imported}
    {added : Imported → α → List Diagnostic}
    (adds : ∀ imported item, (step imported item).warnings =
      imported.warnings ++ added imported item)
    (items : List α) (imported : Imported) :
    (items.foldl step imported).warnings = imported.warnings ++
      (items.zip items.inits).flatMap fun (item, before) =>
        added (before.foldl step imported) item := by
  induction items generalizing imported with
  | nil => simp
  | cons item items ih =>
    rw [List.foldl_cons, ih, adds, List.append_assoc, List.inits_cons, List.zip_cons_cons,
      List.flatMap_cons, List.zip_map_right, List.flatMap_map]
    rfl

variable (exports : Exports)

theorem warnings_bind (source : SourceFile) (declaration : ImportDeclaration) (target : Nat)
    (imported : Imported) (specifier : ImportSpecifier) :
    (bind exports source declaration target imported specifier).warnings =
      imported.warnings ++
        if imported.scope.lookup specifier.localName = none ∧
          exports.find? target specifier.importedName = none then
          [missingName source declaration specifier]
        else [] := by
  unfold bind
  cases imported.scope.lookup specifier.localName with
  | some number => simp
  | none => cases exports.find? target specifier.importedName <;> simp

/-- What following an import adds to the warnings. -/
def addedByImport (source : SourceFile) (imported : Imported) (declaration : ImportDeclaration) :
    List Diagnostic :=
  match exports.destination source.path declaration.source with
  | .package => []
  | .missing => [missingFile source declaration]
  | .file target =>
    (declaration.specifiers.zip declaration.specifiers.inits).flatMap fun (specifier, before) =>
      if (before.foldl (bind exports source declaration target) imported).scope.lookup
          specifier.localName = none ∧ exports.find? target specifier.importedName = none then
        [missingName source declaration specifier]
      else []

theorem warnings_follow (source : SourceFile) (imported : Imported)
    (declaration : ImportDeclaration) :
    (follow exports source imported declaration).warnings =
      imported.warnings ++ addedByImport exports source imported declaration := by
  unfold follow addedByImport
  cases exports.destination source.path declaration.source with
  | file target => exact warnings_foldl (warnings_bind exports source declaration target) _ _
  | package => rw [List.append_nil]
  | missing => rfl

end Imported

/-! ## Names that lead to a declaration, and names that are taken -/

namespace Exports

variable (exports : Exports)

/-- A file offers some declaration under a name. -/
def OffersName (number : Nat) (name : String) : Prop :=
  ∃ declaration, exports.Offers number name declaration

/-- What a file with a path imports leads to some declaration. -/
def Leads (path : String) (origin : ImportOrigin) : Prop :=
  ∃ target, exports.destination path origin.source = .file target ∧
    exports.OffersName target origin.name

variable {exports}

theorem find?_ne_none_iff {number : Nat} {name : String} :
    exports.find? number name ≠ none ↔ exports.OffersName number name := by
  rw [ne_eq, find?_eq_none_iff, not_forall_not, OffersName]

theorem follow?_ne_none_iff {path : String} {origin : ImportOrigin} :
    exports.follow? path origin ≠ none ↔ exports.Leads path origin := by
  rw [Option.ne_none_iff_exists', Leads]
  constructor
  · rintro ⟨declaration, follows⟩
    obtain ⟨place, isPlace, found⟩ := Option.bind_eq_some_iff.1 follows
    obtain ⟨target, leads, rfl⟩ := place?_eq_some_iff.1 isPlace
    exact ⟨target, leads, declaration, offers_of_find? found⟩
  · rintro ⟨target, leads, offers⟩
    obtain ⟨declaration, found⟩ := Option.ne_none_iff_exists'.1 (find?_ne_none_iff.2 offers)
    have place := place?_eq_some_iff.2 ⟨target, leads, rfl⟩
    exact ⟨declaration, Option.bind_eq_some_iff.2 ⟨_, place, found⟩⟩

instance (number : Nat) (name : String) : Decidable (exports.OffersName number name) :=
  decidable_of_iff _ find?_ne_none_iff

instance (path : String) (origin : ImportOrigin) : Decidable (exports.Leads path origin) :=
  decidable_of_iff _ follow?_ne_none_iff

end Exports

namespace Program

/-- A name of a file is taken in front of an import: the file declares it, or one of some entries
of earlier imports has that name and leads to a declaration. -/
def IsBound (sources : List SourceFile) (number : Nat) (path : String)
    (entries : List (String × ImportOrigin)) (name : String) : Prop :=
  (∃ declaration ∈ Linkage.collect (filesOf sources),
    declaration.file = number ∧ declaration.name = name) ∨
  ∃ entry ∈ entries, entry.1 = name ∧ (exportsOf sources).Leads path entry.2

instance (sources : List SourceFile) (number : Nat) (path : String)
    (entries : List (String × ImportOrigin)) (name : String) :
    Decidable (IsBound sources number path entries name) :=
  inferInstanceAs (Decidable (_ ∨ _))

/-- The warnings of one import of a file, given the imports before it: one at the source if no file
is there, and otherwise one for each name that is neither offered nor taken before. -/
def warningsOfImport (sources : List SourceFile) (number : Nat) (source : SourceFile)
    (before : List ImportDeclaration) (declaration : ImportDeclaration) : List Diagnostic :=
  match (exportsOf sources).destination source.path declaration.source with
  | .package => []
  | .missing => [missingFile source declaration]
  | .file target =>
    (declaration.specifiers.zip declaration.specifiers.inits).flatMap fun (specifier, earlier) =>
      let entries := (before ++ [{ declaration with specifiers := earlier }]).flatMap
        ImportDeclaration.bound
      if ¬IsBound sources number source.path entries specifier.localName ∧
          ¬(exportsOf sources).OffersName target specifier.importedName then
        [missingName source declaration specifier]
      else []

/-- The names of a file of a program. -/
def namesOf (sources : List SourceFile) (number : Nat) (file : ProgramFile) : FileNames :=
  .ofFile ((Linkage.collect (filesOf sources)).zipIdx.map
    fun (declaration, number) => (number, declaration)) number file

variable {sources : List SourceFile} {number : Nat} {file : ProgramFile}

theorem lookup_declared_eq_none_iff {name : String} :
    (namesOf sources number file).declared.lookup name = none ↔
      ¬∃ declaration ∈ Linkage.collect (filesOf sources),
        declaration.file = number ∧ declaration.name = name := by
  rw [List.lookup_eq_none_iff]
  constructor
  · rintro unlike ⟨declaration, isDeclaration, sameFile, sameName⟩
    obtain ⟨index, isAt⟩ := List.mem_iff_getElem?.1 isDeclaration
    have isEntry := List.mk_mem_zipIdx_iff_getElem?.2 isAt
    have isName : (declaration.name, index) ∈ (namesOf sources number file).declared :=
      List.mem_map.2 ⟨(index, declaration), List.mem_filter.2
        ⟨List.mem_map.2 ⟨(declaration, index), isEntry, rfl⟩, decide_eq_true sameFile⟩, rfl⟩
    simpa [sameName] using unlike _ isName
  · intro none entry isName
    obtain ⟨⟨index, declaration⟩, isOwn, rfl⟩ := List.mem_map.1 isName
    obtain ⟨isPair, sameFile⟩ := List.mem_filter.1 isOwn
    obtain ⟨⟨declared, place⟩, isEntry, same⟩ := List.mem_map.1 isPair
    cases same
    have isDeclaration := List.mem_of_getElem? (List.mk_mem_zipIdx_iff_getElem?.1 isEntry)
    have unlike : name ≠ declaration.name := by
      rintro rfl
      exact none ⟨declaration, isDeclaration, of_decide_eq_true sameFile, rfl⟩
    simpa using unlike

/-- In the scope that an import finds a name refers to nothing exactly if it is not taken. -/
theorem lookup_followed_eq_none_iff {imports : List ImportDeclaration} {name : String} :
    (imports.foldl (Imported.follow (exportsOf sources) file.source)
        ⟨(namesOf sources number file).declared, []⟩).scope.lookup name = none ↔
      ¬IsBound sources number file.source.path (imports.flatMap ImportDeclaration.bound) name := by
  rw [Imported.lookup_foldl_follow, Option.or_eq_none_iff, lookup_declared_eq_none_iff, IsBound,
    not_or, List.findSome?_eq_none_iff]
  apply and_congr_right'
  simp only [not_exists, not_and]
  apply forall₂_congr
  intro entry isEntry
  by_cases same : entry.1 = name
  · rw [if_pos same.symm, ← Exports.follow?_ne_none_iff, not_not]
    exact ⟨fun nowhere _ => nowhere, fun nowhere => nowhere same⟩
  · rw [if_neg (Ne.symm same)]
    exact ⟨fun _ isSame => absurd isSame same, fun _ => rfl⟩

theorem addedByImport_eq (before : List ImportDeclaration) (declaration : ImportDeclaration) :
    Imported.addedByImport (exportsOf sources) file.source
        (before.foldl (Imported.follow (exportsOf sources) file.source)
          ⟨(namesOf sources number file).declared, []⟩) declaration =
      warningsOfImport sources number file.source before declaration := by
  unfold Imported.addedByImport warningsOfImport
  cases leads : (exportsOf sources).destination file.source.path declaration.source with
  | package => rfl
  | missing => rfl
  | file target =>
    dsimp only
    congr 1
    funext pair
    obtain ⟨specifier, earlier⟩ := pair
    -- the names before this one are followed like an import of their own
    have follows : ∀ imported : Imported,
        earlier.foldl (Imported.bind (exportsOf sources) file.source declaration target) imported =
          Imported.follow (exportsOf sources) file.source imported
            { declaration with specifiers := earlier } := by
      intro imported
      rw [Imported.follow]
      dsimp only
      rw [leads]
      rfl
    have snoc := List.foldl_concat (Imported.follow (exportsOf sources) file.source)
      ⟨(namesOf sources number file).declared, []⟩ { declaration with specifiers := earlier } before
    dsimp only
    rw [follows, ← snoc]
    apply if_congr (and_congr lookup_followed_eq_none_iff ?_) rfl rfl
    rw [← Exports.find?_ne_none_iff, not_not]

theorem warnings_ofFile :
    (Imported.ofFile (exportsOf sources) (namesOf sources number file) file).warnings =
      (file.imports.zip file.imports.inits).flatMap fun (declaration, before) =>
        warningsOfImport sources number file.source before declaration := by
  rw [Imported.ofFile, Imported.warnings_foldl (Imported.warnings_follow _ _), List.nil_append]
  congr 1
  funext pair
  exact addedByImport_eq pair.2 pair.1

theorem flatMap_warnings_scopes (sources : List SourceFile) :
    ((exportsOf sources).scopes (filesOf sources)).flatMap Imported.warnings =
      (filesOf sources).zipIdx.flatMap fun (file, number) =>
        (file.imports.zip file.imports.inits).flatMap fun (declaration, before) =>
          warningsOfImport sources number file.source before declaration := by
  have scopes : (exportsOf sources).scopes (filesOf sources) =
      (filesOf sources).zipIdx.map fun (file, number) =>
        Imported.ofFile (exportsOf sources) (namesOf sources number file) file := by
    have names : (exportsOf sources).files.toList = (filesOf sources).zipIdx.map
        fun (file, number) => namesOf sources number file := rfl
    have pairs := List.zip_map' (l := (filesOf sources).zipIdx)
      (f := fun (file, number) => namesOf sources number file) (g := Prod.fst)
    rw [List.zipIdx_map_fst] at pairs
    rw [Exports.scopes, names, pairs, List.map_map]
    rfl
  rw [scopes, List.flatMap_map]
  congr 1
  funext pair
  exact warnings_ofFile

theorem code_of_mem_warningsOfImport {source : SourceFile} {before : List ImportDeclaration}
    {declaration : ImportDeclaration} {warning : Diagnostic}
    (isWarning : warning ∈ warningsOfImport sources number source before declaration) :
    warning.code = .unresolvedImport := by
  unfold warningsOfImport at isWarning
  split at isWarning
  · cases isWarning
  · rw [List.mem_singleton.1 isWarning]
    rfl
  · obtain ⟨pair, -, isWarning⟩ := List.mem_flatMap.1 isWarning
    dsimp only at isWarning
    split at isWarning
    · rw [List.mem_singleton.1 isWarning]
      rfl
    · cases isWarning

theorem code_ne_of_mem_ofSource {source : SourceFile} {diagnostic : Diagnostic}
    (isDiagnostic : diagnostic ∈ (ProgramFile.ofSource source).2) :
    diagnostic.code ≠ .unresolvedImport := by
  rcases List.mem_append.1 isDiagnostic with ofToken | ofGrammar
  · obtain ⟨⟨fault, span⟩, -, rfl⟩ := List.mem_map.1 ofToken
    cases fault <;> simp [Fault.diagnostic, Fault.code, Diagnostic.error]
  · obtain ⟨error, -, rfl⟩ := List.mem_map.1 ofGrammar
    obtain ⟨complaint, span, opening⟩ := error
    cases complaint with
    | expected what found =>
      cases what <;> simp [ParseError.diagnostic, ParseError.code, Diagnostic.error,
        Expectation.code]
    | unclosed opening closing => simp [ParseError.diagnostic, ParseError.code, Diagnostic.error]

/-- **The warnings of a program are those of its imports, one after the other**, each with the
imports before it in its file. -/
theorem unresolvedImports_eq (sources : List SourceFile) :
    ((ofFiles sources).diagnostics.filter fun diagnostic => diagnostic.code = .unresolvedImport) =
      (filesOf sources).zipIdx.flatMap fun (file, number) =>
        (file.imports.zip file.imports.inits).flatMap fun (declaration, before) =>
          warningsOfImport sources number file.source before declaration := by
  have diagnostics : (ofFiles sources).diagnostics =
      (sources.map ProgramFile.ofSource).flatMap Prod.snd ++
        ((exportsOf sources).scopes (filesOf sources)).flatMap Imported.warnings := by
    have files : (sources.map ProgramFile.ofSource).map Prod.fst = filesOf sources := by
      rw [filesOf, List.map_map]
      rfl
    simp only [ofFiles, files, exportsOf]
  rw [diagnostics, List.filter_append, flatMap_warnings_scopes]
  have ofSources : (((sources.map ProgramFile.ofSource).flatMap Prod.snd).filter
      fun diagnostic => diagnostic.code = .unresolvedImport) = [] := by
    rw [List.filter_eq_nil_iff]
    intro diagnostic isDiagnostic
    obtain ⟨parsed, isParsed, isDiagnostic⟩ := List.mem_flatMap.1 isDiagnostic
    obtain ⟨source, -, rfl⟩ := List.mem_map.1 isParsed
    simpa using code_ne_of_mem_ofSource isDiagnostic
  rw [ofSources, List.nil_append, List.filter_eq_self]
  intro warning isWarning
  obtain ⟨⟨file, number⟩, -, isWarning⟩ := List.mem_flatMap.1 isWarning
  obtain ⟨⟨declaration, before⟩, -, isWarning⟩ := List.mem_flatMap.1 isWarning
  exact decide_eq_true (code_of_mem_warningsOfImport isWarning)

/-! ## Imports that are silent -/

/-- A file that exports one class, and a file that imports another one from it under the name of a
class of its own. -/
def importingShadowed : List SourceFile :=
  [ ⟨"a.ts", "export class A \x7b\x7d".toList⟩,
    ⟨"b.ts", "import \x7b B \x7d from './a';\nclass B \x7b\x7d".toList⟩ ]

/-- Not every name that is imported and not offered is warned of: a declaration of the same name
keeps the import silent. -/
theorem silent_import :
    ¬∀ (sources : List SourceFile) (file : ProgramFile) (declaration : ImportDeclaration)
        (target : Nat) (specifier : ImportSpecifier),
      file ∈ filesOf sources → declaration ∈ file.imports →
      (exportsOf sources).destination file.source.path declaration.source = .file target →
      specifier ∈ declaration.specifiers →
      ¬(exportsOf sources).OffersName target specifier.importedName →
        missingName file.source declaration specifier ∈ (ofFiles sources).diagnostics := by
  intro claimed
  have read : ((filesOf importingShadowed)[1]?.map fun file => (file.source.path, file.imports)) =
      some ("b.ts", [⟨[⟨"B", "B", ⟨9, 10⟩⟩], "./a", ⟨18, 23⟩⟩]) := by
    decide +kernel
  obtain ⟨file, isFile, same⟩ := Option.map_eq_some_iff.1 read
  obtain ⟨path, imports⟩ := Prod.mk.inj same
  have leads : (exportsOf importingShadowed).destination file.source.path "./a" = .file 0 := by
    rw [path]
    decide +kernel
  have notOffered : ¬(exportsOf importingShadowed).OffersName 0 "B" := by
    rintro ⟨declaration, offers⟩
    exact Exports.barren_of_nowhere (by decide +kernel) declaration offers.reaches
  have isImport : ⟨[⟨"B", "B", ⟨9, 10⟩⟩], "./a", ⟨18, 23⟩⟩ ∈ file.imports := by
    rw [imports]
    exact List.mem_singleton_self _
  have silent : (ofFiles importingShadowed).diagnostics = [] := by
    decide +kernel
  have warned := claimed importingShadowed file _ 0 _ (List.mem_of_getElem? isFile) isImport leads
    (List.mem_singleton_self _) notOffered
  rw [silent] at warned
  cases warned

end Program

end InjectionCheck
