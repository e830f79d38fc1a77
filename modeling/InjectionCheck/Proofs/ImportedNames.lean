import InjectionCheck.Program.Basic
import Mathlib.Data.List.Basic

/-!
# What a name refers to, inside and outside of its file

A name of a file is followed in two ways. The scope of the file is built from the front:
its declarations, and then its imports in order, where a name that refers to something
already stays what it is (`lookup_ofFile`). When another file asks for the name, the
imports of the file are looked up from the back, and the last one that binds the name is
followed, whether or not it leads to anything (`findOwn?_eq`).

The two agree for every name that the file declares, and for every other name exactly if
the first import of the name that leads to something leads where the last one does
(`scope_agrees_with_exports_iff`). So they agree where all imports that bind the name lead
to the same declaration, and may disagree where two imports bind one name to different
ones (`scope_disagrees_with_exports`).
-/

set_option autoImplicit false

namespace InjectionCheck

/-! ## Imports of a name -/

/-- Where the imports of a file take a name from, in the order in which they stand. -/
def FileNames.origins (names : FileNames) (name : String) : List ImportOrigin :=
  names.imported.reverse.filterMap fun entry => if name = entry.1 then some entry.2 else none

namespace Exports

variable (exports : Exports)

/-- The declaration to which an import leads in a file with a path. -/
def follow? (path : String) (origin : ImportOrigin) : Option Nat :=
  (exports.place? path origin).bind fun place => exports.find? place.1 place.2

theorem search_nil (visited : List (Nat × String)) : exports.search visited [] = none := by
  rw [search]

/-- A name is found in the file that declares it and exports it by name. -/
theorem find?_eq_some_of_found {number declaration : Nat} {name : String}
    (found : (exports.files[number]?.map fun file => exports.step file name) =
      some (.found declaration)) : exports.find? number name = some declaration := by
  obtain ⟨file, isFile, isStep⟩ := Option.map_eq_some_iff.1 found
  obtain ⟨inside, rfl⟩ := Array.getElem?_eq_some_iff.1 isFile
  rw [find?, search, dif_pos inside, dif_pos List.not_mem_nil]
  split
  · next declaration' isStep' => rw [isStep] at isStep'; cases isStep'; rfl
  · next places isStep' => rw [isStep] at isStep'; cases isStep'

/-- **Seen from outside, a name is what the last import binds to it**, if the file does not
declare it. -/
theorem findOwn?_eq (number : Nat) (name : String) :
    exports.findOwn? number name = exports.files[number]?.bind fun names =>
      (names.declared.lookup name).or
        ((names.origins name).getLast?.bind (exports.follow? names.path)) := by
  have last : ∀ names : FileNames,
      (names.origins name).getLast? = names.imported.lookup name := by
    intro names
    rw [FileNames.origins, List.getLast?_eq_head?_reverse, ← List.filterMap_reverse,
      List.reverse_reverse, List.head?_filterMap, List.lookup_eq_findSome?]
    simp only [beq_iff_eq]
  unfold findOwn?
  cases exports.files[number]? with
  | none => rfl
  | some names =>
      rw [Option.bind_some, last]
      dsimp only [ownStep]
      cases names.declared.lookup name with
      | some declaration => rfl
      | none =>
          rw [Option.none_or]
          cases names.imported.lookup name with
          | none => exact exports.search_nil []
          | some origin =>
              rw [Option.bind_some, Option.bind_some, follow?]
              cases exports.place? names.path origin with
              | none => exact exports.search_nil []
              | some place => rfl

end Exports

/-! ## The scope of a file -/

namespace Imported

variable (exports : Exports)

/-- A name of an import binds what it leads to, unless it refers to something already. -/
theorem lookup_bind (source : SourceFile) (declaration : ImportDeclaration) (target : Nat)
    (imported : Imported) (specifier : ImportSpecifier) (name : String) :
    (bind exports source declaration target imported specifier).scope.lookup name =
      (imported.scope.lookup name).or
        (if name = specifier.localName then exports.find? target specifier.importedName
          else none) := by
  unfold bind
  by_cases same : name = specifier.localName
  · subst same
    rw [if_pos rfl]
    cases known : imported.scope.lookup specifier.localName with
    | some number => exact known
    | none =>
        dsimp only
        cases exports.find? target specifier.importedName with
        | none => exact known
        | some number => rw [List.lookup_append, known, List.lookup_cons_self]
  · rw [if_neg same, Option.or_none]
    split
    · rfl
    · split
      · rw [List.lookup_append, List.lookup_cons, beq_false_of_ne same, List.lookup_nil,
          Option.or_none]
      · rfl

/-- The names of an import that leads to a file are bound in order. -/
theorem lookup_foldl_bind (source : SourceFile) (declaration : ImportDeclaration) (target : Nat)
    (specifiers : List ImportSpecifier) (imported : Imported) (name : String) :
    (specifiers.foldl (bind exports source declaration target) imported).scope.lookup name =
      (imported.scope.lookup name).or (specifiers.findSome? fun specifier =>
        if name = specifier.localName then exports.find? target specifier.importedName
          else none) := by
  induction specifiers generalizing imported with
  | nil => rw [List.foldl_nil, List.findSome?_nil, Option.or_none]
  | cons specifier others ih =>
      rw [List.foldl_cons, ih, lookup_bind, Option.or_assoc, List.findSome?_cons]
      congr 1
      cases (if name = specifier.localName then exports.find? target specifier.importedName
        else none) <;> rfl

/-- The names of an import whose source leads to no file lead nowhere. -/
theorem findSome?_bound_eq_none {path : String} {declaration : ImportDeclaration}
    (nowhere : ∀ target, exports.destination path declaration.source ≠ .file target)
    (name : String) :
    (declaration.bound.findSome? fun entry =>
      if name = entry.1 then exports.follow? path entry.2 else none) = none := by
  rw [List.findSome?_eq_none_iff]
  intro entry isBound
  obtain ⟨specifier, _, rfl⟩ := List.mem_map.1 isBound
  have noPlace : exports.place? path ⟨declaration.source, specifier.importedName⟩ = none := by
    unfold Exports.place?
    split
    · next target leads => exact absurd leads (nowhere target)
    · rfl
    · rfl
  rw [Exports.follow?, noPlace, Option.bind_none, ite_self]

/-- An import adds to a scope what its names lead to. -/
theorem lookup_follow (source : SourceFile) (imported : Imported) (declaration : ImportDeclaration)
    (name : String) :
    (follow exports source imported declaration).scope.lookup name =
      (imported.scope.lookup name).or (declaration.bound.findSome? fun entry =>
        if name = entry.1 then exports.follow? source.path entry.2 else none) := by
  unfold follow
  cases leads : exports.destination source.path declaration.source with
  | file target =>
      dsimp only
      rw [lookup_foldl_bind, ImportDeclaration.bound, List.findSome?_map]
      simp only [Function.comp_def, Exports.follow?, Exports.place?, leads, Option.bind_some]
  | package =>
      rw [findSome?_bound_eq_none exports (by simp [leads]), Option.or_none]
  | missing =>
      rw [findSome?_bound_eq_none exports (by simp [leads]), Option.or_none]

/-- The imports of a file add to its scope what their names lead to, in order. -/
theorem lookup_foldl_follow (source : SourceFile) (imports : List ImportDeclaration)
    (imported : Imported) (name : String) :
    (imports.foldl (follow exports source) imported).scope.lookup name =
      (imported.scope.lookup name).or
        ((imports.flatMap ImportDeclaration.bound).findSome? fun entry =>
          if name = entry.1 then exports.follow? source.path entry.2 else none) := by
  induction imports generalizing imported with
  | nil => rw [List.foldl_nil, List.flatMap_nil, List.findSome?_nil, Option.or_none]
  | cons declaration others ih =>
      rw [List.foldl_cons, ih, lookup_follow, List.flatMap_cons, List.findSome?_append,
        Option.or_assoc]

/-- **Inside its file, a name is what the file declares, or else what the first import binds
that leads to something.** -/
theorem lookup_ofFile (declarations : List (Nat × Declaration)) (number : Nat)
    (file : ProgramFile) (name : String) :
    let names := FileNames.ofFile declarations number file
    (ofFile exports names file).scope.lookup name =
      (names.declared.lookup name).or
        ((names.origins name).findSome? (exports.follow? names.path)) := by
  intro names
  rw [ofFile, lookup_foldl_follow]
  congr 1
  simp only [names, FileNames.origins, FileNames.ofFile, List.reverse_reverse]
  induction file.imports.flatMap ImportDeclaration.bound with
  | nil => rfl
  | cons entry others ih =>
      by_cases same : name = entry.1
      · simp only [List.findSome?_cons, List.filterMap_cons, if_pos same, ih]
      · simp only [List.findSome?_cons, List.filterMap_cons, if_neg same, ih]

end Imported

/-! ## Both ways -/

namespace Program

/-- The files that some sources make. -/
def filesOf (sources : List SourceFile) : List ProgramFile :=
  sources.map fun source => (ProgramFile.ofSource source).1

/-- What the files that some sources make export. -/
def exportsOf (sources : List SourceFile) : Exports :=
  let files := filesOf sources
  .ofFiles ((Linkage.collect files).zipIdx.map fun (declaration, number) => (number, declaration))
    files

/-- The scopes of a program are those that its exports give. -/
theorem scopes_ofFiles (sources : List SourceFile) :
    (ofFiles sources).linkage.scopes =
      (((exportsOf sources).scopes (filesOf sources)).map Imported.scope).toArray := by
  have files : (sources.map ProgramFile.ofSource).map Prod.fst = filesOf sources := by
    rw [filesOf, List.map_map]
    rfl
  simp only [ofFiles, files, exportsOf]

/-- What a name refers to in a file of a program. -/
theorem resolve?_ofFiles (sources : List SourceFile) (file : Nat) (name : String) :
    (ofFiles sources).resolve? file name = (exportsOf sources).files[file]?.bind fun names =>
      (names.declared.lookup name).or
        ((names.origins name).findSome? ((exportsOf sources).follow? names.path)) := by
  rw [resolve?, Linkage.resolve?, scopes_ofFiles]
  simp only [Exports.scopes, List.getElem?_toArray, List.getElem?_map, List.zip,
    List.getElem?_zipWith]
  generalize shown : exportsOf sources = exports
  have files : exports.files[file]? = (filesOf sources)[file]?.map fun programFile =>
      FileNames.ofFile ((Linkage.collect (filesOf sources)).zipIdx.map
        fun (declaration, number) => (number, declaration)) file programFile := by
    simp only [← shown, exportsOf, Exports.ofFiles, List.getElem?_toArray, List.getElem?_map,
      List.getElem?_zipIdx, Option.map_map, Nat.zero_add]
    rfl
  rw [Array.getElem?_toList, files]
  cases (filesOf sources)[file]? with
  | none => rfl
  | some programFile => exact Imported.lookup_ofFile exports _ file programFile name

/-- **A name refers to the same declaration inside and outside of its file** if and only if
the file declares it, or the first of the imports of the name that leads to something leads
where the last one does. So it does where all imports of the name lead to the same
declaration, and in particular where one import binds it. -/
theorem scope_agrees_with_exports_iff (sources : List SourceFile) (file : Nat) (name : String) :
    ((ofFiles sources).resolve? file name = (exportsOf sources).findOwn? file name ↔
      ∀ names, (exportsOf sources).files[file]? = some names →
        names.declared.lookup name = none →
          (names.origins name).findSome? ((exportsOf sources).follow? names.path) =
            (names.origins name).getLast?.bind ((exportsOf sources).follow? names.path)) ∧
    ((∀ names, (exportsOf sources).files[file]? = some names →
        ∀ first ∈ names.origins name, ∀ second ∈ names.origins name,
          (exportsOf sources).follow? names.path first =
            (exportsOf sources).follow? names.path second) →
      (ofFiles sources).resolve? file name = (exportsOf sources).findOwn? file name) := by
  rw [resolve?_ofFiles, Exports.findOwn?_eq]
  generalize exportsOf sources = exports
  have agree : (exports.files[file]?.bind fun names => (names.declared.lookup name).or
        ((names.origins name).findSome? (exports.follow? names.path))) =
      (exports.files[file]?.bind fun names => (names.declared.lookup name).or
        ((names.origins name).getLast?.bind (exports.follow? names.path))) ↔
      ∀ names, exports.files[file]? = some names → names.declared.lookup name = none →
        (names.origins name).findSome? (exports.follow? names.path) =
          (names.origins name).getLast?.bind (exports.follow? names.path) := by
    cases exports.files[file]? with
    | none => simp
    | some names =>
        simp only [Option.bind_some, Option.some.injEq, forall_eq']
        cases names.declared.lookup name with
        | some number => simp only [Option.some_or, reduceCtorEq, false_implies]
        | none => simp only [Option.none_or, true_implies]
  refine ⟨agree, fun same => agree.2 fun names isFile _ => ?_⟩
  have one := same names isFile
  cases origins : names.origins name with
  | nil => rfl
  | cons first others =>
      rw [origins] at one
      -- every import of the name leads where the first one does, the last one included
      have last := List.getLast?_eq_some_getLast (List.cons_ne_nil first others)
      rw [last, Option.bind_some,
        one _ (List.getLast_mem _) first List.mem_cons_self, List.findSome?_cons]
      cases leads : exports.follow? names.path first with
      | some number => rfl
      | none =>
          refine List.findSome?_eq_none_iff.2 fun other later => ?_
          rw [one other (List.mem_cons_of_mem _ later) first List.mem_cons_self, leads]

/-! ## Two imports of one name -/

/-- A file that exports two classes, and a file that imports the first one under some name,
and under the same name something from some source. -/
def importingTwice (name source : String) : List SourceFile :=
  [ ⟨"store.ts", "export class Store \x7b\x7d export class Cache \x7b\x7d".toList⟩,
    ⟨"main.ts", ("import \x7b Store as Shared \x7d from './store';" ++
      "import \x7b " ++ name ++ " as Shared \x7d from '" ++ source ++ "';" ++
      "export \x7b Shared \x7d;").toList⟩ ]

/-- Where both imports take the same class from the same file, the name is that class inside
and outside of its file. -/
theorem scope_agrees_with_exports_store :
    (∀ names, (exportsOf (importingTwice "Store" "./store.js")).files[1]? = some names →
      ∀ first ∈ names.origins "Shared", ∀ second ∈ names.origins "Shared",
        (exportsOf (importingTwice "Store" "./store.js")).follow? names.path first =
          (exportsOf (importingTwice "Store" "./store.js")).follow? names.path second) ∧
    (ofFiles (importingTwice "Store" "./store.js")).resolve? 1 "Shared" =
      (exportsOf (importingTwice "Store" "./store.js")).findOwn? 1 "Shared" := by
  have places : ((exportsOf (importingTwice "Store" "./store.js")).files[1]?.all fun names =>
      decide (∀ first ∈ names.origins "Shared", ∀ second ∈ names.origins "Shared",
        (exportsOf (importingTwice "Store" "./store.js")).place? names.path first =
          (exportsOf (importingTwice "Store" "./store.js")).place? names.path second)) = true := by
    decide +kernel
  have same : ∀ names,
      (exportsOf (importingTwice "Store" "./store.js")).files[1]? = some names →
      ∀ first ∈ names.origins "Shared", ∀ second ∈ names.origins "Shared",
        (exportsOf (importingTwice "Store" "./store.js")).follow? names.path first =
          (exportsOf (importingTwice "Store" "./store.js")).follow? names.path second := by
    intro names isFile first isFirst second isSecond
    rw [isFile] at places
    rw [Exports.follow?, Exports.follow?, of_decide_eq_true places first isFirst second isSecond]
  exact ⟨same, (scope_agrees_with_exports_iff _ 1 "Shared").2 same⟩

/-- A name that is imported twice need not refer to the same declaration inside and outside
of its file: inside it is the class of the first import, and outside that of the second. -/
theorem scope_disagrees_with_exports :
    ¬∀ (sources : List SourceFile) (file : Nat) (name : String),
      (ofFiles sources).resolve? file name = (exportsOf sources).findOwn? file name := by
  intro claimed
  have same := claimed (importingTwice "Cache" "./store") 1 "Shared"
  have read : ((exportsOf (importingTwice "Cache" "./store")).files[1]?.map fun names =>
      (names.path, names.declared.lookup "Shared", names.origins "Shared")) =
        some ("main.ts", none, [⟨"./store", "Store"⟩, ⟨"./store", "Cache"⟩]) := by
    decide +kernel
  have first : (exportsOf (importingTwice "Cache" "./store")).follow? "main.ts"
      ⟨"./store", "Store"⟩ = some 0 := by
    have place : (exportsOf (importingTwice "Cache" "./store")).place? "main.ts"
        ⟨"./store", "Store"⟩ = some (0, "Store") := by
      decide +kernel
    rw [Exports.follow?, place]
    exact Exports.find?_eq_some_of_found _ (by decide +kernel)
  have second : (exportsOf (importingTwice "Cache" "./store")).follow? "main.ts"
      ⟨"./store", "Cache"⟩ = some 1 := by
    have place : (exportsOf (importingTwice "Cache" "./store")).place? "main.ts"
        ⟨"./store", "Cache"⟩ = some (0, "Cache") := by
      decide +kernel
    rw [Exports.follow?, place]
    exact Exports.find?_eq_some_of_found _ (by decide +kernel)
  rw [resolve?_ofFiles, Exports.findOwn?_eq] at same
  generalize exportsOf (importingTwice "Cache" "./store") = exports at same read first second
  obtain ⟨names, isFile, data⟩ := Option.map_eq_some_iff.1 read
  simp only [Prod.mk.injEq] at data
  obtain ⟨path, declared, origins⟩ := data
  simp [isFile, path, declared, origins, first, second] at same

end Program

end InjectionCheck
