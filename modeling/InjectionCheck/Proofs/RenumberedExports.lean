import InjectionCheck.Proofs.ImportedNames
import InjectionCheck.Proofs.Renumbering
import Mathlib.Data.List.Forall2
import Mathlib.Data.List.Nodup
import Mathlib.Data.List.Perm.Basic

/-!
# Exports of linkages that number declarations differently

Two linkages may have the same declarations in another order (`SameDeclarations`). As long as no
file declares a name twice, a declaration goes by its file and its name, and the linkages are alike
if their names refer to the same (`SameDeclarations.alike`). What a name refers to is searched for
in the exports of the files, and where these offer the same up to the numbers of declarations, the
search finds the same (`Exports.Alike.search_eq`).
-/

set_option autoImplicit false

namespace InjectionCheck

/-! ## Declarations that go by file and name -/

namespace Linkage

/-- Two linkages have the same declarations, in some order and at some places, and no two of them
go by the same. -/
structure SameDeclarations (first second : Linkage) : Prop where
  perm : (first.declarations.toList.map Declaration.unplaced).Perm
    (second.declarations.toList.map Declaration.unplaced)
  distinct : (first.declarations.toList.map fun declaration =>
    (declaration.file, declaration.name)).Nodup

variable {first second linkage : Linkage}

theorem map_key_unplaced (declarations : List Declaration) :
    (declarations.map Declaration.unplaced).map
        (fun declaration => (declaration.file, declaration.name)) =
      declarations.map fun declaration => (declaration.file, declaration.name) := by
  rw [List.map_map]
  exact List.map_congr_left fun declaration _ => congrArg (_, ·) declaration.name_unplaced

theorem SameDeclarations.symm (same : first.SameDeclarations second) :
    second.SameDeclarations first := by
  refine ⟨same.perm.symm, ?_⟩
  have perm := same.perm.map fun declaration => (declaration.file, declaration.name)
  rw [map_key_unplaced, map_key_unplaced] at perm
  exact perm.nodup_iff.1 same.distinct

theorem getElem?_toList_declarations (linkage : Linkage) (number : Nat) :
    linkage.declarations.toList[number]? = linkage.declarations[number]? :=
  Array.getElem?_toList

/-- Where no two declarations of a file have one name, what they go by tells them apart. -/
theorem key_injective (distinct : (linkage.declarations.toList.map fun declaration =>
      (declaration.file, declaration.name)).Nodup) : Function.Injective linkage.key := by
  intro number number' same
  cases declared : linkage.declarations[number]? with
  | none =>
      rw [key_of_undeclared declared] at same
      cases declared' : linkage.declarations[number']? with
      | none => exact DeclarationKey.undeclared.inj (same.trans (key_of_undeclared declared'))
      | some declaration' => rw [key_of_declared declared'] at same; cases same
  | some declaration =>
      obtain ⟨declaration', declared', sameFile, sameName⟩ :=
        declared_of_key (same.symm.trans (key_of_declared declared))
      rw [← getElem?_toList_declarations] at declared declared'
      obtain ⟨inside, _⟩ := List.getElem?_eq_some_iff.1 declared
      refine (List.getElem?_inj (by rw [List.length_map]; exact inside) distinct).1 ?_
      rw [List.getElem?_map, List.getElem?_map, declared, declared', Option.map_some,
        Option.map_some, sameFile, sameName]

/-- Declarations that go by the same are the same up to their places. -/
theorem SameDeclarations.map_unplaced_eq (same : first.SameDeclarations second)
    {number number' : Nat} (sameKey : first.key number = second.key number') :
    first.declarations[number]?.map Declaration.unplaced =
      second.declarations[number']?.map Declaration.unplaced := by
  cases declared : first.declarations[number]? with
  | none =>
      rw [key_of_undeclared declared] at sameKey
      cases declared' : second.declarations[number']? with
      | none => rfl
      | some declaration' => rw [key_of_declared declared'] at sameKey; cases sameKey
  | some declaration =>
      obtain ⟨declaration', declared', sameFile, sameName⟩ :=
        declared_of_key (sameKey.symm.trans (key_of_declared declared))
      rw [declared', Option.map_some, Option.map_some]
      have inside : declaration ∈ first.declarations.toList :=
        List.mem_of_getElem? ((getElem?_toList_declarations first number).trans declared)
      have inside' : declaration' ∈ second.declarations.toList :=
        List.mem_of_getElem? ((getElem?_toList_declarations second number').trans declared')
      obtain ⟨other, isOther, sameUnplaced⟩ :=
        List.mem_map.1 (same.perm.subset (List.mem_map_of_mem inside))
      have isSame : other = declaration' := by
        refine List.inj_on_of_nodup_map same.symm.distinct isOther inside' ?_
        have file := congrArg Declaration.file sameUnplaced
        have name := congrArg Declaration.name sameUnplaced
        rw [Declaration.name_unplaced, Declaration.name_unplaced] at name
        exact Prod.ext (file.trans sameFile.symm) (name.trans sameName.symm)
      rw [← isSame, sameUnplaced]

/-- Linkages with the same declarations, whose names refer to the same, are alike. -/
theorem SameDeclarations.alike (same : first.SameDeclarations second)
    (resolve : ∀ file name, (first.resolve? file name).map first.key =
      (second.resolve? file name).map second.key) : first.Alike second := by
  have keys := key_injective same.distinct
  have keys' := key_injective same.symm.distinct
  have finds : first.FindsAlike second first.key second.key := by
    refine ⟨resolve, fun number number' sameKey => ?_⟩
    have kinds := congrArg (Option.map Declaration.kind) (same.map_unplaced_eq sameKey)
    simpa only [Option.map_map, Function.comp_def, Declaration.kind_unplaced] using kinds
  refine ⟨keys, keys', fun number number' sameKey => ?_⟩
  have sameUnplaced := same.map_unplaced_eq sameKey
  rw [contentsAt?, contentsAt?]
  cases declared : first.declarations[number]? with
  | none =>
      rw [declared, Option.map_none, eq_comm, Option.map_eq_none_iff] at sameUnplaced
      rw [sameUnplaced]
      rfl
  | some declaration =>
      rw [declared, Option.map_some, eq_comm, Option.map_eq_some_iff] at sameUnplaced
      obtain ⟨declaration', declared', unplaced⟩ := sameUnplaced
      rw [declared', Option.bind_some, Option.bind_some]
      exact finds.map_contents?_eq keys' unplaced.symm

end Linkage

/-! ## Exports -/

/-- The names of a file offer the same, up to the numbers of declarations. -/
structure FileNames.Alike {κ : Type} (look look' : Nat → κ) (first second : FileNames) : Prop where
  path : first.path = second.path
  declared : ∀ name, (first.declared.lookup name).map look = (second.declared.lookup name).map look'
  imported : first.imported = second.imported
  exported : ∀ name, first.exported.lookup name = second.exported.lookup name
  stars : first.stars = second.stars

/-- The files of two programs offer the same, up to the numbers of declarations. -/
structure Exports.Alike {κ : Type} (look look' : Nat → κ) (first second : Exports) : Prop where
  paths : first.paths = second.paths
  files : List.Forall₂ (FileNames.Alike look look') first.files.toList second.files.toList

namespace Exports

variable {κ : Type} {look look' : Nat → κ} {first second : Exports}

theorem Alike.place?_eq (alike : first.Alike look look' second) (importer : String)
    (origin : ImportOrigin) : first.place? importer origin = second.place? importer origin := by
  rw [place?, place?, destination, destination, alike.paths]

theorem Alike.getElem? (alike : first.Alike look look' second) (number : Nat) :
    first.files[number]? = none ∧ second.files[number]? = none ∨
    ∃ file file', first.files[number]? = some file ∧ second.files[number]? = some file' ∧
      FileNames.Alike look look' file file' := by
  rw [← Array.getElem?_toList, ← Array.getElem?_toList]
  have pairs := alike.files
  generalize first.files.toList = files, second.files.toList = files' at pairs
  induction pairs generalizing number with
  | nil => exact .inl ⟨rfl, rfl⟩
  | @cons file file' _ _ same _ ih =>
      cases number with
      | zero => exact .inr ⟨file, file', rfl, rfl, same⟩
      | succ number => exact ih number

/-- Steps that lead to the same declaration, or to the same places. -/
def Step.Alike (look look' : Nat → κ) : Step → Step → Prop
  | .found number, .found number' => look number = look' number'
  | .onward places, .onward places' => places = places'
  | .found _, .onward _ | .onward _, .found _ => False

theorem Alike.ownStep (alike : first.Alike look look' second) {file file' : FileNames}
    (same : FileNames.Alike look look' file file') (name : String) :
    Step.Alike look look' (first.ownStep file name) (second.ownStep file' name) := by
  have declared := same.declared name
  unfold Exports.ownStep
  cases found : file.declared.lookup name with
  | none =>
      rw [found, Option.map_none, eq_comm, Option.map_eq_none_iff] at declared
      rw [declared, same.imported, same.path]
      exact congrArg (fun place? => Option.toList (Option.bind _ place?))
        (funext fun origin => alike.place?_eq _ origin)
  | some number =>
      rw [found, Option.map_some, eq_comm, Option.map_eq_some_iff] at declared
      obtain ⟨number', found', sameNumber⟩ := declared
      rw [found']
      exact sameNumber.symm

theorem Alike.step (alike : first.Alike look look' second) {file file' : FileNames}
    (same : FileNames.Alike look look' file file') (name : String) :
    Step.Alike look look' (first.step file name) (second.step file' name) := by
  unfold Exports.step
  rw [same.exported, same.path, same.stars]
  split
  · exact alike.ownStep same _
  · exact congrArg Option.toList (alike.place?_eq _ _)
  · split
    · exact rfl
    · exact congrArg (List.filterMap · _) (funext fun source => alike.place?_eq _ _)

theorem Alike.step_getElem (alike : first.Alike look look' second) {number : Nat}
    (inside : number < first.files.size) (inside' : number < second.files.size) (name : String) :
    Step.Alike look look' (first.step first.files[number] name)
      (second.step second.files[number] name) := by
  obtain ⟨none, _⟩ | ⟨file, file', isFile, isFile', same⟩ := alike.getElem? number
  · rw [Array.getElem?_eq_getElem inside] at none
    cases none
  · rw [Array.getElem?_eq_getElem inside] at isFile
    rw [Array.getElem?_eq_getElem inside'] at isFile'
    cases isFile
    cases isFile'
    exact alike.step same name

/-- **The search for an export finds the same declaration.** -/
theorem Alike.search_eq (alike : first.Alike look look' second)
    (visited pending : List (Nat × String)) :
    (first.search visited pending).map look = (second.search visited pending).map look' := by
  have inBoth : ∀ number, number < first.files.size ↔ number < second.files.size := by
    intro number
    have size := alike.files.length_eq
    rw [Array.length_toList, Array.length_toList] at size
    rw [size]
  fun_induction first.search visited pending with
  | case1 visited => rw [search_nil]; rfl
  | case2 visited number name others inside fresh declaration leads =>
      have steps := alike.step_getElem inside ((inBoth number).1 inside) name
      rw [search, dif_pos ((inBoth number).1 inside), dif_pos fresh]
      rw [leads] at steps
      split
      · next declaration' leads' =>
          rw [leads'] at steps
          exact congrArg some steps
      · next places' leads' => rw [leads'] at steps; cases steps
  | case3 visited number name others inside fresh places leads ih =>
      have steps := alike.step_getElem inside ((inBoth number).1 inside) name
      rw [ih, search.eq_def second visited ((number, name) :: others)]
      dsimp only
      rw [dif_pos ((inBoth number).1 inside), dif_pos fresh]
      rw [leads] at steps
      split
      · next declaration' leads' => rw [leads'] at steps; cases steps
      · next places' leads' =>
          rw [leads'] at steps
          cases steps
          rfl
  | case4 visited number name others inside seen ih =>
      rw [ih, search.eq_def second visited ((number, name) :: others)]
      dsimp only
      rw [dif_pos ((inBoth number).1 inside), dif_neg seen]
  | case5 visited number name others outside ih =>
      rw [ih, search.eq_def second visited ((number, name) :: others)]
      dsimp only
      rw [dif_neg fun inside => outside ((inBoth number).2 inside)]

theorem Alike.map_follow? (alike : first.Alike look look' second) (path : String)
    (origin : ImportOrigin) :
    (first.follow? path origin).map look = (second.follow? path origin).map look' := by
  rw [follow?, follow?, alike.place?_eq]
  cases second.place? path origin with
  | none => rfl
  | some place => exact alike.search_eq [] [place]

/-- **A name of a file refers to the same declaration.** -/
theorem Alike.map_scope (alike : first.Alike look look' second) (file : Nat) (name : String) :
    (first.files[file]?.bind fun names => (names.declared.lookup name).or
        ((names.origins name).findSome? (first.follow? names.path))).map look =
      (second.files[file]?.bind fun names => (names.declared.lookup name).or
        ((names.origins name).findSome? (second.follow? names.path))).map look' := by
  obtain ⟨none, none'⟩ | ⟨names, names', isFile, isFile', same⟩ := alike.getElem? file
  · rw [none, none']
    rfl
  · rw [isFile, isFile', Option.bind_some, Option.bind_some, Option.map_or, Option.map_or,
      same.declared, List.map_findSome?, List.map_findSome?, FileNames.origins, FileNames.origins,
      same.imported, same.path]
    exact congrArg (fun follow => Option.or _ (List.findSome? follow _))
      (funext fun origin => alike.map_follow? _ origin)

end Exports

end InjectionCheck
