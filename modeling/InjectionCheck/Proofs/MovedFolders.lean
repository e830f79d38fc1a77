import InjectionCheck.Proofs.NormalPaths

/-!
# Imports after a move

A program may be moved as a whole into another folder. The path of an import then means
the same place below the new folder (`target_beneath`), the files that it may mean are the
moved ones (`candidates_beneath`), and so the import leads to the same file as before.

The folder where the program starts is an exception. The path of an import of this folder
is empty, and an ending behind an empty path makes a path at the root, which no file has.
The same import is found after the move (`destination_beneath`).
-/

set_option autoImplicit false

namespace InjectionCheck.Path

/-! ## Folders -/

theorem folder_of_not_mem {text : List Char} (clean : '/' ∉ text) : folder text = [] := by
  have nothing : text.reverse.dropWhile (· ≠ '/') = [] := by
    rw [← List.append_nil text.reverse, List.dropWhile_append_of_pos, List.dropWhile_nil]
    intro c inside
    exact decide_eq_true fun slash => clean (slash ▸ List.mem_reverse.1 inside)
  rw [folder, nothing]

/-- What stands before the last slash is the folder. -/
theorem folder_append {parent name : List Char} (some : parent ≠ []) (clean : '/' ∉ name) :
    folder (parent ++ '/' :: name) = parent := by
  have rest : (parent ++ '/' :: name).reverse.dropWhile (· ≠ '/') = '/' :: parent.reverse := by
    rw [List.reverse_append, List.reverse_cons, List.append_assoc,
      List.dropWhile_append_of_pos, List.singleton_append, List.dropWhile_cons_of_neg (by simp)]
    intro c inside
    exact decide_eq_true fun slash => clean (slash ▸ List.mem_reverse.1 inside)
  obtain ⟨last, others, same⟩ := List.exists_cons_of_ne_nil (mt List.reverse_eq_nil_iff.1 some)
  rw [folder, rest, same]
  exact (congrArg List.reverse same).symm.trans (List.reverse_reverse parent)

/-- A text with a slash has a last one. -/
theorem exists_last_slash {text : List Char} (slash : '/' ∈ text) :
    ∃ parent name, text = parent ++ '/' :: name ∧ '/' ∉ name := by
  obtain ⟨name, parent, same, clean⟩ := List.eq_append_cons_of_mem (List.mem_reverse.2 slash)
  refine ⟨parent.reverse, name.reverse, ?_, mt List.mem_reverse.1 clean⟩
  rw [← List.reverse_reverse text, same, List.reverse_append, List.reverse_cons,
    List.append_assoc, List.singleton_append]

/-! ## The path of an import -/

/-- A path below a folder. -/
def beneath (place path : List Char) : List Char := place ++ '/' :: path

theorem beneath_injective (place : List Char) : Function.Injective (beneath place) :=
  fun _ _ same => List.cons_injective (List.append_cancel_left same)

/-- The path of an import is read from the folder of the file that imports. -/
theorem target_eq {importer source : List Char} (unrooted : isRooted source = false) :
    target importer source =
      if folder (normalChars importer) = [] then normalChars source
      else normalChars (beneath (folder (normalChars importer)) source) := by
  rw [target, unrooted, if_neg Bool.false_ne_true]
  split
  · next nothing => rw [if_pos nothing]
  · next some => rw [if_neg some, beneath]

/-- A path that does not start at the root starts with a dot. -/
theorem isRooted_withSlashes_of_isPath {source : List Char} (path : isPath source)
    (unrooted : isRooted source = false) : isRooted (withSlashes source) = false := by
  cases source with
  | nil => rfl
  | cons c rest =>
      have dot : c = '.' := by
        by_contra other
        simp [isPath, unrooted, List.isPrefixOf, other, Ne.symm other] at path
      subst dot
      rfl

section Moved

variable {place importer source : List Char} (relativePlace : IsRelative place)
  (somePlace : place ≠ [])

include relativePlace somePlace

/-- **After a move the path of an import is the same path below the new folder, and the
folder itself if the path was empty.** -/
theorem target_beneath (relativeImporter : IsRelative importer) (someImporter : importer ≠ [])
    (insideImporter : StaysInside importer) (path : isPath source)
    (unrooted : isRooted source = false) (inside : StaysInside (target importer source)) :
    target (beneath place importer) source =
      if target importer source = [] then place else beneath place (target importer source) := by
  have normal : normalChars (beneath place importer) = beneath place importer := by
    have moved := normalChars_append relativePlace somePlace
      relativeImporter.isRooted_withSlashes (relativeImporter.normal.symm ▸ insideImporter)
    rwa [relativeImporter.normal, if_neg someImporter] at moved
  have start := isRooted_withSlashes_of_isPath path unrooted
  rw [target_eq unrooted, relativeImporter.normal] at inside
  rw [target_eq unrooted, target_eq unrooted, normal, relativeImporter.normal]
  by_cases slash : '/' ∈ importer
  · obtain ⟨parent, name, rfl, clean⟩ := exists_last_slash slash
    have some : parent ≠ [] := by
      rintro rfl
      cases relativeImporter.unrooted
    have startParent : isRooted (withSlashes (beneath parent source)) = false := by
      rw [beneath, isRooted_withSlashes_append some,
        ← isRooted_withSlashes_append some ('/' :: name), relativeImporter.isRooted_withSlashes]
    have lower : beneath place (parent ++ '/' :: name) = beneath place parent ++ '/' :: name := by
      simp only [beneath, List.append_assoc, List.cons_append]
    rw [folder_append some clean, if_neg some] at inside
    rw [lower, folder_append (by simp [beneath]) clean, if_neg (by simp [beneath]),
      folder_append some clean, if_neg some]
    have moved := normalChars_append relativePlace somePlace startParent inside
    simpa only [beneath, List.append_assoc, List.cons_append] using moved
  · rw [folder_of_not_mem slash, if_pos rfl] at inside
    rw [beneath, folder_append somePlace slash, if_neg somePlace, folder_of_not_mem slash,
      if_pos rfl]
    exact normalChars_append relativePlace somePlace start inside

end Moved

/-! ## The files that an import may mean -/

theorem beforeEnding?_eq_some_iff {ending text before : List Char} :
    beforeEnding? ending text = some before ↔ text = before ++ ending := by
  unfold beforeEnding?
  split
  · next isSuffix =>
    obtain ⟨front, rfl⟩ := List.isSuffixOf_iff_suffix.1 isSuffix
    simp [eq_comm]
  · next noSuffix =>
    simp only [reduceCtorEq, false_iff]
    rintro rfl
    exact noSuffix (List.isSuffixOf_iff_suffix.2 (List.suffix_append _ _))

/-- An ending without slashes ends the last part of a path. -/
theorem beforeEnding?_beneath {ending : List Char} (clean : '/' ∉ ending)
    (place text : List Char) :
    beforeEnding? ending (beneath place text) = (beforeEnding? ending text).map (beneath place) := by
  ext before
  simp only [Option.map_eq_some_iff, beforeEnding?_eq_some_iff, beneath]
  constructor
  · intro same
    rcases List.append_eq_append_iff.1 same with ⟨middle, rfl, behind⟩ | ⟨middle, -, behind⟩
    · cases middle with
      | nil =>
          rw [List.nil_append] at behind
          exact absurd (behind ▸ List.mem_cons_self) clean
      | cons c rest =>
          obtain ⟨rfl, rfl⟩ := List.cons.inj behind
          exact ⟨rest, rfl, rfl⟩
    · exact absurd (behind ▸ List.mem_append_right _ List.mem_cons_self) clean
  · rintro ⟨front, rfl, rfl⟩
    simp

/-- **The files that an import may mean move with the program**, unless the import names
the folder where the program starts. -/
theorem candidates_beneath {place importer importer' source : List Char}
    (moved : target importer' source = beneath place (target importer source)) :
    candidates importer' source = (candidates importer source).map (beneath place) := by
  simp only [candidates, moved, beforeEnding?_beneath (show '/' ∉ ".js".toList by decide),
    List.map_append, List.map_cons, List.map_nil, Option.map_map]
  congr 1
  · cases beforeEnding? ".js".toList (target importer source) with
    | none => rfl
    | some before => simp [beneath]
  · simp [beneath]

/-! ## Files -/

/-- The path of a file in another folder. -/
def pathBeneath (place path : String) : String := String.ofList (beneath place.toList path.toList)

/-- The files of a program in another folder. -/
def filesBeneath (place : String) (files : List (String × Nat)) : List (String × Nat) :=
  files.map fun file => (pathBeneath place file.1, file.2)

/-- The first file that has one of some paths. -/
def firstOf (files : List (String × Nat)) (paths : List (List Char)) : Destination :=
  match paths.findSome? fun path => files.lookup (String.ofList path) with
  | some number => .file number
  | none => .missing

theorem destination_eq (files : List (String × Nat)) (importer source : String) :
    destination files importer source =
      if isPath source.toList then firstOf files (candidates importer.toList source.toList)
      else .package :=
  rfl

variable {place : String} {files : List (String × Nat)}

theorem lookup_filesBeneath (path : List Char) :
    (filesBeneath place files).lookup (String.ofList (beneath place.toList path)) =
      files.lookup (String.ofList path) := by
  induction files with
  | nil => rfl
  | cons file others ih =>
      rw [filesBeneath, List.map_cons, List.lookup_cons, List.lookup_cons, ← filesBeneath, ih]
      have same : (String.ofList (beneath place.toList path) == pathBeneath place file.1) =
          (String.ofList path == file.1) := by
        rw [pathBeneath, Bool.eq_iff_iff, beq_iff_eq, beq_iff_eq, String.ofList_inj,
          (beneath_injective _).eq_iff, ← String.toList_inj, String.toList_ofList]
      rw [same]

/-- A path that is not below the new folder is not the path of a moved file. -/
theorem lookup_filesBeneath_eq_none {path : List Char}
    (outside : ∀ rest, path ≠ beneath place.toList rest) :
    (filesBeneath place files).lookup (String.ofList path) = none := by
  rw [List.lookup_eq_none_iff]
  rintro ⟨other, number⟩ isFile
  obtain ⟨file, -, same⟩ := List.mem_map.1 isFile
  rw [bne_iff_ne]
  rintro rfl
  exact outside _ (String.ofList_inj.1 (congrArg Prod.fst same).symm)

theorem firstOf_filesBeneath (paths : List (List Char)) :
    firstOf (filesBeneath place files) (paths.map (beneath place.toList)) = firstOf files paths := by
  simp only [firstOf, List.findSome?_map, Function.comp_def, lookup_filesBeneath]

/-- Of the files that an import of the new folder itself may mean, only the index file can be
one that has been moved. -/
theorem firstOf_candidates_of_target_eq {importer source : List Char}
    (whole : target importer source = place.toList) :
    firstOf (filesBeneath place files) (candidates importer source) =
      firstOf files ["index.ts".toList] := by
  -- a path of at most the length of the folder with a slash is not below the folder
  have short {path : List Char} (few : path.length ≤ place.toList.length) (rest : List Char) :
      path ≠ beneath place.toList rest := by
    rintro rfl
    rw [beneath, List.length_append, List.length_cons] at few
    omega
  have ending (rest : List Char) : place.toList ++ ".ts".toList ≠ beneath place.toList rest :=
    fun same => absurd (List.cons.inj (List.append_cancel_left same)).1 (by decide)
  have compiled : ((beforeEnding? ".js".toList place.toList).map (· ++ ".ts".toList)).toList.findSome?
      (fun path => (filesBeneath place files).lookup (String.ofList path)) = none := by
    cases found : beforeEnding? ".js".toList place.toList with
    | none => rfl
    | some before =>
        have same := beforeEnding?_eq_some_iff.1 found
        have few : (before ++ ".ts".toList).length ≤ place.toList.length := by
          rw [same]
          simp
        simp only [Option.map_some, Option.toList_some, List.findSome?_cons,
          lookup_filesBeneath_eq_none (short few), List.findSome?_nil]
  have index := @lookup_filesBeneath place files "index.ts".toList
  simp only [firstOf, candidates, whole, List.findSome?_append, compiled, Option.none_or,
    List.findSome?_cons, lookup_filesBeneath_eq_none (short (Nat.le_refl _)),
    lookup_filesBeneath_eq_none ending, List.findSome?_nil]
  rw [show place.toList ++ "/index.ts".toList = beneath place.toList "index.ts".toList from rfl,
    index]

/-- **Imports after a move.** A program is moved into a folder. An import whose path does not
climb above the start of the program leads to the same file as before, or nowhere as before,
unless it names the folder where the program starts: then it is looked for at the root before
the move, and leads to the index file of the folder after it. -/
theorem destination_beneath {importer source : String}
    (relativePlace : IsRelative place.toList) (somePlace : place.toList ≠ [])
    (relativeImporter : IsRelative importer.toList) (someImporter : importer.toList ≠ [])
    (insideImporter : StaysInside importer.toList) (unrooted : isRooted source.toList = false)
    (inside : StaysInside (target importer.toList source.toList)) :
    let before := destination files importer source
    let after := destination (filesBeneath place files) (pathBeneath place importer) source
    (¬(isPath source.toList ∧ target importer.toList source.toList = []) → after = before) ∧
      (isPath source.toList ∧ target importer.toList source.toList = [] →
        before = firstOf files ["".toList, ".ts".toList, "/index.ts".toList] ∧
          after = firstOf files ["index.ts".toList]) := by
  intro before after
  simp only [before, after, destination_eq, pathBeneath, String.toList_ofList]
  constructor
  · intro elsewhere
    by_cases path : isPath source.toList
    · have named := not_and.1 elsewhere path
      have moved := target_beneath relativePlace somePlace relativeImporter someImporter
        insideImporter path unrooted inside
      rw [if_neg named] at moved
      rw [if_pos path, if_pos path, candidates_beneath moved, firstOf_filesBeneath]
    · rw [if_neg path, if_neg path]
  · rintro ⟨path, start⟩
    have moved := target_beneath relativePlace somePlace relativeImporter someImporter
      insideImporter path unrooted inside
    rw [if_pos start] at moved
    rw [if_pos path, if_pos path, firstOf_candidates_of_target_eq moved]
    refine ⟨?_, rfl⟩
    simp only [candidates, start]
    rfl

/-- A program with an index file in a folder, moved into `src`. -/
theorem destination_beneath_lib :
    let files := [("lib/index.ts", 0), ("main.ts", 1)]
    destination (filesBeneath "src" files) (pathBeneath "src" "main.ts") "./lib" =
        destination files "main.ts" "./lib" ∧
      destination files "main.ts" "./lib" = .file 0 :=
  ⟨(destination_beneath (by decide +kernel) (by decide) (by decide +kernel) (by decide)
    (by decide +kernel) (by decide) (by decide +kernel)).1 (by decide +kernel), by decide +kernel⟩

/-- The index file of the folder where a program starts is found only after the move. -/
theorem index_of_start_missing :
    let files := [("index.ts", 0), ("main.ts", 1)]
    (∀ file ∈ files, IsRelative file.1.toList ∧ StaysInside file.1.toList) ∧
      IsRelative "src".toList ∧
      isPath ".".toList ∧ StaysInside (target "main.ts".toList ".".toList) ∧
      destination (filesBeneath "src" files) (pathBeneath "src" "main.ts") "." = .file 0 ∧
      destination files "main.ts" "." = .missing := by
  decide +kernel

end InjectionCheck.Path
