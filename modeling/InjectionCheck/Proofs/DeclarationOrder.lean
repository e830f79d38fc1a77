import InjectionCheck.Proofs.ReorderedFiles

/-!
# Declarations in another order

The declarations of a file may stand in any order, as long as each name is declared once. A
declaration has the same type in every order (`Program.typeText?_reordered`), if no circle of
different declarations that it reaches passes through a type constructor; this includes aliases that
refer to themselves, and aliases and bindings that are names for each other. Where a circle passes
through a constructor, as with two aliases that are the arrays of each other, the one that is
declared first is lowered first, the other one is seen from inside of it, and what is seen there is
remembered. So their types do depend on the order (`Program.typeText?_depends_on_order`).
-/

set_option autoImplicit false

namespace InjectionCheck

/-! ## Programs -/

theorem forall₂_zipIdx {α β : Type} {related : α → β → Prop} {items : List α} {items' : List β}
    (pairs : List.Forall₂ related items items') (start : Nat) :
    List.Forall₂ (fun entry entry' => related entry.1 entry'.1 ∧ entry.2 = entry'.2)
      (items.zipIdx start) (items'.zipIdx start) := by
  induction pairs generalizing start with
  | nil => exact .nil
  | cons first _ ih => exact .cons ⟨first, rfl⟩ (ih (start + 1))

namespace Program

variable {sources sources' : List SourceFile}

theorem zipIdx_filesOf (sources : List SourceFile) :
    (filesOf sources).zipIdx =
      sources.zipIdx.map fun entry => ((ProgramFile.ofSource entry.1).1, entry.2) := by
  rw [filesOf, List.zipIdx_map]
  rfl

theorem toList_declarations_eq_collect (sources : List SourceFile) :
    (ofFiles sources).linkage.declarations.toList = Linkage.collect (filesOf sources) := by
  change Linkage.collect ((sources.map ProgramFile.ofSource).map Prod.fst) = _
  rw [List.map_map]
  rfl

theorem toList_declarations (sources : List SourceFile) :
    (ofFiles sources).linkage.declarations.toList =
      sources.zipIdx.flatMap fun entry => Declaration.ofItems entry.2 entry.1.items := by
  rw [toList_declarations_eq_collect, Linkage.collect, zipIdx_filesOf, List.flatMap_map]
  rfl

/-- A file whose names are distinct has declarations that go by different names. -/
theorem map_key_ofItems (file : Nat) (source : SourceFile) :
    ((Declaration.ofItems file source.items).map fun declaration =>
      (declaration.file, declaration.name)) = source.declaredNames.map fun name => (file, name) := by
  rw [← Linkage.map_key_unplaced, map_unplaced_ofItems, List.map_filterMap,
    SourceFile.declaredNames, List.map_filterMap]
  refine List.filterMap_congr fun item _ => ?_
  rw [Item.declaration?, Option.map_map, Option.map_map, Option.map_map]
  exact congrArg (Option.map · _) (funext fun form => congrArg (_, ·) form.name_unplaced)

theorem sameDeclarations (reordered : List.Forall₂ SourceFile.Reordered sources sources')
    (distinct : ∀ source ∈ sources, source.declaredNames.Nodup) :
    (ofFiles sources).linkage.SameDeclarations (ofFiles sources').linkage where
  perm := by
    rw [toList_declarations, toList_declarations, List.map_flatMap, List.map_flatMap]
    have pairs := forall₂_zipIdx reordered 0
    generalize sources.zipIdx = entries, sources'.zipIdx = entries' at pairs
    induction pairs with
    | nil => exact .refl _
    | @cons entry entry' others others' same _ ih =>
        rw [List.flatMap_cons, List.flatMap_cons, ← same.2]
        exact (same.1.perm_ofItems entry.2).append ih
  distinct := by
    rw [toList_declarations, List.map_flatMap]
    simp only [map_key_ofItems]
    have numbers : (sources.zipIdx.map Prod.snd).Nodup := by
      rw [List.zipIdx_map_snd]
      exact List.nodup_range'
    refine List.nodup_flatMap.2 ⟨fun entry inside => ?_, ?_⟩
    · have isSource : entry.1 ∈ sources := List.fst_mem_of_mem_zipIdx inside
      exact (distinct entry.1 isSource).map fun name name' same => congrArg Prod.snd same
    · refine (List.pairwise_map.1 numbers).imp fun differ key isKey isKey' => ?_
      obtain ⟨name, _, rfl⟩ := List.mem_map.1 isKey
      obtain ⟨name', _, same⟩ := List.mem_map.1 isKey'
      exact differ (congrArg Prod.fst same).symm

theorem toList_files_exportsOf (sources : List SourceFile) :
    (exportsOf sources).files.toList = sources.zipIdx.map fun entry =>
      FileNames.ofFile (ofFiles sources).linkage.numbered entry.2
        (ProgramFile.ofSource entry.1).1 := by
  rw [Linkage.numbered, toList_declarations_eq_collect]
  change (filesOf sources).zipIdx.map _ = _
  rw [zipIdx_filesOf, List.map_map]
  rfl

theorem paths_exportsOf (sources : List SourceFile) :
    (exportsOf sources).paths =
      (sources.zipIdx.map fun entry => (Path.normalize entry.1.path, entry.2)).reverse := by
  change ((filesOf sources).zipIdx.map _).reverse = _
  rw [zipIdx_filesOf, List.map_map]
  rfl

/-- **Reordered programs export the same**, up to the numbers of declarations. -/
theorem exports_alike (reordered : List.Forall₂ SourceFile.Reordered sources sources')
    (distinct : ∀ source ∈ sources, source.declaredNames.Nodup) :
    (exportsOf sources).Alike (ofFiles sources).linkage.key (ofFiles sources').linkage.key
      (exportsOf sources') := by
  have same := sameDeclarations reordered distinct
  have pairs := forall₂_zipIdx reordered 0
  refine ⟨?_, ?_⟩
  · rw [paths_exportsOf, paths_exportsOf]
    refine congrArg List.reverse ?_
    rw [← List.forall₂_eq_eq_eq, List.forall₂_map_left_iff, List.forall₂_map_right_iff]
    exact pairs.imp fun entry entry' same => by rw [same.1.path, same.2]
  · rw [toList_files_exportsOf, toList_files_exportsOf, List.forall₂_map_left_iff,
      List.forall₂_map_right_iff]
    exact pairs.imp fun entry entry' pair => pair.2 ▸ same.fileNames pair.1 entry.2

/-- Reordered programs have linkages that are alike. -/
theorem linkages_alike (reordered : List.Forall₂ SourceFile.Reordered sources sources')
    (distinct : ∀ source ∈ sources, source.declaredNames.Nodup) :
    (ofFiles sources).linkage.Alike (ofFiles sources').linkage := by
  refine (sameDeclarations reordered distinct).alike fun file name => ?_
  have resolved := (exports_alike reordered distinct).map_scope file name
  rwa [← resolve?_ofFiles, ← resolve?_ofFiles] at resolved

variable (program : Program)

/-- The first declaration of a name in a file. -/
def declared? (file : Nat) (name : String) : Option Nat :=
  program.linkage.declarations.findIdx? fun declaration =>
    declaration.file = file ∧ declaration.name = name

/-- The text of the type of a declaration that is looked up by its file and its name. -/
def typeText? (file : Nat) (name : String) : Option String :=
  (program.declared? file name).map fun number => program.format (program.declarationType number)

variable {program} {file : Nat} {name : String}

theorem key_of_declared? {number : Nat} (found : program.declared? file name = some number) :
    number < program.linkage.declarations.size ∧
      program.linkage.key number = .declared file name := by
  obtain ⟨inside, same, -⟩ := Array.findIdx?_eq_some_iff_getElem.1 found
  rw [decide_eq_true_eq] at same
  refine ⟨inside, (Linkage.key_of_declared (Array.getElem?_eq_getElem inside)).trans ?_⟩
  rw [same.1, same.2]

theorem declared?_eq_none (none : program.declared? file name = none) (number : Nat) :
    program.linkage.key number ≠ .declared file name := by
  intro same
  obtain ⟨declaration, declared, rfl, rfl⟩ := Linkage.declared_of_key same
  have different := Array.findIdx?_eq_none_iff.1 none declaration (Array.mem_of_getElem? declared)
  simp at different

end Program

/-! ## Aliases of names and of arrays -/

/-- An alias of another name, or of its arrays. -/
structure PlainAlias where
  name : String
  target : String
  ofArrays : Bool
deriving DecidableEq

/-- The text of an alias. -/
def PlainAlias.text (plain : PlainAlias) : String :=
  "type " ++ plain.name ++ " = " ++ plain.target ++ (if plain.ofArrays then "[];\n" else ";\n")

/-- What an item says, if it is an alias of a name or of its arrays. -/
def Item.plainAlias? (item : Item) : Option PlainAlias :=
  match item with
  | ⟨.typeAlias ⟨name, _, ⟨.array ⟨.named element [], _⟩, _⟩⟩, false, _⟩ =>
    some ⟨name, element, true⟩
  | ⟨.typeAlias ⟨name, _, ⟨.named target [], _⟩⟩, false, _⟩ => some ⟨name, target, false⟩
  | _ => none

/-- The item of an alias, spans aside. -/
def Item.plainAlias (plain : PlainAlias) : Item :=
  let target : TypeExpression := ⟨.named plain.target [], .origin⟩
  ⟨.typeAlias ⟨plain.name, .origin, if plain.ofArrays then ⟨.array target, .origin⟩ else target⟩,
    false, .origin⟩

theorem Item.unplaced_of_plainAlias? {item : Item} {plain : PlainAlias}
    (found : item.plainAlias? = some plain) :
    item.unplaced = .plainAlias plain ∧ item.declares = true := by
  unfold plainAlias? at found
  split at found
  · cases found
    exact ⟨rfl, rfl⟩
  · cases found
    exact ⟨rfl, rfl⟩
  · cases found

/-- Files of aliases are reordered if the aliases are. -/
theorem SourceFile.reordered_of_plainAliases {source source' : SourceFile}
    {aliases aliases' : List PlainAlias} (path : source.path = source'.path)
    (items : source.items.map Item.plainAlias? = aliases.map some)
    (items' : source'.items.map Item.plainAlias? = aliases'.map some)
    (perm : aliases.Perm aliases') : source.Reordered source' := by
  have outline : ∀ {items : List Item} {aliases : List PlainAlias},
      items.map Item.plainAlias? = aliases.map some →
        (items.filter Item.declares).map Item.unplaced = aliases.map Item.plainAlias ∧
          items.filter (fun item => !item.declares) = [] := by
    intro items
    induction items with
    | nil =>
        intro aliases same
        rw [List.map_eq_nil_iff.1 same.symm]
        exact ⟨rfl, rfl⟩
    | cons item others ih =>
        intro aliases same
        cases aliases with
        | nil => cases same
        | cons first aliases =>
            obtain ⟨found, rest⟩ := List.cons.inj same
            obtain ⟨unplaced, declares⟩ := Item.unplaced_of_plainAlias? found
            obtain ⟨outlined, none⟩ := ih rest
            rw [List.filter_cons_of_pos declares, List.map_cons, List.map_cons, unplaced, outlined,
              List.filter_cons_of_neg (by rw [declares]; exact Bool.false_ne_true)]
            exact ⟨rfl, none⟩
  obtain ⟨declared, none⟩ := outline items
  obtain ⟨declared', none'⟩ := outline items'
  refine ⟨path, ?_, by rw [none, none']⟩
  rw [declared, declared']
  exact perm.map _

namespace Program

/-- The linkage of a program, before anything is lowered. -/
def linkageOf (sources : List SourceFile) : Linkage :=
  ⟨(Linkage.collect (filesOf sources)).toArray,
    (((exportsOf sources).scopes (filesOf sources)).map Imported.scope).toArray⟩

theorem linkage_ofFiles (sources : List SourceFile) :
    (ofFiles sources).linkage = linkageOf sources := by
  have declarations := congrArg List.toArray (toList_declarations_eq_collect sources)
  rw [Array.toArray_toList] at declarations
  have scopes := scopes_ofFiles sources
  generalize (ofFiles sources).linkage = linkage at declarations scopes
  obtain ⟨_, _⟩ := linkage
  cases declarations
  cases scopes
  rfl

/-- A file of aliases. -/
def plainAliases (aliases : List PlainAlias) : List SourceFile :=
  [⟨"types.ts", (aliases.flatMap fun plain => plain.text.toList)⟩]

/-! ## Types in any order -/

/-- **The type of a declaration does not depend on the order of declarations**, if of the
declarations that it reaches different ones reach each other only as names for each other. -/
theorem typeText?_reordered {sources sources' : List SourceFile}
    (reordered : List.Forall₂ SourceFile.Reordered sources sources')
    (distinct : ∀ source ∈ sources, source.declaredNames.Nodup) (file : Nat) (name : String)
    (untangled : ∀ number ∈ (ofFiles sources).declared? file name,
      (ofFiles sources).linkage.Untangled number) :
    (ofFiles sources').typeText? file name = (ofFiles sources).typeText? file name := by
  have alike := linkages_alike reordered distinct
  have same := sameDeclarations reordered distinct
  rw [typeText?, typeText?]
  cases found : (ofFiles sources).declared? file name with
  | none =>
      cases found' : (ofFiles sources').declared? file name with
      | none => rfl
      | some number' =>
          obtain ⟨number, isKey⟩ := same.symm.exists_key (key_of_declared? found').2
          exact absurd isKey (declared?_eq_none found number)
  | some number =>
      obtain ⟨inside, isKey⟩ := key_of_declared? found
      cases found' : (ofFiles sources').declared? file name with
      | none =>
          obtain ⟨number', isKey'⟩ := same.exists_key isKey
          exact absurd isKey' (declared?_eq_none found' number')
      | some number' =>
          obtain ⟨inside', isKey'⟩ := key_of_declared? found'
          have sameKey := isKey.trans isKey'.symm
          have untangled := untangled number found
          have outside : ∀ reached reached', (ofFiles sources).linkage.Reaches number reached →
              (ofFiles sources).linkage.key reached = (ofFiles sources').linkage.key reached' →
                (reached ∈ ([] : List Nat) ↔ reached' ∈ ([] : List Nat)) :=
            fun _ _ _ _ => iff_of_false List.not_mem_nil List.not_mem_nil
          rw [Option.map_some, Option.map_some,
            format_declarationType alike.keys inside untangled,
            format_declarationType alike.keys' inside' (alike.untangled sameKey untangled),
            alike.meaning_eq sameKey outside]

/-- Two aliases that are names for each other, and one of its own arrays. -/
def circles : List PlainAlias := [⟨"A", "B", false⟩, ⟨"B", "A", false⟩, ⟨"C", "C", true⟩]

theorem contentsAt?_circles {number : Nat} {contents : Sketch Nat}
    (has : (linkageOf (plainAliases circles)).contentsAt? number = some contents) :
    number = 0 ∧ contents = .use 1 ∨ number = 1 ∧ contents = .use 0 ∨
      number = 2 ∧ contents = .make .array [.use 2] := by
  have size : (linkageOf (plainAliases circles)).declarations.size = 3 := by
    decide +kernel
  have zero : (linkageOf (plainAliases circles)).contentsAt? 0 = some (.use 1) := by
    decide +kernel
  have one : (linkageOf (plainAliases circles)).contentsAt? 1 = some (.use 0) := by
    decide +kernel
  have two : (linkageOf (plainAliases circles)).contentsAt? 2 = some (.make .array [.use 2]) := by
    decide +kernel
  match number with
  | 0 => exact .inl ⟨rfl, Option.some.inj (has.symm.trans zero)⟩
  | 1 => exact .inr (.inl ⟨rfl, Option.some.inj (has.symm.trans one)⟩)
  | 2 => exact .inr (.inr ⟨rfl, Option.some.inj (has.symm.trans two)⟩)
  | number + 3 =>
      rw [Linkage.contentsAt?, Array.getElem?_eq_none (by omega)] at has
      cases has

/-- Names for each other and an alias that refers to itself have the same types in the other
order. -/
theorem typeText?_reordered_circles :
    List.Forall₂ SourceFile.Reordered (plainAliases circles) (plainAliases circles.reverse) ∧
      (∀ source ∈ plainAliases circles, source.declaredNames.Nodup) ∧
      (ofFiles (plainAliases circles)).linkage.Circles 0 ∧
      (∀ number, (ofFiles (plainAliases circles)).linkage.Untangled number) ∧
      ∀ name, (ofFiles (plainAliases circles.reverse)).typeText? 0 name =
        (ofFiles (plainAliases circles)).typeText? 0 name := by
  have reordered :
      List.Forall₂ SourceFile.Reordered (plainAliases circles) (plainAliases circles.reverse) :=
    .cons (SourceFile.reordered_of_plainAliases rfl (by decide +kernel) (by decide +kernel)
      circles.reverse_perm.symm) .nil
  have distinct : ∀ source ∈ plainAliases circles, source.declaredNames.Nodup := by
    decide +kernel
  have zero : (linkageOf (plainAliases circles)).contentsAt? 0 = some (.use 1) := by
    decide +kernel
  have one : (linkageOf (plainAliases circles)).contentsAt? 1 = some (.use 0) := by
    decide +kernel
  have circle : (linkageOf (plainAliases circles)).Circles 0 :=
    ⟨1, by decide, Linkage.reaches_of_mem_uses zero (List.mem_singleton.2 rfl),
      Linkage.reaches_of_mem_uses one (List.mem_singleton.2 rfl)⟩
  have untangled : ∀ number, (linkageOf (plainAliases circles)).Untangled number := by
    refine Linkage.untangled_of_rank (fun _ => 0) fun first second refers => ⟨Nat.le_refl _, ?_⟩
    obtain ⟨contents, has, isUse⟩ := refers
    obtain ⟨rfl, rfl⟩ | ⟨rfl, rfl⟩ | ⟨rfl, rfl⟩ := contentsAt?_circles has
    · exact .inl ⟨1, has⟩
    · exact .inl ⟨0, has⟩
    · exact .inr (.inl (List.mem_singleton.1 isUse).symm)
  rw [← linkage_ofFiles] at circle untangled
  exact ⟨reordered, distinct, circle, untangled, fun name =>
    typeText?_reordered reordered distinct 0 name fun number _ => untangled number⟩

end Program

/-! ## Aliases of each other -/

namespace Linkage

theorem known?_empty (linkage : Linkage) (number : Nat) :
    (TypeTable.empty linkage).known? number = none := by
  simp only [TypeTable.known?, TypeTable.empty, Array.getElem?_replicate]
  split <;> rfl

/-- Of two aliases of arrays of each other, the one that is lowered first gets the arrays of what
the other one is from inside of it. -/
theorem declarationTypes_of_mutual_arrays {linkage : Linkage}
    (size : linkage.declarations.size = 2)
    (first : linkage.contentsAt? 0 = some (.make .array [.use 1]))
    (second : linkage.contentsAt? 1 = some (.make .array [.use 0])) :
    let inner := Pool.empty.array .error
    let outer := inner.2.array inner.1
    (linkage.declarationTypes (.empty linkage)).1 = #[outer.1, inner.1] ∧
      (linkage.declarationTypes (.empty linkage)).2.pool = outer.2 := by
  intro inner outer
  have unknown := linkage.known?_empty
  have back : linkage.lowerDeclaration [1, 0] (.empty linkage) 0 = (.error, .empty linkage) :=
    lowerDeclaration_of_mem (unknown 0) first (by decide)
  have inside : linkage.lowerDeclaration [0] (.empty linkage) 1 =
      (inner.1, (TypeTable.mk inner.2 (TypeTable.empty linkage).known).learn 1 inner.1) := by
    rw [lowerDeclaration_of_contents (unknown 1) second (by decide)]
    simp only [Sketch.lower_make, Sketch.lowerAll_cons, Sketch.lower_use, back]
    rfl
  have outside : linkage.lowerDeclaration [] (.empty linkage) 0 =
      (outer.1, ((TypeTable.mk outer.2 (TypeTable.empty linkage).known).learn 1 inner.1).learn 0
        outer.1) := by
    rw [lowerDeclaration_of_contents (unknown 0) first (by decide)]
    simp only [Sketch.lower_make, Sketch.lowerAll_cons, Sketch.lower_use, inside]
    rfl
  have seen : (((TypeTable.mk outer.2 (TypeTable.empty linkage).known).learn 1 inner.1).learn 0
      outer.1).known? 1 = some inner.1 := by
    rw [known?_learn_of_ne (by decide)]
    simp [TypeTable.known?, TypeTable.learn, TypeTable.empty, size]
  rw [declarationTypes, numbers, size]
  simp only [List.range, List.range.loop, List.foldl_cons, List.foldl_nil, outside,
    lowerDeclaration_of_known seen]
  exact ⟨rfl, rfl⟩

end Linkage

namespace Program

/-- Two aliases of arrays of each other: the first one sees the second one from inside. -/
theorem format_of_mutual_arrays {sources : List SourceFile}
    (size : (ofFiles sources).linkage.declarations.size = 2)
    (first : (ofFiles sources).linkage.contentsAt? 0 = some (.make .array [.use 1]))
    (second : (ofFiles sources).linkage.contentsAt? 1 = some (.make .array [.use 0])) :
    (ofFiles sources).format ((ofFiles sources).declarationType 0) = "<error>[][]" ∧
      (ofFiles sources).format ((ofFiles sources).declarationType 1) = "<error>[]" := by
  obtain ⟨types, pool⟩ := Linkage.declarationTypes_of_mutual_arrays size first second
  have error := Pool.empty.makes_ofPrimitive id .error
  have inner := Pool.makes_array id error.inUse
  have outer := Pool.makes_array id inner.inUse
  rw [error.sketch_eq] at inner
  rw [inner.sketch_eq] at outer
  have grows := ((ofFiles sources).linkage.grows_shapes
    ((ofFiles sources).linkage.declarationTypes (.empty (ofFiles sources).linkage)).2).pool
  rw [pool] at grows
  simp only [format, Pool.format_eq id, declarationType, declarationTypes_ofFiles, table_ofFiles,
    types]
  constructor
  · refine (congrArg (fun sketch : Sketch _ => sketch.written.text)
      ((grows.sketchBy_eq id _ outer.inUse).trans outer.sketch_eq)).trans ?_
    decide
  · have sketched := (outer.grows.sketchBy_eq id _ inner.inUse).trans inner.sketch_eq
    have inUse := Nat.lt_of_lt_of_le inner.inUse outer.grows.size_le
    refine (congrArg (fun sketch : Sketch _ => sketch.written.text)
      ((grows.sketchBy_eq id _ inUse).trans sketched)).trans ?_
    decide

/-- Two aliases that are the arrays of each other. -/
def mutualArrays : List PlainAlias := [⟨"A", "B", true⟩, ⟨"B", "A", true⟩]

/-- **The type of a declaration depends on the order of declarations** where two aliases are the
arrays of each other. -/
theorem typeText?_depends_on_order :
    ¬∀ (sources sources' : List SourceFile),
      List.Forall₂ SourceFile.Reordered sources sources' →
      (∀ source ∈ sources, source.declaredNames.Nodup) →
      ∀ (file : Nat) (name : String),
        (ofFiles sources').typeText? file name = (ofFiles sources).typeText? file name := by
  intro claimed
  have reordered : List.Forall₂ SourceFile.Reordered (plainAliases mutualArrays)
      (plainAliases mutualArrays.reverse) :=
    .cons (SourceFile.reordered_of_plainAliases rfl (by decide +kernel) (by decide +kernel)
      mutualArrays.reverse_perm.symm) .nil
  have same := claimed _ _ reordered (by decide +kernel) 0 "A"
  have texts := @format_of_mutual_arrays (plainAliases mutualArrays)
    (by rw [linkage_ofFiles]; decide +kernel) (by rw [linkage_ofFiles]; decide +kernel)
    (by rw [linkage_ofFiles]; decide +kernel)
  have texts' := @format_of_mutual_arrays (plainAliases mutualArrays.reverse)
    (by rw [linkage_ofFiles]; decide +kernel) (by rw [linkage_ofFiles]; decide +kernel)
    (by rw [linkage_ofFiles]; decide +kernel)
  have declared : (ofFiles (plainAliases mutualArrays)).declared? 0 "A" = some 0 := by
    rw [declared?, linkage_ofFiles]
    decide +kernel
  have declared' : (ofFiles (plainAliases mutualArrays.reverse)).declared? 0 "A" = some 1 := by
    rw [declared?, linkage_ofFiles]
    decide +kernel
  rw [typeText?, typeText?, declared, declared', Option.map_some, Option.map_some, texts.1,
    texts'.2] at same
  exact absurd same (by decide)

end Program

end InjectionCheck
