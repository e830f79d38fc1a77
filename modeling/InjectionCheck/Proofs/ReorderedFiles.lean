import InjectionCheck.Proofs.RenumberedExports

/-!
# Files with their declarations in another order

Two files may have the same declarations in any order, and else the same items, spans aside
(`SourceFile.Reordered`). Then their declarations are the same in some order, and they import and
export the same names (`Linkage.SameDeclarations.fileNames`).
-/

set_option autoImplicit false

namespace InjectionCheck

/-! ## Files in another order -/

/-- The items that a source text declares, imports and exports. -/
def SourceFile.items (source : SourceFile) : List Item := (ProgramFile.ofSource source).1.unit.items

/-- Whether an item declares a class, an interface, a type alias or a binding. -/
def Item.declares (item : Item) : Bool := item.form.declaration?.isSome

namespace SourceFile

/-- The names that a file declares, in order. -/
def declaredNames (source : SourceFile) : List String :=
  source.items.filterMap fun item => item.form.declaration?.map DeclarationForm.name

/-- Two files have the same declarations in any order, and else the same items in the same order,
spans aside. -/
structure Reordered (source source' : SourceFile) : Prop where
  path : source.path = source'.path
  declarations : ((source.items.filter Item.declares).map Item.unplaced).Perm
    ((source'.items.filter Item.declares).map Item.unplaced)
  others : (source.items.filter fun item => !item.declares).map Item.unplaced =
    (source'.items.filter fun item => !item.declares).map Item.unplaced

end SourceFile

@[simp]
theorem ItemForm.declaration?_unplaced (form : ItemForm) :
    form.unplaced.declaration? = form.declaration?.map DeclarationForm.unplaced := by
  cases form <;> rfl

/-- What is told of some items only, and told of them spans aside. -/
theorem filterMap_unplaced {β : Type} {chosen : Item → Bool} {tell told : Item → Option β}
    (only : ∀ item, chosen item = false → tell item = none)
    (aside : ∀ item, told item.unplaced = tell item) (items : List Item) :
    items.filterMap tell = ((items.filter chosen).map Item.unplaced).filterMap told := by
  rw [List.filterMap_map, List.filterMap_filter]
  refine List.filterMap_congr fun item _ => ?_
  rw [Function.comp_apply, aside]
  split
  · rfl
  · next other => exact only item (Bool.eq_false_iff.2 other)

/-- The declaration in an item of a file, its place aside. -/
def Item.declaration? (file : Nat) (item : Item) : Option Declaration :=
  item.form.declaration?.map fun form => ⟨file, 0, item.exported, form⟩

theorem map_unplaced_ofItems (file : Nat) (items : List Item) :
    (Declaration.ofItems file items).map Declaration.unplaced =
      items.filterMap fun item => (item.declaration? file).map Declaration.unplaced := by
  have told : ∀ entry : Item × Nat, (entry.1.form.declaration?.map fun form =>
      Declaration.mk file entry.2 entry.1.exported form).map Declaration.unplaced =
        (entry.1.declaration? file).map Declaration.unplaced := by
    intro entry
    rw [Item.declaration?, Option.map_map, Option.map_map]
    rfl
  rw [Declaration.ofItems, List.map_filterMap, funext told]
  conv_rhs => rw [← List.zipIdx_map_fst 0 items, List.filterMap_map]
  rfl

namespace SourceFile.Reordered

variable {source source' : SourceFile} (reordered : source.Reordered source')
include reordered

theorem perm_filterMap {β : Type} {tell : Item → Option β} (told : Item → Option β)
    (only : ∀ item, item.declares = false → tell item = none)
    (aside : ∀ item, told item.unplaced = tell item) :
    (source.items.filterMap tell).Perm (source'.items.filterMap tell) := by
  rw [filterMap_unplaced only aside, filterMap_unplaced only aside source'.items]
  exact reordered.declarations.filterMap told

theorem filterMap_eq {β : Type} {tell : Item → Option β} (told : Item → Option β)
    (only : ∀ item, item.declares = true → tell item = none)
    (aside : ∀ item, told item.unplaced = tell item) :
    source.items.filterMap tell = source'.items.filterMap tell := by
  have others : ∀ item : Item, (!item.declares) = false → tell item = none := by
    intro item declares
    rw [Bool.not_eq_false'] at declares
    exact only item declares
  rw [filterMap_unplaced others aside, filterMap_unplaced others aside source'.items,
    reordered.others]

/-- The declarations of a file, spans and places aside, are in some order. -/
theorem perm_ofItems (file : Nat) :
    ((Declaration.ofItems file source.items).map Declaration.unplaced).Perm
      ((Declaration.ofItems file source'.items).map Declaration.unplaced) := by
  rw [map_unplaced_ofItems, map_unplaced_ofItems]
  refine reordered.perm_filterMap (Item.declaration? file) (fun item other => ?_) fun item => ?_
  · rw [Item.declaration?, Option.not_isSome_iff_eq_none.1 (Bool.eq_false_iff.1 other)]
    rfl
  · rw [Item.declaration?, Item.declaration?, Item.unplaced, ItemForm.declaration?_unplaced,
      Option.map_map, Option.map_map]
    rfl

end SourceFile.Reordered

/-! ## Imports and exports -/

theorem ImportDeclaration.bound_unplaced (declaration : ImportDeclaration) :
    declaration.unplaced.bound = declaration.bound := by
  rw [bound, unplaced, List.map_map]
  rfl

theorem ExportDeclaration.offers_unplaced (declaration : ExportDeclaration) :
    declaration.unplaced.offers = declaration.offers := by
  rw [offers, unplaced, List.map_map]
  rfl

/-- The import in an item. -/
def Item.import? (item : Item) : Option ImportDeclaration :=
  match item.form with
  | .importing declaration => some declaration
  | _ => none

/-- The export in an item. -/
def Item.export? (item : Item) : Option ExportDeclaration :=
  match item.form with
  | .exporting declaration => some declaration
  | _ => none

theorem Item.import?_unplaced (item : Item) :
    item.unplaced.import? = item.import?.map ImportDeclaration.unplaced := by
  obtain ⟨form, exported, span⟩ := item
  cases form <;> rfl

theorem Item.export?_unplaced (item : Item) :
    item.unplaced.export? = item.export?.map ExportDeclaration.unplaced := by
  obtain ⟨form, exported, span⟩ := item
  cases form <;> rfl

theorem Item.import?_of_declares {item : Item} (declares : item.declares = true) :
    item.import? = none ∧ item.export? = none := by
  obtain ⟨form, exported, span⟩ := item
  cases form with
  | importing declaration => cases declares
  | exporting declaration => cases declares
  | _ => exact ⟨rfl, rfl⟩

theorem flatMap_eq_filterMap {δ β : Type} (items : List δ) (tell : δ → List β) :
    items.flatMap tell = (items.filterMap fun item => some (tell item)).flatten := by
  rw [List.filterMap_eq_map', List.flatMap_def]

namespace SourceFile.Reordered

variable {source source' : SourceFile} (reordered : source.Reordered source')
include reordered

/-- What is told of the imports or the exports of a file, spans aside. -/
theorem filterMap_filterMap_eq {δ β : Type} {get : Item → Option δ} {bare : δ → δ}
    {tell : δ → Option β} (only : ∀ item, item.declares = true → get item = none)
    (unplaced : ∀ item, get item.unplaced = (get item).map bare)
    (aside : ∀ stated, tell (bare stated) = tell stated) :
    (source.items.filterMap get).filterMap tell = (source'.items.filterMap get).filterMap tell := by
  rw [List.filterMap_filterMap, List.filterMap_filterMap]
  refine reordered.filterMap_eq (fun item => (get item).bind tell) (fun item declares => ?_)
    fun _ => ?_
  · rw [only item declares]
    rfl
  · rw [unplaced, Option.bind_map, Function.comp_def, funext aside]

theorem imported_eq :
    (ProgramFile.ofSource source).1.imports.flatMap ImportDeclaration.bound =
      (ProgramFile.ofSource source').1.imports.flatMap ImportDeclaration.bound := by
  rw [flatMap_eq_filterMap, flatMap_eq_filterMap]
  exact congrArg List.flatten (reordered.filterMap_filterMap_eq
    (fun _ declares => (Item.import?_of_declares declares).1) Item.import?_unplaced
    fun declaration => congrArg some declaration.bound_unplaced)

theorem offers_eq :
    (ProgramFile.ofSource source).1.exports.flatMap ExportDeclaration.offers =
      (ProgramFile.ofSource source').1.exports.flatMap ExportDeclaration.offers := by
  rw [flatMap_eq_filterMap, flatMap_eq_filterMap]
  exact congrArg List.flatten (reordered.filterMap_filterMap_eq
    (fun _ declares => (Item.import?_of_declares declares).2) Item.export?_unplaced
    fun declaration => congrArg some declaration.offers_unplaced)

theorem stars_eq :
    ((ProgramFile.ofSource source).1.exports.filterMap fun declaration =>
      if declaration.all then declaration.source else none) =
    (ProgramFile.ofSource source').1.exports.filterMap fun declaration =>
      if declaration.all then declaration.source else none :=
  reordered.filterMap_filterMap_eq
    (fun _ declares => (Item.import?_of_declares declares).2) Item.export?_unplaced
    fun _ => rfl

end SourceFile.Reordered

/-! ## Names of files -/

theorem lookup_cases {α : Type} (entries : List (String × α)) (name : String) :
    (∃ value, entries.lookup name = some value ∧ (name, value) ∈ entries) ∨
    entries.lookup name = none ∧ ∀ value, (name, value) ∉ entries := by
  induction entries with
  | nil => exact .inr ⟨rfl, fun _ => List.not_mem_nil⟩
  | cons entry others ih =>
      obtain ⟨first, value⟩ := entry
      rw [List.lookup_cons]
      by_cases same : name = first
      · subst same
        rw [beq_self_eq_true]
        exact .inl ⟨value, rfl, List.mem_cons_self⟩
      · rw [beq_false_of_ne same]
        refine ih.imp (fun ⟨found, isFound, inside⟩ => ⟨found, isFound, List.mem_cons_of_mem _ inside⟩)
          (And.imp_right fun absent found inside => ?_)
        rcases List.mem_cons.1 inside with isFirst | later
        · exact same (congrArg Prod.fst isFirst)
        · exact absent found later

/-- Lists in which the same names have values, and all values of a name look the same, give the
same for a name. -/
theorem map_lookup_eq {α β γ : Type} {entries : List (String × α)} {entries' : List (String × β)}
    {look : α → γ} {look' : β → γ} {name : String}
    (names : (∃ value, (name, value) ∈ entries) ↔ ∃ value, (name, value) ∈ entries')
    (same : ∀ value value', (name, value) ∈ entries → (name, value') ∈ entries' →
      look value = look' value') :
    (entries.lookup name).map look = (entries'.lookup name).map look' := by
  rcases lookup_cases entries name with ⟨value, found, inside⟩ | ⟨none, absent⟩ <;>
    rcases lookup_cases entries' name with ⟨value', found', inside'⟩ | ⟨none', absent'⟩
  · rw [found, found']
    exact congrArg some (same value value' inside inside')
  · obtain ⟨value', inside'⟩ := names.1 ⟨value, inside⟩
    exact absurd inside' (absent' value')
  · obtain ⟨value, inside⟩ := names.2 ⟨value', inside'⟩
    exact absurd inside (absent value)
  · rw [none, none']
    rfl

namespace Linkage

/-- The declarations of a linkage with their numbers. -/
def numbered (linkage : Linkage) : List (Nat × Declaration) :=
  linkage.declarations.toList.zipIdx.map Prod.swap

variable {first second linkage : Linkage}

theorem mem_numbered {number : Nat} {declaration : Declaration} :
    (number, declaration) ∈ linkage.numbered ↔
      linkage.declarations[number]? = some declaration := by
  rw [numbered, List.mem_map, ← getElem?_toList_declarations]
  constructor
  · rintro ⟨⟨_, _⟩, inside, same⟩
    cases same
    exact List.mem_zipIdx_iff_getElem?.1 inside
  · exact fun found => ⟨(declaration, number), List.mem_zipIdx_iff_getElem?.2 found, rfl⟩

theorem mem_declared {file number : Nat} {programFile : ProgramFile} {name : String} :
    (name, number) ∈ (FileNames.ofFile linkage.numbered file programFile).declared ↔
      linkage.key number = .declared file name := by
  simp only [FileNames.ofFile, List.mem_map, List.mem_filter, decide_eq_true_eq]
  constructor
  · rintro ⟨⟨_, declaration⟩, ⟨inside, rfl⟩, same⟩
    cases same
    exact key_of_declared (mem_numbered.1 inside)
  · intro same
    obtain ⟨declaration, declared, rfl, rfl⟩ := declared_of_key same
    exact ⟨(number, declaration), ⟨mem_numbered.2 declared, rfl⟩, rfl⟩

/-- What the declarations of a file that are exported offer. -/
def offers (linkage : Linkage) (file : Nat) : List (String × ExportOffer) :=
  (linkage.numbered.filter fun entry => entry.2.file = file).filterMap fun entry =>
    if entry.2.exported then some (entry.2.name, .own entry.2.name) else none

theorem mem_offers {file : Nat} {name : String} {offer : ExportOffer} :
    (name, offer) ∈ linkage.offers file ↔ offer = .own name ∧
      ∃ (number : Nat) (declaration : Declaration),
        linkage.declarations[number]? = some declaration ∧ declaration.file = file ∧
          declaration.name = name ∧ declaration.exported = true := by
  simp only [offers, List.mem_filterMap, List.mem_filter, decide_eq_true_eq]
  constructor
  · rintro ⟨⟨number, declaration⟩, ⟨inside, rfl⟩, offered⟩
    split at offered
    · next exported =>
        cases offered
        exact ⟨rfl, number, declaration, mem_numbered.1 inside, rfl, rfl, exported⟩
    · cases offered
  · rintro ⟨rfl, number, declaration, declared, rfl, rfl, exported⟩
    exact ⟨(number, declaration), ⟨mem_numbered.2 declared, rfl⟩, if_pos exported⟩

theorem SameDeclarations.exists_number (same : first.SameDeclarations second) {number : Nat}
    {declaration : Declaration} (declared : first.declarations[number]? = some declaration) :
    ∃ (number' : Nat) (declaration' : Declaration),
      second.declarations[number']? = some declaration' ∧
        declaration'.file = declaration.file ∧ declaration'.name = declaration.name ∧
          declaration'.exported = declaration.exported := by
  have inside := List.mem_of_getElem? ((getElem?_toList_declarations first number).trans declared)
  obtain ⟨declaration', inside', unplaced⟩ :=
    List.mem_map.1 (same.perm.subset (List.mem_map_of_mem inside))
  obtain ⟨number', found⟩ := List.mem_iff_getElem?.1 inside'
  have sameName := congrArg Declaration.name unplaced
  rw [Declaration.name_unplaced, Declaration.name_unplaced] at sameName
  have sameFile : declaration'.unplaced.file = declaration.unplaced.file := by rw [unplaced]
  have sameExported : declaration'.unplaced.exported = declaration.unplaced.exported := by
    rw [unplaced]
  exact ⟨number', declaration', (getElem?_toList_declarations second number').symm.trans found,
    sameFile, sameName, sameExported⟩

/-- The same declarations go by the same. -/
theorem SameDeclarations.exists_key (same : first.SameDeclarations second) {number file : Nat}
    {name : String} (isKey : first.key number = .declared file name) :
    ∃ number', second.key number' = .declared file name := by
  obtain ⟨declaration, declared, rfl, rfl⟩ := declared_of_key isKey
  obtain ⟨number', declaration', declared', sameFile, sameName, _⟩ := same.exists_number declared
  exact ⟨number', (key_of_declared declared').trans (congrArg₂ _ sameFile sameName)⟩

theorem SameDeclarations.mem_offers (same : first.SameDeclarations second) {file : Nat}
    {name : String} {offer : ExportOffer} (offered : (name, offer) ∈ first.offers file) :
    (name, offer) ∈ second.offers file := by
  obtain ⟨rfl, number, declaration, declared, rfl, rfl, exported⟩ := Linkage.mem_offers.1 offered
  obtain ⟨number', declaration', declared', sameFile, sameName, sameExported⟩ :=
    same.exists_number declared
  exact Linkage.mem_offers.2 ⟨rfl, number', declaration', declared', sameFile, sameName,
    sameExported.trans exported⟩

/-- **Reordered files offer the same names**, up to the numbers of declarations. -/
theorem SameDeclarations.fileNames (same : first.SameDeclarations second) {source source' : SourceFile}
    (reordered : source.Reordered source') (file : Nat) :
    FileNames.Alike first.key second.key
      (.ofFile first.numbered file (ProgramFile.ofSource source).1)
      (.ofFile second.numbered file (ProgramFile.ofSource source').1) where
  path := reordered.path
  declared name := by
    refine map_lookup_eq ⟨?_, ?_⟩ fun number number' isDeclared isDeclared' => ?_
    · rintro ⟨number, isDeclared⟩
      obtain ⟨number', isKey⟩ := same.exists_key (mem_declared.1 isDeclared)
      exact ⟨number', mem_declared.2 isKey⟩
    · rintro ⟨number, isDeclared⟩
      obtain ⟨number', isKey⟩ := same.symm.exists_key (mem_declared.1 isDeclared)
      exact ⟨number', mem_declared.2 isKey⟩
    · exact (mem_declared.1 isDeclared).trans (mem_declared.1 isDeclared').symm
  imported := congrArg List.reverse reordered.imported_eq
  exported name := by
    have own : ((first.offers file).lookup name).map id = ((second.offers file).lookup name).map id := by
      refine map_lookup_eq ⟨?_, ?_⟩ fun offer offer' offered offered' => ?_
      · exact fun ⟨offer, offered⟩ => ⟨offer, same.mem_offers offered⟩
      · exact fun ⟨offer, offered⟩ => ⟨offer, same.symm.mem_offers offered⟩
      · exact (Linkage.mem_offers.1 offered).1.trans (Linkage.mem_offers.1 offered').1.symm
    rw [Option.map_id] at own
    dsimp only [FileNames.ofFile]
    rw [List.lookup_append, List.lookup_append, reordered.offers_eq]
    exact congrArg (Option.or _) own
  stars := reordered.stars_eq

end Linkage

end InjectionCheck
