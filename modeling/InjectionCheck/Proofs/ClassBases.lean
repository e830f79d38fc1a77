import InjectionCheck.Proofs.TypeGrowth
import Mathlib.Logic.Relation

/-!
# Which class derives from which

While the shapes of classes are computed, the base of each class is recorded. What is recorded
is the base that the class names, it is never changed, and it is there for every class that has
a shape (`RecordsBases`). In a program all classes have shapes, so its table has the bases
that are declared, and no others (`FromFiles.hasBase_iff`).

A class derives from another one if the bases lead from the one to the other. Bases may lead
in a circle. The search for a base follows them until one comes up again, and has then seen
all that can be reached, since no class has two bases (`derivesFrom_iff`).
-/

set_option autoImplicit false

namespace InjectionCheck

namespace Linkage

variable (linkage : Linkage)

/-- The class that the class with a number names as its base. -/
def declaredBase (number : Nat) : Option Nat :=
  linkage.declarations[number]?.bind linkage.base?

/-- The bases of a table are those that are declared, as far as shapes have been computed. -/
structure RecordsBases (table : ShapeTable) : Prop where
  size_bases : table.bases.size = linkage.declarations.size
  size_shapes : table.shapes.size = linkage.declarations.size
  declared : ∀ number base, table.bases[number]? = some (some base) →
    linkage.declaredBase number = some base
  shaped : ∀ number, (table.shape? number).isSome = true →
    table.bases[number]? = some (linkage.declaredBase number)

/-- What every step of computing shapes does: it adds types, bases and shapes, and it records
the right bases. -/
structure Advances (table further : ShapeTable) : Prop where
  types : linkage.Grows table.types further.types
  size_bases : further.bases.size = table.bases.size
  bases : ∀ number, table.bases[number]? = some (linkage.declaredBase number) →
    further.bases[number]? = some (linkage.declaredBase number)
  shapes : ∀ number, (table.shape? number).isSome = true →
    (further.shape? number).isSome = true
  records : linkage.RecordsBases table → linkage.RecordsBases further

variable {linkage}

theorem Advances.refl (table : ShapeTable) : linkage.Advances table table :=
  ⟨.refl _, rfl, fun _ => id, fun _ => id, id⟩

theorem Advances.trans {table between further : ShapeTable}
    (first : linkage.Advances table between) (second : linkage.Advances between further) :
    linkage.Advances table further where
  types := first.types.trans second.types
  size_bases := second.size_bases.trans first.size_bases
  bases number known := second.bases number (first.bases number known)
  shapes number known := second.shapes number (first.shapes number known)
  records known := second.records (first.records known)

/-- The declared base of a class is recorded. -/
theorem Advances.record {table : ShapeTable} {types : TypeTable} (number : Nat)
    (grows : linkage.Grows table.types types) :
    linkage.Advances table { table with
      types, bases := table.bases.setIfInBounds number (linkage.declaredBase number) } := by
  have kept : ∀ other, table.bases[other]? = some (linkage.declaredBase other) →
      (table.bases.setIfInBounds number (linkage.declaredBase number))[other]? =
        some (linkage.declaredBase other) := by
    intro other known
    obtain ⟨inside, _⟩ := Array.getElem?_eq_some_iff.1 known
    rw [Array.getElem?_setIfInBounds]
    split
    · next same => rw [same, if_pos inside]
    · exact known
  refine ⟨grows, Array.size_setIfInBounds, kept, fun _ known => known,
    fun known => ⟨?_, known.size_shapes, ?_, ?_⟩⟩
  · rw [Array.size_setIfInBounds, known.size_bases]
  · intro other base recorded
    rw [Array.getElem?_setIfInBounds] at recorded
    split at recorded
    · next same =>
        split at recorded
        · exact same ▸ Option.some.inj recorded
        · cases recorded
    · exact known.declared other base recorded
  · exact fun other isShaped => kept other (known.shaped other isShaped)

/-- Where a shape is kept, a shape is found, and other shapes are not touched. -/
theorem isSome_shape?_keep (table : ShapeTable) (number other : Nat) (shape : Shape) :
    (ShapeTable.shape?
        { table with shapes := table.shapes.setIfInBounds number (some shape) } other).isSome =
      if number = other then decide (number < table.shapes.size)
      else (table.shape? other).isSome := by
  unfold ShapeTable.shape?
  rw [Array.getElem?_setIfInBounds]
  split
  · next same =>
      split
      · next inside => rw [decide_eq_true inside]; rfl
      · next outside => rw [decide_eq_false outside]; rfl
  · rfl

/-- The shape of a class whose base has been recorded is kept. -/
theorem Advances.keep {table : ShapeTable} {number : Nat} (shape : Shape)
    (recorded : linkage.RecordsBases table →
      table.bases[number]? = some (linkage.declaredBase number)) :
    linkage.Advances table
      { table with shapes := table.shapes.setIfInBounds number (some shape) } := by
  refine ⟨.refl _, rfl, fun _ known => known, fun other isShaped => ?_, fun known =>
    ⟨known.size_bases, ?_, known.declared, fun other isShaped => ?_⟩⟩
  · rw [isSome_shape?_keep]
    split
    · next same =>
        obtain ⟨found, isFound⟩ := Option.isSome_iff_exists.1 isShaped
        have inside := (Array.getElem?_eq_some_iff.1 (Option.join_eq_some_iff.1 isFound)).1
        exact decide_eq_true (same ▸ inside)
    · exact isShaped
  · rw [Array.size_setIfInBounds, known.size_shapes]
  · rw [isSome_shape?_keep] at isShaped
    split at isShaped
    · next same => exact same ▸ recorded known
    · exact known.shaped other isShaped

variable (linkage)

mutual

/-- Computing a shape advances the table, and gives the shape unless it is being computed. -/
theorem advances_computeShape (path : List Nat) (table : ShapeTable) (number : Nat) :
    linkage.Advances table (linkage.computeShape path table number) ∧
      (linkage.RecordsBases table → number < linkage.declarations.size → number ∉ path →
        ((linkage.computeShape path table number).shape? number).isSome = true) := by
  rw [computeShape]
  split
  · next isShaped => exact ⟨.refl table, fun _ _ _ => isShaped⟩
  · split
    · next inside =>
        split
        · next fresh =>
            have := unvisited_cons_lt (List.mem_range.2 inside) fresh
            have base : linkage.base? linkage.declarations[number] =
                linkage.declaredBase number := by
              rw [declaredBase, Array.getElem?_eq_getElem inside, Option.bind_some]
            dsimp only
            rw [base]
            have record := Advances.record number
              (linkage.grows_ownMembers table.types linkage.declarations[number])
            have parents := advances_inherit (number :: path)
              { table with
                types := (linkage.ownMembers table.types linkage.declarations[number]).2
                bases := table.bases.setIfInBounds number (linkage.declaredBase number) }
              (linkage.ownMembers table.types linkage.declarations[number]).1
              (linkage.parentsOf linkage.declarations[number])
            have before := record.trans parents
            refine ⟨before.trans (.keep _ fun known => ?_), fun known _ _ => ?_⟩
            · refine parents.bases number (Array.getElem?_setIfInBounds_self_of_lt ?_)
              rw [← before.size_bases, known.size_bases]
              exact inside
            · rw [isSome_shape?_keep, if_pos rfl, (before.records known).size_shapes]
              exact decide_eq_true inside
        · next again => exact ⟨.refl table, fun _ _ fresh => absurd fresh again⟩
    · next outside => exact ⟨.refl table, fun _ inside _ => absurd inside outside⟩
termination_by (unvisited linkage.numbers path, 0)

theorem advances_inherit (path : List Nat) (table : ShapeTable) (members : List Member)
    (parents : List Nat) :
    linkage.Advances table (linkage.inherit path table members parents).2 := by
  cases parents with
  | nil =>
      rw [inherit]
      exact .refl table
  | cons parent others =>
      rw [inherit]
      exact (advances_computeShape path table parent).1.trans (advances_inherit path _ _ others)
termination_by (unvisited linkage.numbers path, parents.length + 1)

end

theorem recordsBases_empty (types : TypeTable) : linkage.RecordsBases (.empty linkage types) where
  size_bases := Array.size_replicate
  size_shapes := Array.size_replicate
  declared number base recorded := by
    simp only [ShapeTable.empty, Array.getElem?_replicate] at recorded
    split at recorded <;> cases recorded
  shaped number isShaped := by
    simp only [ShapeTable.shape?, ShapeTable.empty, Array.getElem?_replicate] at isShaped
    split at isShaped <;> cases isShaped

/-- Computing some shapes advances the table, and then they are there. -/
theorem advances_foldl_computeShape (numbers : List Nat) {table : ShapeTable}
    (known : linkage.RecordsBases table) :
    linkage.Advances table (numbers.foldl (linkage.computeShape []) table) ∧
      ∀ number ∈ numbers, number < linkage.declarations.size →
        ((numbers.foldl (linkage.computeShape []) table).shape? number).isSome = true := by
  induction numbers generalizing table with
  | nil => exact ⟨.refl table, fun _ impossible => absurd impossible List.not_mem_nil⟩
  | cons first others ih =>
      obtain ⟨step, isShaped⟩ := linkage.advances_computeShape [] table first
      obtain ⟨further, shaped⟩ := ih (step.records known)
      refine ⟨step.trans further, fun number isOne inside => ?_⟩
      rcases List.mem_cons.1 isOne with rfl | later
      · exact further.shapes _ (isShaped known inside List.not_mem_nil)
      · exact shaped number later inside

/-- The shapes of a program are computed into the same pool. -/
theorem grows_shapes (types : TypeTable) :
    linkage.Grows types (linkage.shapes types).types :=
  (linkage.advances_foldl_computeShape linkage.shaped (linkage.recordsBases_empty types)).1.types

theorem form_of_class? {declaration : Declaration} {form : ClassDeclaration}
    (isClass : declaration.class? = some form) : declaration.form = .classType form := by
  unfold Declaration.class? at isClass
  split at isClass
  · next isForm => rw [isForm, Option.some.inj isClass]
  · cases isClass

theorem kind_of_class? {declaration : Declaration} {form : ClassDeclaration}
    (isClass : declaration.class? = some form) : declaration.kind = .class_ := by
  rw [Declaration.kind, form_of_class? isClass]
  rfl

/-- **The bases of a program are those that are declared.** -/
theorem getElem?_bases_shapes (types : TypeTable) (number base : Nat) :
    (linkage.shapes types).bases[number]? = some (some base) ↔
      linkage.declaredBase number = some base := by
  obtain ⟨advances, shaped⟩ :=
    linkage.advances_foldl_computeShape linkage.shaped (linkage.recordsBases_empty types)
  have known := advances.records (linkage.recordsBases_empty types)
  refine ⟨known.declared number base, fun named => ?_⟩
  obtain ⟨declaration, declared, isBase⟩ := Option.bind_eq_some_iff.1 named
  obtain ⟨form, isClass, _⟩ := Option.bind_eq_some_iff.1 isBase
  have inside := (Array.getElem?_eq_some_iff.1 declared).1
  have isShaped : number ∈ linkage.shaped := by
    refine List.mem_filter.2 ⟨List.mem_range.2 inside, ?_⟩
    rw [declared, Option.any_some, kind_of_class? isClass]
    rfl
  exact named ▸ known.shaped number (shaped number isShaped inside)

end Linkage

namespace ShapeTable

variable (table : ShapeTable)

/-- A class has a base. -/
def HasBase (number base : Nat) : Prop := table.bases[number]? = some (some base)

variable {table}

theorem HasBase.unique {number base base' : Nat}
    (first : table.HasBase number base) (second : table.HasBase number base') : base = base' :=
  Option.some.inj (Option.some.inj (first.symm.trans second))

/-- What the search finds is derived from. -/
theorem reflTransGen_of_go {base : Nat} {visited : List Nat} {current : Nat}
    (found : derivesFrom.go table base visited current = true) :
    Relation.ReflTransGen table.HasBase current base := by
  fun_induction derivesFrom.go table base visited current with
  | case1 => exact .refl
  | case2 visited current _ inside _ _ next isNext ih =>
      exact .head ((Array.getElem?_eq_getElem inside).trans (congrArg some isNext)) (ih found)
  | case3 => cases found
  | case4 => cases found
  | case5 => cases found

/-- Where the search gives up, it has seen all that can be reached: what it has visited is not
what it looks for, and leads to what it has visited or to where it is. -/
theorem not_reflTransGen_of_go {base : Nat} {visited : List Nat} {current : Nat}
    (failed : derivesFrom.go table base visited current = false) (elsewhere : base ∉ visited)
    (closed : ∀ number ∈ visited, ∀ next, table.HasBase number next →
      next ∈ visited ∨ next = current) :
    ¬Relation.ReflTransGen table.HasBase current base := by
  fun_induction derivesFrom.go table base visited current with
  | case1 => cases failed
  | case2 visited current differs inside _ _ next isNext ih =>
      have here : table.HasBase current next :=
        (Array.getElem?_eq_getElem inside).trans (congrArg some isNext)
      have further := ih failed
        (fun known => (List.mem_cons.1 known).elim (fun same => differs same.symm) elsewhere)
        fun number known other leads => by
          rcases List.mem_cons.1 known with rfl | earlier
          · exact .inr (leads.unique here)
          · exact .inl ((closed number earlier other leads).elim (List.mem_cons_of_mem _)
              fun same => same ▸ List.mem_cons_self)
      intro derives
      rcases derives.cases_head with same | ⟨other, first, rest⟩
      · exact differs same
      · exact further (first.unique here ▸ rest)
  | case3 visited current differs inside _ _ isLast =>
      intro derives
      rcases derives.cases_head with same | ⟨other, first, _⟩
      · exact differs same
      · have none := (Array.getElem?_eq_getElem inside).trans (congrArg some isLast)
        exact Option.some_ne_none other (Option.some.inj (first.symm.trans none))
  | case4 visited current differs inside again =>
      have known : ∀ reached, Relation.ReflTransGen table.HasBase current reached →
          reached ∈ visited := by
        intro reached derives
        induction derives with
        | refl => exact Decidable.not_not.1 again
        | tail _ leads ih =>
            exact (closed _ ih _ leads).elim id fun same => same ▸ Decidable.not_not.1 again
      exact fun derives => elsewhere (known base derives)
  | case5 visited current differs outside =>
      intro derives
      rcases derives.cases_head with same | ⟨other, first, _⟩
      · exact differs same
      · exact outside (Array.getElem?_eq_some_iff.1 first).1

/-- **The search for a base finds whether a class derives from another one,** even if bases
lead in a circle. -/
theorem derivesFrom_iff {number base : Nat} :
    table.derivesFrom number base = true ↔
      Relation.ReflTransGen table.HasBase number base := by
  refine ⟨reflTransGen_of_go, fun derives => ?_⟩
  refine Bool.of_not_eq_false fun failed => ?_
  exact not_reflTransGen_of_go failed List.not_mem_nil
    (fun _ impossible => absurd impossible List.not_mem_nil) derives

end ShapeTable

/-! ## Programs -/

namespace Program

/-- A program as it is made of files, with any annotations lowered in it afterwards. -/
inductive FromFiles : Program → Prop
  | ofFiles (sources : List SourceFile) : FromFiles (.ofFiles sources)
  | lowerType {program : Program} (file : Nat) (type : TypeExpression) :
      FromFiles program → FromFiles (program.lowerType file type).2

theorem table_ofFiles (sources : List SourceFile) :
    (ofFiles sources).table = (ofFiles sources).linkage.shapes
      ((ofFiles sources).linkage.declarationTypes (.empty (ofFiles sources).linkage)).2 := rfl

theorem declarationTypes_ofFiles (sources : List SourceFile) :
    (ofFiles sources).declarationTypes =
      ((ofFiles sources).linkage.declarationTypes (.empty (ofFiles sources).linkage)).1 := rfl

variable {program : Program}

/-- **In a program the type of a class or an interface is that of its instances.** -/
theorem FromFiles.entry_declarationType (made : program.FromFiles) {number : Nat} {name : String}
    (declares : program.linkage.DeclaresObject number name) :
    program.table.pool.entry (program.declarationType number) = .named number name := by
  induction made with
  | ofFiles sources =>
      have lowered := (Program.ofFiles sources).linkage.entry_declarationTypes declares
      rw [declarationType, declarationTypes_ofFiles, table_ofFiles]
      exact (Linkage.grows_shapes _ _).pool.entry_eq lowered PoolEntry.noConfusion
  | @lowerType program file type _ ih =>
      have grows := program.linkage.grows_lower [] program.table.types file type
      exact grows.pool.entry_eq (ih declares) PoolEntry.noConfusion

/-- **In a program the bases are those that classes name.** -/
theorem FromFiles.hasBase_iff (made : program.FromFiles) {number base : Nat} :
    program.table.HasBase number base ↔ program.linkage.declaredBase number = some base := by
  induction made with
  | ofFiles sources =>
      rw [table_ofFiles]
      exact (Program.ofFiles sources).linkage.getElem?_bases_shapes _ number base
  | lowerType file type _ ih => exact ih

end Program

end InjectionCheck
