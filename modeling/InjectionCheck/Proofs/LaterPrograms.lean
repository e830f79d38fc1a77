import InjectionCheck.Proofs.GrownTables
import InjectionCheck.Proofs.ListedMembers
import InjectionCheck.Validation.Dependency

/-!
# Programs in which more was lowered

A program is finished when it is made of files, except for its pool of types: whenever an annotation
is lowered, types may be added. Nothing that could be asked of the program before has another answer
afterwards (`Program.OnlyAdds`). Entries keep their numbers, declarations their types and shapes,
types in use are written as before, and fit each other as before.

What an annotation means is settled when it is lowered for the first time. Lowered again in a later
program it gives the same type, and adds nothing (`Program.FromFiles.lowering_stable`). So it does
not matter in which order the parameters of constructors are looked at.
-/

set_option autoImplicit false

namespace InjectionCheck

/-! ## Members of shapes -/

namespace Linkage

/-- The types of all declarations are known, and the types of all members of shapes are in use. -/
structure Sealed (linkage : Linkage) (table : ShapeTable) : Prop where
  settled : linkage.Settled table.types
  closed : table.Closed

variable {linkage : Linkage} {table : ShapeTable}

/-- Types are added and bases recorded. -/
theorem Sealed.widen (isSealed : linkage.Sealed table) {types : TypeTable}
    (widens : table.types.Widens types) (bases : Array (Option Nat)) :
    linkage.Sealed { table with types, bases } where
  settled := isSealed.settled.widen widens
  closed number shape found member inside :=
    Nat.lt_of_lt_of_le (isSealed.closed number shape found member inside) widens.pool.size_le

/-- A shape is kept whose members have types in use. -/
theorem Sealed.keep (isSealed : linkage.Sealed table) {number : Nat} {shape : Shape}
    (inUse : ∀ member ∈ shape.members, member.type.number < table.pool.size) :
    linkage.Sealed { table with shapes := table.shapes.setIfInBounds number (some shape) } where
  settled := isSealed.settled
  closed other found isFound := by
    rw [ShapeTable.shape?_keep] at isFound
    split at isFound
    · cases isFound
      exact inUse
    · exact isSealed.closed other found isFound

/-- The members of a parent have types in use, also if its shape is not computed yet. -/
theorem Sealed.inherited_inUse (isSealed : linkage.Sealed table) (parent : Nat) :
    ∀ member ∈ ((table.shape? parent).map Shape.members).getD [],
      member.type.number < table.pool.size := by
  cases found : table.shape? parent with
  | none => exact List.forall_mem_nil _
  | some shape => exact isSealed.closed parent shape found

variable (linkage)

mutual

/-- **Computing a shape adds types, and the types of its members are in use.** -/
theorem sealed_computeShape (path : List Nat) {table : ShapeTable}
    (isSealed : linkage.Sealed table) (number : Nat) :
    let further := linkage.computeShape path table number
    table.types.Widens further.types ∧ linkage.Sealed further := by
  rw [computeShape]
  split
  · exact ⟨.refl _, isSealed⟩
  · split
    · next inside =>
      split
      · next fresh =>
        have := unvisited_cons_lt (List.mem_range.2 inside) fresh
        obtain ⟨widens, lists⟩ := isSealed.settled.ownMembers linkage.declarations[number]
        obtain ⟨further, sealedAll, inUse⟩ := sealed_inherit (number :: path)
          (isSealed.widen widens
            (table.bases.setIfInBounds number (linkage.base? linkage.declarations[number])))
          lists.inUse (linkage.parentsOf linkage.declarations[number])
        exact ⟨widens.trans further, sealedAll.keep inUse⟩
      · exact ⟨.refl _, isSealed⟩
    · exact ⟨.refl _, isSealed⟩
termination_by (unvisited linkage.numbers path, 0)

theorem sealed_inherit (path : List Nat) {table : ShapeTable} (isSealed : linkage.Sealed table)
    {members : List Member} (inUse : ∀ member ∈ members, member.type.number < table.pool.size)
    (parents : List Nat) :
    let made := linkage.inherit path table members parents
    table.types.Widens made.2.types ∧ linkage.Sealed made.2 ∧
      ∀ member ∈ made.1, member.type.number < made.2.pool.size := by
  cases parents with
  | nil =>
    rw [inherit]
    exact ⟨.refl _, isSealed, inUse⟩
  | cons parent others =>
    rw [inherit]
    obtain ⟨widens, sealedParent⟩ := sealed_computeShape path isSealed parent
    have inUseAll : ∀ member ∈ withInherited members
        ((((linkage.computeShape path table parent).shape? parent).map Shape.members).getD []),
        member.type.number < (linkage.computeShape path table parent).pool.size := by
      intro member inside
      rcases mem_withInherited.1 inside with own | ⟨given, -⟩
      · exact Nat.lt_of_lt_of_le (inUse member own) widens.pool.size_le
      · exact sealedParent.inherited_inUse parent member given
    obtain ⟨further, sealedAll, inUseLast⟩ := sealed_inherit path sealedParent inUseAll others
    exact ⟨widens.trans further, sealedAll, inUseLast⟩
termination_by (unvisited linkage.numbers path, parents.length + 1)

end

/-- The shapes of all classes and interfaces have members with types in use, also where extends
clauses lead in a circle. -/
theorem sealed_shapes {types : TypeTable} (settled : linkage.Settled types) :
    linkage.Sealed (linkage.shapes types) := by
  have start : linkage.Sealed (.empty linkage types) := by
    refine ⟨settled, ?_⟩
    intro number shape found
    simp only [ShapeTable.shape?, ShapeTable.empty, Array.getElem?_replicate] at found
    split at found <;> cases found
  unfold shapes
  apply List.foldlRecOn (motive := fun table : ShapeTable => linkage.Sealed table) _ _ start
  intro table isSealed number _
  exact (linkage.sealed_computeShape [] isSealed number).2

/-- Lowering an annotation in a settled table adds types, and gives a type in use. -/
theorem Settled.draws_lower {linkage : Linkage} {table : TypeTable}
    (settled : linkage.Settled table) (file : Nat) (type : TypeExpression) :
    Draws table (linkage.lower [] table file type)
      ((linkage.sketch file type).value table.sketchOf) := by
  rw [lower_eq]
  exact settled.draws_sketch (linkage.orderly_sketch file type).fits

end Linkage

/-! ## Later programs -/

namespace Program

variable {program later latest : Program}

/-- A program in which any annotations were lowered, one after another. -/
inductive Later (program : Program) : Program → Prop
  | refl : Later program program
  | lowerType {later : Program} (file : Nat) (type : TypeExpression) :
      Later program later → Later program (later.lowerType file type).2

theorem Later.trans (first : program.Later later) (second : later.Later latest) :
    program.Later latest := by
  induction second with
  | refl => exact first
  | lowerType file type _ ih => exact ih.lowerType file type

/-- A later program has the same declarations, with the same types and shapes, and at least as many
types. -/
structure Widens (program later : Program) : Prop where
  linkage : later.linkage = program.linkage
  declarationTypes : later.declarationTypes = program.declarationTypes
  table : program.table.Widens later.table

theorem FromFiles.ofLater (made : program.FromFiles) (after : program.Later later) :
    later.FromFiles := by
  induction after with
  | refl => exact made
  | lowerType file type _ ih => exact ih.lowerType file type

/-- **In a program the types of all declarations are known, and the types of members in use.** -/
theorem FromFiles.isSealed (made : program.FromFiles) : program.linkage.Sealed program.table := by
  induction made with
  | ofFiles sources =>
    rw [table_ofFiles]
    exact Linkage.sealed_shapes _ (Linkage.settled_declarationTypes _)
  | @lowerType program file type _ ih =>
    exact ih.widen (ih.settled.draws_lower file type).toWidens program.table.bases

/-- One annotation more changes nothing. -/
theorem FromFiles.widens_lowerType (made : program.FromFiles) (file : Nat)
    (type : TypeExpression) : program.Widens (program.lowerType file type).2 :=
  ⟨rfl, rfl, rfl, rfl, (made.isSealed.settled.draws_lower file type).toWidens⟩

/-- **Any annotations more change nothing.** -/
theorem FromFiles.widens (made : program.FromFiles) (after : program.Later later) :
    program.Widens later := by
  induction after with
  | refl => exact ⟨rfl, rfl, .refl _⟩
  | lowerType file type before ih =>
    have step := (made.ofLater before).widens_lowerType file type
    exact ⟨step.linkage.trans ih.linkage, step.declarationTypes.trans ih.declarationTypes,
      ih.table.trans step.table⟩

/-- Nothing that can be asked of a program has another answer in a later one. -/
structure OnlyAdds (program later : Program) : Prop where
  /-- Entries are added behind those that there are. -/
  entries : program.table.pool.entries.toList <+: later.table.pool.entries.toList
  /-- A number in use stands for what it stood for. -/
  entry : ∀ type, type.number < program.table.pool.size →
    later.table.pool.entry type = program.table.pool.entry type
  declarationType : ∀ number, later.declarationType number = program.declarationType number
  shape? : ∀ number, later.shape? number = program.shape? number
  /-- Types in use fit each other as before. -/
  isAssignable : ∀ source target : TypeIndex, source.number < program.table.pool.size →
    target.number < program.table.pool.size →
      later.isAssignable source target = program.isAssignable source target
  /-- Types in use are written as before. -/
  format : ∀ type, type.number < program.table.pool.size → later.format type = program.format type

theorem FromFiles.onlyAdds (made : program.FromFiles) (after : program.Later later) :
    program.OnlyAdds later where
  entries := (made.widens after).table.types.pool
  entry type inUse := (made.widens after).table.entry_eq inUse
  declarationType number := by
    rw [Program.declarationType, Program.declarationType, (made.widens after).declarationTypes]
  shape? number := (made.widens after).table.shape?_eq number
  isAssignable source target sourceInUse targetInUse :=
    (made.widens after).table.fits_eq made.isSealed.closed [] sourceInUse targetInUse
  format type inUse := by
    have sketched := (made.widens after).table.types.pool.sketchBy_eq id type inUse
    rw [Program.format, Program.format, Pool.format_eq id, Pool.format_eq id]
    exact congrArg (Written.text ∘ Sketch.written) sketched

/-- **An annotation that was lowered is recalled:** in every later program it gives the same type,
and adds nothing. -/
theorem FromFiles.lowerType_recalls (made : program.FromFiles) {file : Nat}
    {type : TypeExpression}
    (after : (program.lowerType file type).2.Later later) :
    later.lowerType file type = ((program.lowerType file type).1, later) := by
  have widens := (made.lowerType file type).widens after
  have recalled : later.linkage.lower [] later.table.types file type =
      ((program.lowerType file type).1, later.table.types) := by
    have types := widens.table.types
    rw [widens.linkage]
    change (program.linkage.lower [] program.table.types file type).2.Widens _ at types
    change program.linkage.lower [] later.table.types file type =
      ((program.linkage.lower [] program.table.types file type).1, later.table.types)
    rw [Linkage.lower_eq] at types ⊢
    rw [Linkage.lower_eq]
    exact made.isSealed.settled.lower_recalls
      (program.linkage.orderly_sketch file type).fits types
  rw [Program.lowerType, recalled]

/-- What is written for an annotation does not depend on what was lowered before. -/
theorem FromFiles.format_lowerType_eq (made : program.FromFiles) {other : Program}
    (after : program.Later later) (after' : program.Later other) (file : Nat)
    (type : TypeExpression) :
    (later.lowerType file type).2.format (later.lowerType file type).1 =
      (other.lowerType file type).2.format (other.lowerType file type).1 := by
  have written {later : Program} (after : program.Later later) :
      (later.lowerType file type).2.format (later.lowerType file type).1 =
        ((program.linkage.sketch file type).value
          program.table.types.sketchOf).written.text := by
    have widens := made.widens after
    have drawn := (made.ofLater after).isSealed.settled.draws_lower file type
    rw [format, Pool.format_eq id]
    refine congrArg (Written.text ∘ Sketch.written) (drawn.sketched.trans ?_)
    rw [widens.linkage, made.isSealed.settled.sketchOf_eq widens.table.types]
  rw [written after, written after']

/-! ## Constructors -/

/-- To look at the parameters of a constructor, whatever they are, is to lower annotations. -/
theorem later_dependencies (program : Program) (file : Nat) (parameters : List (Parameter × Nat)) :
    program.Later (program.dependencies file parameters).2 := by
  induction parameters generalizing program with
  | nil => exact .refl
  | cons parameter others ih =>
    obtain ⟨parameter, index⟩ := parameter
    rw [dependencies]
    split
    · exact ih program
    · cases parameter.type with
      | none => exact ih program
      | some type => exact (Later.refl.lowerType file type).trans (ih _)

theorem later_dependentClasses (program : Program) (declarations : List (Declaration × Nat)) :
    program.Later (program.dependentClasses declarations).2 := by
  induction declarations generalizing program with
  | nil => exact .refl
  | cons declaration others ih =>
    obtain ⟨declaration, number⟩ := declaration
    rw [dependentClasses]
    split
    · exact ih program
    · next member _ =>
      have first : program.Later (program.dependentClass number declaration member.parameters).2 :=
        program.later_dependencies declaration.file member.parameters.zipIdx
      exact first.trans (ih _)

/-- **Lowering is stable.** However many annotations are lowered in a program, and in whatever order
the parameters of constructors are looked at, nothing that could be asked before has another answer.
An annotation gives a type in use; in every later program it gives the same type and adds nothing;
and what is written for it is the same whatever was lowered before. -/
theorem FromFiles.lowering_stable (made : program.FromFiles) :
    (∀ later, program.Later later → program.OnlyAdds later) ∧
      (∀ file type, let first := program.lowerType file type
        first.1.number < first.2.table.pool.size ∧
          ∀ later, first.2.Later later → later.lowerType file type = (first.1, later)) ∧
      (∀ later other, program.Later later → program.Later other → ∀ file type,
        (later.lowerType file type).2.format (later.lowerType file type).1 =
          (other.lowerType file type).2.format (other.lowerType file type).1) ∧
      (∀ file parameters, program.OnlyAdds (program.dependencies file parameters).2) ∧
      ∀ declarations, program.OnlyAdds (program.dependentClasses declarations).2 := by
  refine ⟨?_, ?_, ?_, ?_, ?_⟩
  · intro later after
    exact made.onlyAdds after
  · intro file type first
    have drawn := made.isSealed.settled.draws_lower file type
    refine ⟨drawn.inUse, ?_⟩
    intro later after
    exact made.lowerType_recalls after
  · intro later other after after' file type
    exact made.format_lowerType_eq after after' file type
  · intro file parameters
    exact made.onlyAdds (program.later_dependencies file parameters)
  · intro declarations
    exact made.onlyAdds (program.later_dependentClasses declarations)

/-- The arrays of people are the same type before and after other annotations are lowered. -/
theorem lowering_stable_people :
    let program := ofFiles [people]
    let arrays : TypeExpression := ⟨.array ⟨.named "Person" [], ⟨0, 6⟩⟩, ⟨0, 8⟩⟩
    let first := program.lowerType 0 arrays
    let later := (first.2.lowerType 0 ⟨.tuple [arrays, arrays], ⟨0, 20⟩⟩).2
    program.OnlyAdds later ∧ later.lowerType 0 arrays = (first.1, later) := by
  intro program arrays first later
  obtain ⟨adds, recalls, _⟩ := (FromFiles.ofFiles [people]).lowering_stable
  have after : first.2.Later later := Later.refl.lowerType 0 ⟨.tuple [arrays, arrays], ⟨0, 20⟩⟩
  exact ⟨adds later ((Later.refl.lowerType 0 arrays).trans after), (recalls 0 arrays).2 later after⟩

end Program

end InjectionCheck
