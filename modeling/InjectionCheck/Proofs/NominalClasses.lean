import InjectionCheck.Proofs.AssignabilityRules
import InjectionCheck.Proofs.InheritedMembers

/-!
# What a class with hidden members accepts

A class with members that are not public is meant to accept its own instances only, and those
of the classes that derive from it. Two comparisons do not ask whether the class has hidden
members (`EscapesGuard`): a primitive type fits if no member of the class is required, and an
intersection fits if its members, taken together, include the public ones of the class.

These are the only exceptions. A type fits the class if and only if it is an instance type or
an exception, or a union of such types, or an intersection with one of them
(`nominal_class_accepts`). A type without exceptions among its operands fits only if it
consists of instance types.
-/

set_option autoImplicit false

namespace InjectionCheck

namespace Pool

variable (pool : Pool)

/-- The operands of a type are the type itself and, if it is a union or an intersection, the
operands of its members. -/
inductive Operand : TypeIndex → TypeIndex → Prop
  | self (type : TypeIndex) : Operand type type
  | union {type member part : TypeIndex} {members : List TypeIndex} :
      pool.entry type = .union members → member ∈ members → Operand member part →
        Operand type part
  | intersection {type member part : TypeIndex} {members : List TypeIndex} :
      pool.entry type = .intersection members → member ∈ members → Operand member part →
        Operand type part

/-- A type consists of types of some kind: it is one of them, or a union all of whose members
consist of them, or an intersection one of whose members does. -/
inductive ConsistsOf (kind : TypeIndex → Prop) : TypeIndex → Prop
  | one {type : TypeIndex} : kind type → ConsistsOf kind type
  | union {type : TypeIndex} {members : List TypeIndex} :
      pool.entry type = .union members → (∀ member ∈ members, ConsistsOf kind member) →
        ConsistsOf kind type
  | intersection {type member : TypeIndex} {members : List TypeIndex} :
      pool.entry type = .intersection members → member ∈ members → ConsistsOf kind member →
        ConsistsOf kind type

/-- Something is known of every operand of a type. -/
def Definite (type : TypeIndex) : Prop :=
  ∀ part, pool.Operand type part →
    part ≠ .any ∧ part ≠ .ofPrimitive .never ∧ pool.isIndeterminate part = false

variable {pool}

/-- Only the operands of a type matter for what it consists of. -/
theorem ConsistsOf.imp {kind kind' : TypeIndex → Prop} {type : TypeIndex}
    (consists : pool.ConsistsOf kind type)
    (weaker : ∀ part, pool.Operand type part → kind part → kind' part) :
    pool.ConsistsOf kind' type := by
  induction consists with
  | one holds => exact .one (weaker _ (.self _) holds)
  | union isUnion _ ih =>
      exact .union isUnion fun member inside =>
        ih member inside fun part operand => weaker part (.union isUnion inside operand)
  | intersection isIntersection inside _ ih =>
      exact .intersection isIntersection inside
        (ih fun part operand => weaker part (.intersection isIntersection inside operand))

theorem consistsOf_iff {kind : TypeIndex → Prop} {type : TypeIndex} :
    pool.ConsistsOf kind type ↔ kind type ∨
      (∃ members, pool.entry type = .union members ∧
        ∀ member ∈ members, pool.ConsistsOf kind member) ∨
      ∃ members, pool.entry type = .intersection members ∧
        ∃ member ∈ members, pool.ConsistsOf kind member := by
  constructor
  · intro consists
    cases consists with
    | one holds => exact .inl holds
    | union isUnion each => exact .inr (.inl ⟨_, isUnion, each⟩)
    | intersection isIntersection inside one =>
        exact .inr (.inr ⟨_, isIntersection, _, inside, one⟩)
  · rintro (holds | ⟨members, isUnion, each⟩ | ⟨members, isIntersection, member, inside, one⟩)
    · exact .one holds
    · exact .union isUnion each
    · exact .intersection isIntersection inside one

/-- The members of a union or an intersection are definite if it is. -/
theorem Definite.member {type member : TypeIndex} {members : List TypeIndex}
    (definite : pool.Definite type)
    (isEntry : pool.entry type = .union members ∨ pool.entry type = .intersection members)
    (inside : member ∈ members) : pool.Definite member := by
  intro part operand
  rcases isEntry with isUnion | isIntersection
  · exact definite part (.union isUnion inside operand)
  · exact definite part (.intersection isIntersection inside operand)

theorem entry_ofPrimitive (primitive : Primitive) :
    pool.entry (.ofPrimitive primitive) = .reserved := by
  cases primitive <;> rfl

/-- A type that the pool makes up is not one that is known everywhere. -/
theorem ne_ofPrimitive {pool : Pool} {type : TypeIndex} (inUse : pool.entry type ≠ .reserved)
    (primitive : Primitive) : type ≠ .ofPrimitive primitive := by
  rintro rfl
  exact inUse (pool.entry_ofPrimitive primitive)

/-- Everything is known of strings. -/
theorem definite_string (pool : Pool) : pool.Definite (.ofPrimitive .string) := by
  intro part operand
  cases operand with
  | self => exact ⟨by decide, by decide, by rw [isIndeterminate, entry_ofPrimitive]; rfl⟩
  | union isUnion _ _ =>
      rw [entry_ofPrimitive] at isUnion
      cases isUnion
  | intersection isIntersection _ _ =>
      rw [entry_ofPrimitive] at isIntersection
      cases isIntersection

end Pool

namespace ShapeTable

variable {table : ShapeTable}

theorem members?_named {type : TypeIndex} {number : Nat} {name : String}
    (isNamed : table.pool.entry type = .named number name) :
    table.members? type = some (((table.shape? number).map Shape.members).getD []) := by
  rw [members?]
  split
  · next found =>
      rw [isNamed] at found
      cases found
      rfl
  · next found =>
      rw [isNamed] at found
      cases found
  · next found =>
      rw [isNamed] at found
      cases found
  · next noName _ _ => exact absurd isNamed (noName number name)

/-- Where something is known of a type, it fits a class anyway only if it is the same type. -/
theorem fitsAnyway_eq {source target : TypeIndex} {base : Nat} {name : String}
    (isNamed : table.pool.entry target = .named base name) (notAny : source ≠ .any)
    (notNever : source ≠ .ofPrimitive .never)
    (known : table.pool.isIndeterminate source = false) :
    table.fitsAnyway source target = decide (source = target) := by
  have notPrimitive : ∀ primitive, target ≠ .ofPrimitive primitive := by
    rintro primitive rfl
    rw [Pool.entry_ofPrimitive] at isNamed
    cases isNamed
  have targetKnown : table.pool.isIndeterminate target = false := by
    rw [Pool.isIndeterminate, isNamed, TypeIndex.error, decide_eq_false (notPrimitive .error)]
    rfl
  rw [fitsAnyway, decide_eq_false notAny, decide_eq_false notNever, TypeIndex.any,
    decide_eq_false (notPrimitive .any), decide_eq_false (notPrimitive .unknown), known,
    targetKnown]
  simp only [Bool.or_false]

/-- How a type is compared with a class that has hidden members. -/
theorem isAssignable_nominal {source target : TypeIndex} {base : Nat} {name : String}
    (isNamed : table.pool.entry target = .named base name)
    (nominal : table.isNominal base = true)
    (different : table.fitsAnyway source target = false) :
    table.isAssignable source target =
      match table.pool.entry source with
      | .union members => members.all fun member => table.isAssignable member target
      | .intersection members =>
        (members.any fun member => table.isAssignable member target) ||
          table.fitsByMembers [] source target
      | .reserved => !isNothing source && table.hasNoRequiredMember target
      | .named number _ => table.derivesFrom number base
      | _ => false := by
  rw [isAssignable, fits_eq_eval, rule, different, isNamed]
  cases table.pool.entry source <;>
    simp [Formula.eval, Formula.eval_all, Formula.eval_any, answer, nominal, isAssignable]

end ShapeTable

namespace Program

/-- A class is another class or derives from it, by the bases that are declared. -/
def Derives (program : Program) : Nat → Nat → Prop :=
  Relation.ReflTransGen fun number base => program.linkage.declaredBase number = some base

/-- The instances of a class, or of a class that derives from it. -/
def IsInstanceType (program : Program) (number : Nat) (type : TypeIndex) : Prop :=
  ∃ other name, program.table.pool.entry type = .named other name ∧ program.Derives other number

/-- A type is compared with a class without asking whether the class has hidden members, and
fits it. -/
inductive EscapesGuard (program : Program) (number : Nat) (type : TypeIndex) : Prop
  /-- A primitive type fits a class without required members. -/
  | primitive : program.table.pool.entry type = .reserved → ShapeTable.isNothing type = false →
      program.table.hasNoRequiredMember (program.declarationType number) = true →
        EscapesGuard program number type
  /-- The members of an intersection, taken together, fit the public members of the class. -/
  | combined {members : List TypeIndex} : program.table.pool.entry type = .intersection members →
      program.table.fitsByMembers [] type (program.declarationType number) = true →
        EscapesGuard program number type

variable {program : Program}

theorem FromFiles.derivesFrom_iff (made : program.FromFiles) {number base : Nat} :
    program.table.derivesFrom number base = true ↔ program.Derives number base := by
  have same : program.table.HasBase =
      fun number base => program.linkage.declaredBase number = some base := by
    funext number base
    exact propext made.hasBase_iff
  rw [ShapeTable.derivesFrom_iff, same, Derives]

/-- What a number stands for tells what makes it an instance type or an exception. -/
theorem isInstanceType_or_escapesGuard_iff {number : Nat} {type : TypeIndex} :
    program.IsInstanceType number type ∨ program.EscapesGuard number type ↔
      match program.table.pool.entry type with
      | .named other _ => program.Derives other number
      | .reserved => (!ShapeTable.isNothing type &&
          program.table.hasNoRequiredMember (program.declarationType number)) = true
      | .intersection _ =>
          program.table.fitsByMembers [] type (program.declarationType number) = true
      | _ => False := by
  constructor
  · rintro (⟨other, name, isEntry, derives⟩ | ⟨isEntry, something, optional⟩ | ⟨isEntry, fit⟩)
    · rw [isEntry]
      exact derives
    · rw [isEntry, something, optional]
      rfl
    · rw [isEntry]
      exact fit
  · intro holds
    cases isEntry : program.table.pool.entry type with
    | named other name =>
        rw [isEntry] at holds
        exact .inl ⟨other, name, isEntry, holds⟩
    | reserved =>
        rw [isEntry] at holds
        simp only [Bool.and_eq_true, Bool.not_eq_true'] at holds
        exact .inr (.primitive isEntry holds.1 holds.2)
    | intersection members =>
        rw [isEntry] at holds
        exact .inr (.combined isEntry holds)
    | _ =>
        rw [isEntry] at holds
        exact holds.elim

section Nominal

variable {number : Nat} {name : String}

theorem isNominal_of_shape? {shape : Shape} (hasShape : program.shape? number = some shape)
    (nominal : shape.isNominal = true) : program.table.isNominal number = true := by
  rw [ShapeTable.isNominal, ← shape?, hasShape]
  exact nominal

/-- A type fits a class with hidden members if and only if it consists of instance types and
exceptions. The proof follows the operands of the type, which have smaller numbers. -/
theorem isAssignable_iff_consistsOf (made : program.FromFiles)
    (declares : program.linkage.DeclaresObject number name)
    (nominal : program.table.isNominal number = true) {source : TypeIndex}
    (definite : program.table.pool.Definite source) :
    program.isAssignable source (program.declarationType number) = true ↔
      program.table.pool.ConsistsOf
        (fun part => program.IsInstanceType number part ∨ program.EscapesGuard number part)
        source := by
  have isNamed := made.entry_declarationType declares
  obtain ⟨notAny, notNever, known⟩ := definite source (.self source)
  have anyway := ShapeTable.fitsAnyway_eq isNamed notAny notNever known
  by_cases same : source = program.declarationType number
  · rw [decide_eq_true same] at anyway
    refine iff_of_true ?_ (.one (.inl ⟨number, name, same ▸ isNamed, .refl⟩))
    rw [isAssignable, ShapeTable.isAssignable, ShapeTable.fits_eq_eval, ShapeTable.rule,
      if_pos anyway]
    rfl
  · rw [decide_eq_false same] at anyway
    rw [isAssignable, ShapeTable.isAssignable_nominal isNamed nominal anyway,
      Pool.consistsOf_iff, isInstanceType_or_escapesGuard_iff]
    cases isEntry : program.table.pool.entry source with
    | union members =>
        have part : ∀ member ∈ members,
            program.isAssignable member (program.declarationType number) = true ↔ _ :=
          fun member inside => isAssignable_iff_consistsOf made declares nominal
            (definite.member (.inl isEntry) inside)
        simp only [List.all_eq_true, PoolEntry.union.injEq, exists_eq_left', reduceCtorEq,
          false_and, exists_false, or_false, false_or]
        exact forall₂_congr part
    | intersection members =>
        have part : ∀ member ∈ members,
            program.isAssignable member (program.declarationType number) = true ↔ _ :=
          fun member inside => isAssignable_iff_consistsOf made declares nominal
            (definite.member (.inr isEntry) inside)
        simp only [Bool.or_eq_true, List.any_eq_true, PoolEntry.intersection.injEq,
          exists_eq_left', reduceCtorEq, false_and, exists_false, false_or]
        rw [or_comm]
        exact or_congr_right (exists_congr fun member => and_congr_right (part member))
    | named other _ => simp [made.derivesFrom_iff]
    | _ => simp
termination_by source.number
decreasing_by
  · exact Pool.part_lt isEntry inside
  · exact Pool.part_lt isEntry inside

/-- **What a class with hidden members accepts.** A type of whose operands something is known
fits the class if and only if it consists of instance types of the class and of exceptions.
Where no operand is an exception, it consists of instance types: it is the class or one that
derives from it, or a union of such types only, or an intersection with one of them. -/
theorem nominal_class_accepts (made : program.FromFiles) {declaration : Declaration}
    (declared : program.declaration? number = some declaration)
    (isClass : declaration.kind = .class_) {shape : Shape}
    (hasShape : program.shape? number = some shape) (nominal : shape.isNominal = true)
    {source : TypeIndex} (definite : program.table.pool.Definite source) :
    (program.isAssignable source (program.declarationType number) = true ↔
      program.table.pool.ConsistsOf
        (fun part => program.IsInstanceType number part ∨ program.EscapesGuard number part)
        source) ∧
    ((∀ part, program.table.pool.Operand source part → ¬program.EscapesGuard number part) →
      program.isAssignable source (program.declarationType number) = true →
        program.table.pool.ConsistsOf (program.IsInstanceType number) source) := by
  have declares : program.linkage.DeclaresObject number declaration.name :=
    ⟨declaration, declared, .inl isClass, rfl⟩
  have accepts := isAssignable_iff_consistsOf made declares
    (isNominal_of_shape? hasShape nominal) definite
  refine ⟨accepts, fun noException fits => ?_⟩
  exact (accepts.1 fits).imp fun part operand kind =>
    kind.resolve_right (noException part operand)

end Nominal

/-! ## A class whose only member is hidden and may be left out -/

/-- A file with a class whose only member is private and optional. -/
def optionalStore : SourceFile :=
  ⟨"main.ts", "class Cache \x7b private store?: string \x7d".toList⟩

/-- Whether there is only one declaration, of a class without base that has one member, which is
private and optional. -/
def hidesOptional : List Declaration → Bool
  | [declaration] =>
    declaration.class?.any fun form =>
      form.base.isNone &&
        match form.members with
        | [.property property] =>
          !property.isStatic && property.optional && property.access = .private_
        | _ => false
  | _ => false

/-- Where a class without parents is the only declaration, its members are its own. -/
theorem shape?_shapes_of_parentsOf_eq_nil {linkage : Linkage} (types : TypeTable)
    {declaration : Declaration} (only : linkage.declarations = #[declaration])
    (isClass : declaration.kind = .class_) (noParents : linkage.parentsOf declaration = []) :
    ∃ shape, (linkage.shapes types).shape? 0 = some shape ∧
      shape.members = (linkage.ownMembers types declaration).1 := by
  obtain ⟨declarations, scopes⟩ := linkage
  obtain rfl : declarations = #[declaration] := only
  have shaped : Linkage.shaped ⟨#[declaration], scopes⟩ = [0] := by
    simp [Linkage.shaped, Linkage.numbers, isClass]
  rw [Linkage.shapes, shaped, List.foldl_cons, List.foldl_nil, Linkage.computeShape,
    if_neg (by simp [ShapeTable.shape?, ShapeTable.empty]), dif_pos (by simp),
    dif_pos (by simp)]
  dsimp only
  rw [show (#[declaration])[0] = declaration from rfl, noParents, Linkage.inherit]
  exact ⟨_, by simp [ShapeTable.shape?, ShapeTable.empty]; rfl, rfl⟩

/-- The shape of such a class has one member, which is private and optional. -/
theorem shape?_of_hidesOptional {linkage : Linkage} (types : TypeTable)
    (hides : hidesOptional linkage.declarations.toList = true) :
    ∃ declaration shape member, linkage.declarations[0]? = some declaration ∧
      declaration.kind = .class_ ∧ (linkage.shapes types).shape? 0 = some shape ∧
        shape.members = [member] ∧ member.access = .private_ ∧ member.optional = true := by
  unfold hidesOptional at hides
  split at hides
  · next declaration only =>
      obtain ⟨form, isForm, described⟩ := (Option.any_eq_true _ _).1 hides
      rw [Bool.and_eq_true] at described
      obtain ⟨noBase, members⟩ := described
      split at members
      · next property oneMember =>
          simp only [Bool.and_eq_true, Bool.not_eq_true', decide_eq_true_eq] at members
          obtain ⟨⟨notStatic, optional⟩, access⟩ := members
          have isClass := Linkage.kind_of_class? isForm
          have array : linkage.declarations = #[declaration] := Array.toList_inj.1 only
          have isClassForm := Linkage.form_of_class? isForm
          have noParents : linkage.parentsOf declaration = [] := by
            simp only [Linkage.parentsOf, isClassForm, Option.isNone_iff_eq_none.1 noBase]
            rfl
          obtain ⟨shape, found, own⟩ :=
            shape?_shapes_of_parentsOf_eq_nil types array isClass noParents
          simp only [Linkage.ownMembers, isClassForm, oneMember, List.foldl_cons, List.foldl_nil,
            Linkage.addClassMember, notStatic] at own
          exact ⟨declaration, shape, _, by rw [array]; rfl, isClass, found, own, access, optional⟩
      · cases members
  · cases hides

theorem hidesOptional_optionalStore :
    hidesOptional (ofFiles [optionalStore]).linkage.declarations.toList = true := by
  decide +kernel

/-- The class of the file is nominal, and no member of it is required. -/
theorem optionalStore_hides :
    ∃ declaration shape, (ofFiles [optionalStore]).declaration? 0 = some declaration ∧
      declaration.kind = .class_ ∧ (ofFiles [optionalStore]).shape? 0 = some shape ∧
        shape.isNominal = true ∧ (ofFiles [optionalStore]).table.hasNoRequiredMember
          ((ofFiles [optionalStore]).declarationType 0) = true := by
  obtain ⟨declaration, shape, member, declared, isClass, hasShape, members, access, optional⟩ :=
    shape?_of_hidesOptional
      ((ofFiles [optionalStore]).linkage.declarationTypes
        (.empty (ofFiles [optionalStore]).linkage)).2 hidesOptional_optionalStore
  rw [← table_ofFiles] at hasShape
  have isNamed := (FromFiles.ofFiles [optionalStore]).entry_declarationType
    ⟨declaration, declared, .inl isClass, rfl⟩
  refine ⟨declaration, shape, declared, isClass, hasShape, ?_, ?_⟩
  · have isMember : member ∈ shape.members := members ▸ List.mem_singleton_self member
    exact ((FromFiles.ofFiles _).wellMade 0 shape hasShape).nominal.2
      ⟨member, isMember, by simp [access]⟩
  · simp [ShapeTable.hasNoRequiredMember, ShapeTable.members?_named isNamed, hasShape, members,
      optional]

/-- A string fits the class, since none of its members is required. -/
theorem nominal_class_accepts_optionalStore :
    ∃ declaration shape, (ofFiles [optionalStore]).declaration? 0 = some declaration ∧
      declaration.kind = .class_ ∧ (ofFiles [optionalStore]).shape? 0 = some shape ∧
      shape.isNominal = true ∧
      (ofFiles [optionalStore]).table.pool.Definite (.ofPrimitive .string) ∧
      (ofFiles [optionalStore]).isAssignable (.ofPrimitive .string)
        ((ofFiles [optionalStore]).declarationType 0) = true := by
  obtain ⟨declaration, shape, declared, isClass, hasShape, nominal, optional⟩ :=
    optionalStore_hides
  have definite := Pool.definite_string (ofFiles [optionalStore]).table.pool
  have accepts := (nominal_class_accepts (.ofFiles [optionalStore]) declared isClass hasShape
    nominal definite).1
  refine ⟨declaration, shape, declared, isClass, hasShape, nominal, definite, accepts.2 ?_⟩
  exact .one (.inr (.primitive (Pool.entry_ofPrimitive .string) rfl optional))

/-- Not everything that fits a class with hidden members consists of its instances. -/
theorem nominal_class_accepts_strangers :
    ¬∀ (program : Program) (number : Nat) (declaration : Declaration) (shape : Shape)
      (source : TypeIndex), program.FromFiles → program.declaration? number = some declaration →
      declaration.kind = .class_ → program.shape? number = some shape →
      shape.isNominal = true → program.table.pool.Definite source →
      program.isAssignable source (program.declarationType number) = true →
        program.table.pool.ConsistsOf (program.IsInstanceType number) source := by
  intro claimed
  obtain ⟨declaration, shape, declared, isClass, hasShape, nominal, optional⟩ :=
    optionalStore_hides
  have definite := Pool.definite_string (ofFiles [optionalStore]).table.pool
  have reserved : (ofFiles [optionalStore]).table.pool.entry (.ofPrimitive .string) = .reserved :=
    Pool.entry_ofPrimitive .string
  have fits := (isAssignable_iff_consistsOf (.ofFiles [optionalStore])
    ⟨declaration, declared, .inl isClass, rfl⟩ (isNominal_of_shape? hasShape nominal) definite).2
      (.one (.inr (.primitive reserved rfl optional)))
  have consists := claimed _ 0 declaration shape _ (.ofFiles _) declared isClass hasShape nominal
    definite fits
  cases consists with
  | one isInstance =>
      obtain ⟨other, name, isNamed, _⟩ := isInstance
      rw [reserved] at isNamed
      cases isNamed
  | union isUnion _ =>
      rw [reserved] at isUnion
      cases isUnion
  | intersection isIntersection _ _ =>
      rw [reserved] at isIntersection
      cases isIntersection

end Program

end InjectionCheck
