import InjectionCheck.Proofs.InheritedMembers
import InjectionCheck.Proofs.NominalClasses

/-!
# Declared inheritance and assignability

A class fits every class that it derives from, by the bases. For interfaces no such table is kept:
they are compared with their ancestors by members, like all other types. Since members are copied
from ancestors, this finds what was declared, provided that extends clauses do not lead in a circle
and no two of the declarations involved declare the same name (`ancestor_accepts`).

An ancestor with hidden members is the exception. An interface may extend a class that has some and
inherits them, but it is no class that derives from it, and so does not fit
(`interface_not_accepted`).
-/

set_option autoImplicit false

namespace InjectionCheck

namespace Linkage

variable {linkage : Linkage} {number parent ancestor : Nat} {declaration : Declaration}

/-- Extends clauses lead from classes and interfaces to classes and interfaces. -/
theorem Extends.declaresObject (step : linkage.Extends number parent) :
    (∃ name, linkage.DeclaresObject number name) ∧ ∃ name, linkage.DeclaresObject parent name := by
  obtain ⟨declaration, declared, isParent⟩ := step
  obtain ⟨other, declared', ⟨isClass, isClass'⟩ | ⟨isInterface, isObject⟩⟩ :=
    exists_of_mem_parentsOf isParent
  · exact ⟨⟨_, _, declared, .inl isClass, rfl⟩, ⟨_, _, declared', .inl isClass', rfl⟩⟩
  · exact ⟨⟨_, _, declared, .inr isInterface, rfl⟩, ⟨_, _, declared', isObject, rfl⟩⟩

/-- The extends clause of a class leads to its base, which is a class. -/
theorem Extends.declaredBase (step : linkage.Extends number parent)
    (declared : linkage.declarations[number]? = some declaration)
    (isClass : declaration.kind = .class_) :
    linkage.declaredBase number = some parent ∧
      ∃ base, linkage.declarations[parent]? = some base ∧ base.kind = .class_ := by
  obtain ⟨other, declared', isParent⟩ := step
  cases declared.symm.trans declared'
  obtain ⟨base, isBase, ⟨_, isClass'⟩ | ⟨isInterface, _⟩⟩ := exists_of_mem_parentsOf isParent
  · refine ⟨?_, base, isBase, isClass'⟩
    obtain ⟨file, item, exported, form⟩ := declaration
    cases form with
    | classType form =>
        have inside : parent ∈ linkage.parents file (· = .class_) form.base.toList := isParent
        have atMostOne : (linkage.parents file (· = .class_) form.base.toList).length ≤ 1 :=
          (List.length_filterMap_le _ _).trans (by cases form.base <;> simp)
        have isHead :
            (linkage.parents file (· = .class_) form.base.toList).head? = some parent := by
          generalize linkage.parents file (· = .class_) form.base.toList = found
            at inside atMostOne
          match found with
          | [single] => rw [List.mem_singleton.1 inside, List.head?_cons]
          | first :: second :: others => simp at atMostOne
        rw [Linkage.declaredBase, declared, Option.bind_some]
        exact isHead
    | interfaceType form => cases isClass
    | typeAlias form => cases isClass
    | binding form => cases isClass
  · rw [isClass] at isInterface
    cases isInterface

/-- A class derives from all its ancestors. -/
theorem derives_of_extends (leads : Relation.ReflTransGen linkage.Extends number ancestor)
    (declared : linkage.declarations[number]? = some declaration)
    (isClass : declaration.kind = .class_) :
    Relation.ReflTransGen (fun number base => linkage.declaredBase number = some base) number
      ancestor := by
  induction leads using Relation.ReflTransGen.head_induction_on generalizing declaration with
  | refl => exact .refl
  | head step _ ih =>
      obtain ⟨isBase, base, declared', isClass'⟩ := step.declaredBase declared isClass
      exact .head isBase (ih declared' isClass')

end Linkage

namespace ShapeTable

variable {table : ShapeTable} {source target : TypeIndex} {number base : Nat} {name name' : String}

/-- How the instances of one class or interface are compared with those of another one. -/
theorem isAssignable_named (isNamed : table.pool.entry source = .named number name)
    (isNamed' : table.pool.entry target = .named base name') :
    table.isAssignable source target = (decide (source = target) ||
      table.derivesFrom number base || (!table.isNominal base &&
        table.fitsByMembers [] source target)) := by
  have notPrimitive : ∀ primitive, source ≠ .ofPrimitive primitive :=
    Pool.ne_ofPrimitive (by rw [isNamed]; exact PoolEntry.noConfusion)
  have known : table.pool.isIndeterminate source = false := by
    rw [Pool.isIndeterminate, isNamed, TypeIndex.error, decide_eq_false (notPrimitive .error)]
    rfl
  rw [isAssignable_eq_eval, rule, fitsAnyway_eq isNamed' (notPrimitive .any) (notPrimitive .never)
    known, isNamed, isNamed']
  by_cases same : source = target
  · simp [same, Formula.eval]
  · simp [same, Formula.eval, answer]

/-- A type fits another one by its members if it has all members that are wanted, as they are. -/
theorem fitsByMembers_of_subset {assumed : List (TypeIndex × TypeIndex)}
    {wanted offered : List Member} (inUse : table.pool.entry source ≠ .reserved)
    (isWanted : table.members? target = some wanted)
    (isOffered : table.members? source = some offered)
    (offers : ∀ member ∈ wanted, member.access = .public_ →
      offered.find? (·.name = member.name) = some member) :
    table.fitsByMembers assumed source target = true := by
  rw [fitsByMembers_eq_eval _ _ _ inUse, isWanted, Option.isSome_some, Bool.true_and,
    Bool.or_eq_true]
  refine .inr ?_
  rw [membersRule, isWanted, isOffered, Option.getD_some, Formula.eval_all, List.all_eq_true]
  intro member isMember
  rw [eval_memberRule]
  by_cases isPublic : member.access = .public_
  · simp [isPublic, offers member isMember isPublic, fits_refl]
  · simp [isPublic]

end ShapeTable

namespace Program

variable {program : Program} {number ancestor : Nat}

/-- No two declarations among a declaration and its ancestors declare the same name. -/
def DeclaresOnce (program : Program) (number : Nat) : Prop :=
  ∀ name first second, Relation.ReflTransGen program.linkage.Extends number first →
    Relation.ReflTransGen program.linkage.Extends number second →
    program.linkage.DeclaresMember first name → program.linkage.DeclaresMember second name →
      first = second

/-- **Members of ancestors are inherited as they are,** if no two declarations declare the same
name. -/
theorem find?_inherited (made : program.FromFiles) (acyclic : program.linkage.Acyclic)
    (once : program.DeclaresOnce number)
    (leads : Relation.ReflTransGen program.linkage.Extends number ancestor) {member : Member}
    (inside : member ∈ program.table.membersOf ancestor) :
    (program.table.membersOf number).find? (·.name = member.name) = some member := by
  obtain ⟨known, shaped⟩ := made.knowsShapes acyclic
  have hasName := Linkage.mem_names_of_ancestor known
    (fun number parent step => by
      obtain ⟨name, declares⟩ := step.declaresObject.1
      exact shaped number name declares) leads (List.mem_map_of_mem inside)
  obtain ⟨named, isNamed, sameName⟩ := List.mem_map.1 hasName
  cases isFound : (program.table.membersOf number).find? (·.name = member.name) with
  | none =>
      exact absurd (decide_eq_true sameName) (List.find?_eq_none.1 isFound named isNamed)
  | some found =>
      have isMember := List.mem_of_find?_eq_some isFound
      have sameName : found.name = member.name := by
        simpa using List.find?_some isFound
      obtain ⟨first, toFirst, declares, isFirst⟩ := Linkage.exists_origin acyclic known isMember
      obtain ⟨second, toSecond, declares', isSecond⟩ := Linkage.exists_origin acyclic known inside
      obtain rfl := once member.name first second toFirst (leads.trans toSecond)
        (sameName ▸ declares) declares'
      rw [eq_of_name_eq (made.wellMade.distinctNames first) isFirst isSecond sameName]

/-! ## Plain extends clauses -/

/-- Where all parents stand before their children, extends clauses do not lead in a circle. -/
theorem acyclic_of_parents_before {linkage : Linkage}
    (before : ∀ number declaration, linkage.declarations[number]? = some declaration →
      ∀ parent ∈ linkage.parentsOf declaration, parent < number) : linkage.Acyclic := by
  have less : ∀ number other, Relation.TransGen linkage.Extends number other → other < number := by
    intro number other leads
    induction leads with
    | single step =>
        obtain ⟨declaration, declared, isParent⟩ := step
        exact before _ declaration declared _ isParent
    | tail _ step ih =>
        obtain ⟨declaration, declared, isParent⟩ := step
        exact (before _ declaration declared _ isParent).trans ih
  exact fun number circle => Nat.lt_irrefl number (less number number circle)

/-- Whether all parents stand before their children, and no name is declared twice. -/
def isPlain (linkage : Linkage) : Bool :=
  (linkage.declarations.toList.zipIdx.all fun (declaration, number) =>
    (linkage.parentsOf declaration).all (· < number)) &&
  decide (linkage.declarations.toList.flatMap Declaration.memberNames).Nodup

theorem acyclic_of_isPlain {linkage : Linkage} (plain : isPlain linkage = true) :
    linkage.Acyclic := by
  refine acyclic_of_parents_before fun number declaration declared parent isParent => ?_
  rw [isPlain, Bool.and_eq_true, List.all_eq_true] at plain
  have inside : (declaration, number) ∈ linkage.declarations.toList.zipIdx := by
    rw [List.mem_zipIdx_iff_getElem?, Array.getElem?_toList]
    exact declared
  simpa using List.all_eq_true.1 (plain.1 _ inside) parent isParent

theorem declaresOnce_of_isPlain {program : Program} (plain : isPlain program.linkage = true)
    (number : Nat) : program.DeclaresOnce number := by
  rintro name first second _ _ ⟨declaration, declared, declares⟩
    ⟨declaration', declared', declares'⟩
  rw [isPlain, Bool.and_eq_true, decide_eq_true_eq, List.nodup_flatMap] at plain
  rw [← Array.getElem?_toList] at declared declared'
  obtain ⟨inside, rfl⟩ := List.getElem?_eq_some_iff.1 declared
  obtain ⟨inside', rfl⟩ := List.getElem?_eq_some_iff.1 declared'
  by_contra different
  have apart := List.pairwise_iff_getElem.1 plain.2.2
  rcases Nat.lt_or_gt_of_ne different with less | less
  · exact apart first second inside inside' less declares declares'
  · exact apart second first inside' inside less declares' declares

/-- Whether a number stands for a declaration of some kind with certain parents. -/
def isDeclared (linkage : Linkage) (number : Nat) (kind : DeclarationKind) (parents : List Nat) :
    Bool :=
  linkage.declarations[number]?.any fun declaration =>
    declaration.kind = kind && linkage.parentsOf declaration = parents

theorem exists_of_isDeclared {kind : DeclarationKind} {parents : List Nat}
    (isDeclared : isDeclared program.linkage number kind parents = true) :
    ∃ declaration, program.declaration? number = some declaration ∧ declaration.kind = kind ∧
      program.linkage.parentsOf declaration = parents := by
  obtain ⟨declaration, declared, described⟩ := (Option.any_eq_true _ _).1 isDeclared
  simp only [Bool.and_eq_true, decide_eq_true_eq] at described
  exact ⟨declaration, declared, described⟩

theorem extends_of_isDeclared {kind : DeclarationKind} {parents : List Nat} {parent : Nat}
    (isDeclared : isDeclared program.linkage number kind parents = true)
    (isParent : parent ∈ parents) : program.linkage.Extends number parent := by
  obtain ⟨declaration, declared, _, isParents⟩ := exists_of_isDeclared isDeclared
  exact ⟨declaration, declared, isParents ▸ isParent⟩

/-- The members of an interface without parents are not hidden. -/
theorem isNominal_of_interface (made : program.FromFiles) (acyclic : program.linkage.Acyclic)
    {declaration : Declaration} (declared : program.declaration? number = some declaration)
    (isInterface : declaration.kind = .interface_)
    (noParents : program.linkage.parentsOf declaration = []) :
    program.table.isNominal number = false := by
  obtain ⟨types, members⟩ :=
    made.membersOf_eq_own acyclic declared (.inr isInterface) noParents
  rw [made.wellMade.isNominal_eq, members, List.any_eq_false, Linkage.ownMembers]
  obtain ⟨file, item, exported, form⟩ := declaration
  cases form with
  | interfaceType form =>
      have none : ∀ member ∈ ([] : List Member), member.access = .public_ := List.forall_mem_nil _
      intro member inside
      simpa using program.linkage.access_lowerMembers [] types file none form.members member inside
  | classType form => cases isInterface
  | typeAlias form => cases isInterface
  | binding form => cases isInterface

/-! ## Ancestors -/

/-- **Declared inheritance gives assignability.** Where no extends clauses lead in a circle, and no
two of a class or interface and its ancestors declare the same name, its instances fit each of its
ancestors: a class fits always, and an interface if no member of the ancestor is hidden. -/
theorem ancestor_accepts (made : program.FromFiles) (acyclic : program.linkage.Acyclic)
    {declaration : Declaration} (declared : program.declaration? number = some declaration)
    (leads : Relation.ReflTransGen program.linkage.Extends number ancestor)
    (once : program.DeclaresOnce number)
    (accepts : declaration.kind = .class_ ∨
      declaration.kind = .interface_ ∧ program.table.isNominal ancestor = false) :
    program.isAssignable (program.declarationType number)
      (program.declarationType ancestor) = true := by
  have declares : program.linkage.DeclaresObject number declaration.name :=
    ⟨declaration, declared, accepts.imp_right And.left, rfl⟩
  obtain ⟨name, declares'⟩ : ∃ name, program.linkage.DeclaresObject ancestor name := by
    rcases leads.cases_tail with rfl | ⟨_, _, step⟩
    · exact ⟨_, declares⟩
    · exact step.declaresObject.2
  have isNamed := made.entry_declarationType declares
  have isNamed' := made.entry_declarationType declares'
  rw [isAssignable, ShapeTable.isAssignable_named isNamed isNamed']
  rcases accepts with isClass | ⟨_, visible⟩
  · rw [made.derivesFrom_iff.2 (Linkage.derives_of_extends leads declared isClass), Bool.or_true,
      Bool.true_or]
  · rw [visible, ShapeTable.fitsByMembers_of_subset (isNamed ▸ PoolEntry.noConfusion)
      (ShapeTable.members?_named isNamed') (ShapeTable.members?_named isNamed)
      fun member inside _ => find?_inherited made acyclic once leads inside]
    simp

/-- A file in which two interfaces extend a third one, and a fourth one extends both. -/
def people : SourceFile :=
  ⟨"people.ts", ("interface Being \x7b id: string \x7d " ++
    "interface Named extends Being \x7b name: string \x7d " ++
    "interface Aged extends Being \x7b age: number \x7d " ++
    "interface Person extends Named, Aged \x7b mail: string \x7d").toList⟩

theorem linkage_people : isPlain (ofFiles [people]).linkage = true ∧
    isDeclared (ofFiles [people]).linkage 0 .interface_ [] = true ∧
    isDeclared (ofFiles [people]).linkage 1 .interface_ [0] = true ∧
    isDeclared (ofFiles [people]).linkage 3 .interface_ [1, 2] = true := by
  decide +kernel

/-- An interface fits an interface that it extends in two ways. -/
theorem ancestor_accepts_people :
    ∃ declaration, (ofFiles [people]).declaration? 3 = some declaration ∧
      declaration.kind = .interface_ ∧ (ofFiles [people]).linkage.Acyclic ∧
      Relation.ReflTransGen (ofFiles [people]).linkage.Extends 3 0 ∧
      (ofFiles [people]).DeclaresOnce 3 ∧ (ofFiles [people]).table.isNominal 0 = false ∧
      (ofFiles [people]).isAssignable ((ofFiles [people]).declarationType 3)
        ((ofFiles [people]).declarationType 0) = true := by
  obtain ⟨plain, isBeing, isNamed, isPerson⟩ := linkage_people
  have acyclic := acyclic_of_isPlain plain
  have once := declaresOnce_of_isPlain plain 3
  obtain ⟨being, declared, isInterface, noParents⟩ := exists_of_isDeclared isBeing
  obtain ⟨person, declared', isInterface', _⟩ := exists_of_isDeclared isPerson
  have leads : Relation.ReflTransGen (ofFiles [people]).linkage.Extends 3 0 :=
    .head (extends_of_isDeclared isPerson List.mem_cons_self)
      (.single (extends_of_isDeclared isNamed List.mem_cons_self))
  have visible := isNominal_of_interface (.ofFiles _) acyclic declared isInterface noParents
  exact ⟨person, declared', isInterface', acyclic, leads, once, visible,
    ancestor_accepts (.ofFiles _) acyclic declared' leads once (.inr ⟨isInterface', visible⟩)⟩

/-! ## An interface that extends a class with a hidden member -/

/-- A file with a class that has one member, which is private, and an interface that extends the
class. -/
def sharedCache : SourceFile :=
  ⟨"main.ts", ("class Cache \x7b private store: string \x7d " ++
    "interface Shared extends Cache \x7b\x7d").toList⟩

/-- Whether a declaration is a class with one member, which is private. -/
def hidesOne (declaration : Declaration) : Bool :=
  declaration.class?.any fun form =>
    match form.members with
    | [.property property] => !property.isStatic && property.access = .private_
    | _ => false

/-- A class without parents whose only member is private is nominal. -/
theorem isNominal_of_hidesOne (made : program.FromFiles) (acyclic : program.linkage.Acyclic)
    {declaration : Declaration} (declared : program.declaration? number = some declaration)
    (hides : hidesOne declaration = true)
    (noParents : program.linkage.parentsOf declaration = []) :
    program.table.isNominal number = true := by
  obtain ⟨form, isClass, described⟩ := (Option.any_eq_true _ _).1 hides
  obtain ⟨types, members⟩ := made.membersOf_eq_own acyclic declared
    (.inl (Linkage.kind_of_class? isClass)) noParents
  rw [made.wellMade.isNominal_eq, members, Linkage.ownMembers, Linkage.form_of_class? isClass]
  split at described
  · next property oneMember =>
      simp only [Bool.and_eq_true, Bool.not_eq_true', decide_eq_true_eq] at described
      simp [oneMember, Linkage.addClassMember, described.1, described.2, addMember]
  · cases described

theorem linkage_sharedCache : isPlain (ofFiles [sharedCache]).linkage = true ∧
    isDeclared (ofFiles [sharedCache]).linkage 0 .class_ [] = true ∧
    isDeclared (ofFiles [sharedCache]).linkage 1 .interface_ [0] = true ∧
    (ofFiles [sharedCache]).linkage.declarations[0]?.all hidesOne = true ∧
    (ofFiles [sharedCache]).linkage.declaredBase 1 = none := by
  decide +kernel

/-- **An interface need not fit a class that it extends.** -/
theorem interface_not_accepted : ¬∀ (program : Program) (number ancestor : Nat)
    (declaration : Declaration), program.FromFiles → program.linkage.Acyclic →
      program.declaration? number = some declaration →
      (declaration.kind = .class_ ∨ declaration.kind = .interface_) →
      Relation.ReflTransGen program.linkage.Extends number ancestor →
      program.DeclaresOnce number →
        program.isAssignable (program.declarationType number)
          (program.declarationType ancestor) = true := by
  intro claimed
  have made : (ofFiles [sharedCache]).FromFiles := .ofFiles _
  obtain ⟨plain, isCache, isShared, hides, noBase⟩ := linkage_sharedCache
  have acyclic := acyclic_of_isPlain plain
  obtain ⟨cache, declared, isClass, noParents⟩ := exists_of_isDeclared isCache
  obtain ⟨shared, declared', isInterface, _⟩ := exists_of_isDeclared isShared
  have nominal : (ofFiles [sharedCache]).table.isNominal 0 = true := by
    refine isNominal_of_hidesOne made acyclic declared ?_ noParents
    rw [← declaration?, declared] at hides
    exact hides
  have fits := claimed _ 1 0 shared made acyclic declared' (.inr isInterface)
    (.single (extends_of_isDeclared isShared List.mem_cons_self)) (declaresOnce_of_isPlain plain 1)
  have isNamed := made.entry_declarationType ⟨cache, declared, .inl isClass, rfl⟩
  have isNamed' := made.entry_declarationType ⟨shared, declared', .inr isInterface, rfl⟩
  rw [isAssignable, ShapeTable.isAssignable_named isNamed' isNamed, nominal, Bool.not_true,
    Bool.false_and, Bool.or_false, Bool.or_eq_true, decide_eq_true_eq, made.derivesFrom_iff] at fits
  rcases fits with same | derives
  · rw [same, isNamed] at isNamed'
    cases isNamed'
  · obtain same | ⟨base, isBase, _⟩ := derives.cases_head
    · cases same
    · rw [noBase] at isBase
      cases isBase

end Program

end InjectionCheck
