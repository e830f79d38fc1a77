import InjectionCheck.Proofs.AssignabilityGreatest
import InjectionCheck.Proofs.DeclaredInheritance

/-!
# Classes with bases that are not seen

A class may extend a class that is no part of the program. Nothing is known of such a base, and it
is left out when the shape of the class is computed. So a class that is compared with an interface
or an object type is taken to have the members of its shape and no others: if those that it has are
as they are wanted, it fits if and only if it has all that are required, wherever its bases come
from (`class_fits_iff`). A member that is missing is a mismatch even if a base that is not seen may
have it (`unseen_base_mismatch`).
-/

set_option autoImplicit false

namespace InjectionCheck

namespace ShapeTable

variable {table : ShapeTable} {source target : TypeIndex} {wanted offered : List Member}

/-- A member that is wanted is there as it is wanted, or it is missing and may be left out. -/
theorem eval_memberRule_iff {yes : TypeIndex × TypeIndex → Bool} {member : Member} :
    (memberRule offered member).eval yes = true ↔ (member.access = .public_ →
      (∃ found, offered.find? (·.name = member.name) = some found ∧
        (member.optional = false → found.optional = false) ∧ found.access = .public_ ∧
          yes (found.type, member.type) = true) ∨
      offered.find? (·.name = member.name) = none ∧ member.optional = true) := by
  rw [eval_memberRule]
  by_cases isPublic : member.access = .public_
  · cases offered.find? (·.name = member.name) with
    | none => simp [isPublic]
    | some found => cases optional : member.optional <;> simp [isPublic, and_assoc]
  · simp [isPublic]

/-- How members are compared where nothing is assumed. -/
theorem fitsByMembers_nil_iff (inUse : table.pool.entry source ≠ .reserved)
    (isWanted : table.members? target = some wanted)
    (isOffered : table.members? source = some offered) :
    table.fitsByMembers [] source target = true ↔ ∀ member ∈ wanted,
      (memberRule offered member).eval (fun pair =>
        table.fits [(source, target)] pair.1 pair.2) = true := by
  rw [fitsByMembers_eq_eval _ _ _ inUse, isWanted, membersRule, isWanted, isOffered,
    Formula.eval_all]
  simp

/-- Some members are as they are wanted, as far as they are there. -/
def Agrees (table : ShapeTable) (offered wanted : List Member) : Prop :=
  ∀ member ∈ wanted, member.access = .public_ → ∀ found ∈ offered, found.name = member.name →
    found.access = .public_ ∧ (member.optional = false → found.optional = false) ∧
      table.isAssignable found.type member.type = true

/-- All required members are among the names of some members. -/
def Covers (offered wanted : List Member) : Prop :=
  ∀ member ∈ wanted, member.access = .public_ → member.optional = false →
    member.name ∈ offered.map Member.name

/-- Where members fit, no required one is missing. -/
theorem covers_of_fitsByMembers (inUse : table.pool.entry source ≠ .reserved)
    (isWanted : table.members? target = some wanted)
    (isOffered : table.members? source = some offered)
    (fit : table.fitsByMembers [] source target = true) : Covers offered wanted := by
  intro member isMember isPublic required
  have fits := (fitsByMembers_nil_iff inUse isWanted isOffered).1 fit member isMember
  obtain ⟨found, isFound, _⟩ | ⟨_, optional⟩ := eval_memberRule_iff.1 fits isPublic
  · have sameName : found.name = member.name := by simpa using List.find?_some isFound
    exact sameName ▸ List.mem_map_of_mem (List.mem_of_find?_eq_some isFound)
  · rw [required] at optional
    cases optional

/-- Where the members that are there are as they are wanted, only a missing one is a mismatch. -/
theorem fitsByMembers_of_agrees (inUse : table.pool.entry source ≠ .reserved)
    (isWanted : table.members? target = some wanted)
    (isOffered : table.members? source = some offered) (agrees : table.Agrees offered wanted)
    (covers : Covers offered wanted) : table.fitsByMembers [] source target = true := by
  refine (fitsByMembers_nil_iff inUse isWanted isOffered).2 fun member isMember => ?_
  refine eval_memberRule_iff.2 fun isPublic => ?_
  cases isFound : offered.find? (·.name = member.name) with
  | none =>
      refine .inr ⟨rfl, Bool.of_not_eq_false fun required => ?_⟩
      obtain ⟨found, inside, sameName⟩ :=
        List.mem_map.1 (covers member isMember isPublic required)
      exact List.find?_eq_none.1 isFound found inside (decide_eq_true sameName)
  | some found =>
      have sameName : found.name = member.name := by simpa using List.find?_some isFound
      obtain ⟨visible, present, fit⟩ := agrees member isMember isPublic found
        (List.mem_of_find?_eq_some isFound) sameName
      exact .inl ⟨found, rfl, present, visible, table.fits_of_isAssignable fit _⟩

/-- A class or an interface is compared with an object type by members. -/
theorem isAssignable_named_object {number : Nat} {name : String}
    (isNamed : table.pool.entry source = .named number name)
    (isObject : table.pool.entry target = .object wanted) :
    table.isAssignable source target = table.fitsByMembers [] source target := by
  have notPrimitive : ∀ primitive, source ≠ .ofPrimitive primitive :=
    Pool.ne_ofPrimitive (by rw [isNamed]; exact PoolEntry.noConfusion)
  have notPrimitive' : ∀ primitive, target ≠ .ofPrimitive primitive :=
    Pool.ne_ofPrimitive (by rw [isObject]; exact PoolEntry.noConfusion)
  have different : source ≠ target := by
    rintro rfl
    rw [isNamed] at isObject
    cases isObject
  have anyway : table.fitsAnyway source target = false := by
    simp [fitsAnyway, different, Pool.isIndeterminate, isNamed, isObject, TypeIndex.any,
      TypeIndex.error, notPrimitive, notPrimitive']
  rw [isAssignable_eq_eval, rule, anyway, isNamed, isObject]
  rfl

end ShapeTable

namespace Linkage

variable {linkage : Linkage} {number base : Nat}

/-- The base of a class is a class. -/
theorem isClass_of_declaredBase (isBase : linkage.declaredBase number = some base) :
    ∃ declaration, linkage.declarations[base]? = some declaration ∧
      declaration.kind = .class_ := by
  obtain ⟨declaration, _, isBase⟩ := Option.bind_eq_some_iff.1 isBase
  obtain ⟨form, _, isHead⟩ := Option.bind_eq_some_iff.1 isBase
  obtain ⟨base, declared, isClass⟩ := exists_of_mem_parents (List.mem_of_mem_head? isHead)
  exact ⟨base, declared, of_decide_eq_true isClass⟩

end Linkage

namespace Program

variable {program : Program} {number : Nat} {declaration : Declaration} {target : TypeIndex}
  {wanted : List Member}

/-- A type is compared by its members: an interface without hidden members, or an object type. -/
inductive WantsMembers (program : Program) : TypeIndex → List Member → Prop
  | interface {number : Nat} {declaration : Declaration} :
      program.declaration? number = some declaration → declaration.kind = .interface_ →
        program.table.isNominal number = false →
          WantsMembers program (program.declarationType number) (program.table.membersOf number)
  | object {type : TypeIndex} {members : List Member} :
      program.table.pool.entry type = .object members → WantsMembers program type members

theorem WantsMembers.members? (made : program.FromFiles)
    (wants : program.WantsMembers target wanted) :
    program.table.members? target = some wanted := by
  cases wants with
  | interface declared isInterface _ =>
      exact ShapeTable.members?_named
        (made.entry_declarationType ⟨_, declared, .inr isInterface, rfl⟩)
  | object isObject =>
      rw [ShapeTable.members?]
      split <;> simp_all

/-- Classes are compared with interfaces and object types by members. -/
theorem isAssignable_eq_fitsByMembers (made : program.FromFiles)
    (declared : program.declaration? number = some declaration)
    (isClass : declaration.kind = .class_) (wants : program.WantsMembers target wanted) :
    program.isAssignable (program.declarationType number) target =
      program.table.fitsByMembers [] (program.declarationType number) target := by
  have isNamed := made.entry_declarationType ⟨_, declared, .inl isClass, rfl⟩
  cases wants with
  | @interface base other declared' isInterface visible =>
      have isNamed' := made.entry_declarationType ⟨_, declared', .inr isInterface, rfl⟩
      have different : number ≠ base := by
        rintro rfl
        cases declared.symm.trans declared'
        rw [isClass] at isInterface
        cases isInterface
      have otherType : program.declarationType number ≠ program.declarationType base := by
        intro same
        rw [same, isNamed', PoolEntry.named.injEq] at isNamed
        exact different isNamed.1.symm
      have apart : program.table.derivesFrom number base = false := by
        rw [← Bool.not_eq_true, made.derivesFrom_iff]
        intro derives
        obtain same | ⟨_, _, isBase⟩ := derives.cases_tail
        · exact different same.symm
        · obtain ⟨other', declared'', isClass'⟩ := Linkage.isClass_of_declaredBase isBase
          cases declared'.symm.trans declared''
          rw [isInterface] at isClass'
          cases isClass'
      rw [isAssignable, ShapeTable.isAssignable_named isNamed isNamed', decide_eq_false otherType,
        apart, visible]
      rfl
  | object isObject =>
      exact ShapeTable.isAssignable_named_object isNamed isObject

variable (program) in
/-- Some class of the chain of bases of a class, which may be the class itself, names a base that is
no class of the program. -/
def HasUnseenBase (number : Nat) : Prop :=
  ∃ other declaration form, program.Derives number other ∧
    program.declaration? other = some declaration ∧ declaration.class? = some form ∧
    form.base.isSome = true ∧ program.linkage.declaredBase other = none

/-- **What a class is missing is a mismatch, wherever its bases come from.** If the members that a
class has are as an interface or an object type wants them, then it fits if and only if it has all
that are required. -/
theorem class_fits_iff (made : program.FromFiles)
    (declared : program.declaration? number = some declaration)
    (isClass : declaration.kind = .class_) (wants : program.WantsMembers target wanted)
    (agrees : program.table.Agrees (program.table.membersOf number) wanted) :
    program.isAssignable (program.declarationType number) target = true ↔
      ShapeTable.Covers (program.table.membersOf number) wanted := by
  have isNamed := made.entry_declarationType ⟨_, declared, .inl isClass, rfl⟩
  have inUse : program.table.pool.entry (program.declarationType number) ≠ .reserved :=
    isNamed ▸ PoolEntry.noConfusion
  have isOffered := ShapeTable.members?_named isNamed
  have isWanted := wants.members? made
  rw [isAssignable_eq_fitsByMembers made declared isClass wants]
  exact ⟨ShapeTable.covers_of_fitsByMembers inUse isWanted isOffered,
    ShapeTable.fitsByMembers_of_agrees inUse isWanted isOffered agrees⟩

/-! ## A class all of whose members may be inherited -/

/-- A file with a class without members that extends a class from elsewhere, and an interface that
wants a member. -/
def remoteBase : SourceFile :=
  ⟨"main.ts", "class K extends Base \x7b\x7d interface T \x7b a: string \x7d".toList⟩

/-- Whether a declaration is a class that names a base and declares no members. -/
def isBareSubclass (declaration : Declaration) : Bool :=
  declaration.class?.any (·.base.isSome) && declaration.memberNames.isEmpty

/-- Whether a declaration is an interface with one member, which is required. -/
def requiresOne (declaration : Declaration) : Bool :=
  match declaration.form with
  | .interfaceType form =>
    match form.members with
    | [member] => !member.optional
    | _ => false
  | _ => false

/-- A declaration that declares no members has none of its own. -/
theorem ownMembers_eq_nil {linkage : Linkage} (types : TypeTable)
    (bare : declaration.memberNames = []) : (linkage.ownMembers types declaration).1 = [] := by
  refine List.eq_nil_iff_forall_not_mem.2 fun member inside => ?_
  have named := ((linkage.hasNames_ownMembers types declaration).names member.name).1
    (List.mem_map_of_mem inside)
  rw [bare] at named
  cases named

/-- No member is no substitute for the member of an interface that requires it. -/
theorem not_covers_of_requiresOne {linkage : Linkage} (types : TypeTable)
    (requires : requiresOne declaration = true) :
    ¬ShapeTable.Covers [] (linkage.ownMembers types declaration).1 := by
  obtain ⟨file, item, exported, form⟩ := declaration
  unfold requiresOne at requires
  split at requires
  · next form isInterface =>
      split at requires
      · next member isOne =>
          cases isInterface
          intro covers
          simp only [Linkage.ownMembers, isOne] at covers
          rw [Linkage.lowerMembers.eq_def] at covers
          dsimp only at covers
          rw [if_neg (by simp), Linkage.lowerMembers] at covers
          cases covers _ List.mem_cons_self rfl (by simpa using requires)
      · cases requires
  · cases requires

theorem linkage_remoteBase : isPlain (ofFiles [remoteBase]).linkage = true ∧
    isDeclared (ofFiles [remoteBase]).linkage 0 .class_ [] = true ∧
    isDeclared (ofFiles [remoteBase]).linkage 1 .interface_ [] = true ∧
    (ofFiles [remoteBase]).linkage.declarations[0]?.all isBareSubclass = true ∧
    (ofFiles [remoteBase]).linkage.declarations[1]?.all requiresOne = true ∧
    (ofFiles [remoteBase]).linkage.declaredBase 0 = none := by
  decide +kernel

/-- The class of the file has no members and names a base that is not seen, and the interface wants
a member. -/
theorem exists_remoteBase :
    (∃ declaration, (ofFiles [remoteBase]).declaration? 0 = some declaration ∧
      declaration.kind = .class_ ∧ (ofFiles [remoteBase]).HasUnseenBase 0 ∧
      (ofFiles [remoteBase]).table.membersOf 0 = []) ∧
    (ofFiles [remoteBase]).WantsMembers ((ofFiles [remoteBase]).declarationType 1)
      ((ofFiles [remoteBase]).table.membersOf 1) ∧
    ¬ShapeTable.Covers [] ((ofFiles [remoteBase]).table.membersOf 1) := by
  obtain ⟨plain, isFirst, isSecond, bare, requires, noBase⟩ := linkage_remoteBase
  have made : (ofFiles [remoteBase]).FromFiles := .ofFiles _
  have acyclic := acyclic_of_isPlain plain
  obtain ⟨first, declared, isClass, noParents⟩ := exists_of_isDeclared isFirst
  obtain ⟨second, declared', isInterface, noParents'⟩ := exists_of_isDeclared isSecond
  rw [← declaration?, declared] at bare
  rw [← declaration?, declared'] at requires
  obtain ⟨namesBase, noNames⟩ := Bool.and_eq_true_iff.1 bare
  obtain ⟨form, isForm, hasBase⟩ := (Option.any_eq_true _ _).1 namesBase
  obtain ⟨types, members⟩ := made.membersOf_eq_own acyclic declared (.inl isClass) noParents
  obtain ⟨types', members'⟩ :=
    made.membersOf_eq_own acyclic declared' (.inr isInterface) noParents'
  refine ⟨⟨first, declared, isClass, ⟨0, first, form, .refl, declared, isForm, hasBase, noBase⟩,
    ?_⟩, .interface declared' isInterface
      (isNominal_of_interface made acyclic declared' isInterface noParents'), ?_⟩
  · rw [members, ownMembers_eq_nil types (List.isEmpty_iff.1 noNames)]
  · exact members' ▸ not_covers_of_requiresOne types' requires

/-- A class does not fit an interface that wants a member which a base might have. -/
theorem class_fits_iff_remoteBase :
    ∃ declaration, (ofFiles [remoteBase]).declaration? 0 = some declaration ∧
      declaration.kind = .class_ ∧ (ofFiles [remoteBase]).HasUnseenBase 0 ∧
      (ofFiles [remoteBase]).WantsMembers ((ofFiles [remoteBase]).declarationType 1)
        ((ofFiles [remoteBase]).table.membersOf 1) ∧
      (ofFiles [remoteBase]).table.Agrees ((ofFiles [remoteBase]).table.membersOf 0)
        ((ofFiles [remoteBase]).table.membersOf 1) ∧
      ¬(ofFiles [remoteBase]).isAssignable ((ofFiles [remoteBase]).declarationType 0)
        ((ofFiles [remoteBase]).declarationType 1) = true := by
  obtain ⟨⟨declaration, declared, isClass, unseen, noMembers⟩, wants, uncovered⟩ :=
    exists_remoteBase
  have agrees : (ofFiles [remoteBase]).table.Agrees ((ofFiles [remoteBase]).table.membersOf 0)
      ((ofFiles [remoteBase]).table.membersOf 1) := noMembers ▸ nofun
  refine ⟨declaration, declared, isClass, unseen, wants, agrees, ?_⟩
  rw [class_fits_iff (.ofFiles _) declared isClass wants agrees, noMembers]
  exact uncovered

/-- **A mismatch is reported that cannot be proved.** -/
theorem unseen_base_mismatch : ¬∀ (program : Program) (number : Nat) (declaration : Declaration)
    (target : TypeIndex) (wanted : List Member), program.FromFiles →
      program.declaration? number = some declaration → declaration.kind = .class_ →
      program.HasUnseenBase number → program.WantsMembers target wanted →
      program.table.Agrees (program.table.membersOf number) wanted →
        program.isAssignable (program.declarationType number) target = true := by
  intro claimed
  obtain ⟨⟨declaration, declared, isClass, unseen, noMembers⟩, wants, uncovered⟩ :=
    exists_remoteBase
  have made : (ofFiles [remoteBase]).FromFiles := .ofFiles _
  have fit := claimed _ 0 declaration _ _ made declared isClass unseen wants (noMembers ▸ nofun)
  have isNamed := made.entry_declarationType ⟨_, declared, .inl isClass, rfl⟩
  rw [isAssignable_eq_fitsByMembers made declared isClass wants] at fit
  refine uncovered (noMembers ▸ ShapeTable.covers_of_fitsByMembers (isNamed ▸ PoolEntry.noConfusion)
    (wants.members? made) (ShapeTable.members?_named isNamed) fit)

end Program

end InjectionCheck
