import InjectionCheck.Proofs.ClassBases
import Mathlib.Data.Finset.Card
import Mathlib.Data.Finset.Range
import Mathlib.Data.List.Nodup

/-!
# What classes and interfaces inherit

The shape of a class or an interface is computed once, when its parents have got theirs. Where
extends clauses do not lead in a circle, this is what the shape is in the end, too: its own members
first, and then of each parent those members whose names are not taken (`IsShape`,
`Program.FromFiles.knowsShapes`).

Members are copied, not made anew. So every member of a shape belongs to the shape of an ancestor
that declares its name (`exists_origin`), and all names of an ancestor are inherited
(`mem_names_of_ancestor`). Names are never repeated in a shape, and a shape is marked as nominal
exactly if some member is not public (`Shape.WellMade`).
-/

set_option autoImplicit false

namespace InjectionCheck

/-! ## Which names a declaration declares -/

/-- The names of the members of instances that a member of a class declares. -/
def ClassMember.instanceNames : ClassMember → List String
  | .property form => if form.isStatic then [] else [form.name]
  | .method form => if form.isStatic then [] else [form.name]
  | .constructor form => (form.parameters.filter Parameter.isProperty).map Parameter.name

/-- The names of the members of instances that a declaration declares itself. -/
def Declaration.memberNames (declaration : Declaration) : List String :=
  match declaration.form with
  | .classType form => form.members.flatMap ClassMember.instanceNames
  | .interfaceType form => form.members.map TypeMember.name
  | .typeAlias _ | .binding _ => []

/-! ## Lists of members -/

section Members

variable {members inherited : List Member} {member : Member} {name : String}

/-- A name is among the names of some members. -/
theorem any_name_eq_iff :
    members.any (·.name = name) = true ↔ name ∈ members.map Member.name := by
  simp only [List.any_eq_true, decide_eq_true_eq, List.mem_map]

theorem mem_addMember {other : Member} (inside : other ∈ addMember members member) :
    other ∈ members ∨ other = member := by
  unfold addMember at inside
  split at inside
  · exact .inl inside
  · exact (List.mem_append.1 inside).imp_right List.mem_singleton.1

/-- Members that are added one after another are among the given ones. -/
theorem mem_of_mem_foldl_addMember {added : List Member}
    (inside : member ∈ added.foldl addMember members) : member ∈ members ∨ member ∈ added := by
  induction added generalizing members with
  | nil => exact .inl inside
  | cons first others ih =>
      rcases ih inside with before | later
      · rcases mem_addMember before with own | rfl
        · exact .inl own
        · exact .inr List.mem_cons_self
      · exact .inr (List.mem_cons_of_mem _ later)

theorem mem_names_addMember : name ∈ (addMember members member).map Member.name ↔
    name ∈ members.map Member.name ∨ name = member.name := by
  unfold addMember
  split
  · next taken =>
      rw [any_name_eq_iff] at taken
      exact ⟨.inl, fun inside => inside.elim id fun same => same ▸ taken⟩
  · simp

theorem nodup_names_addMember (distinct : (members.map Member.name).Nodup) :
    ((addMember members member).map Member.name).Nodup := by
  unfold addMember
  split
  · exact distinct
  · next free =>
      rw [any_name_eq_iff] at free
      rw [List.map_append, List.nodup_append]
      exact ⟨distinct, List.nodup_singleton _, fun first isFirst second isSecond same =>
        free (List.mem_singleton.1 isSecond ▸ same ▸ isFirst)⟩

theorem mem_withInherited : member ∈ withInherited members inherited ↔
    member ∈ members ∨ member ∈ inherited ∧ member.name ∉ members.map Member.name := by
  rw [withInherited, List.mem_append, List.mem_filter, Bool.not_eq_true', ← Bool.not_eq_true,
    any_name_eq_iff]

theorem mem_names_withInherited : name ∈ (withInherited members inherited).map Member.name ↔
    name ∈ members.map Member.name ∨ name ∈ inherited.map Member.name := by
  constructor
  · intro inside
    obtain ⟨member, isMember, rfl⟩ := List.mem_map.1 inside
    obtain own | ⟨other, _⟩ := mem_withInherited.1 isMember
    · exact .inl (List.mem_map_of_mem own)
    · exact .inr (List.mem_map_of_mem other)
  · intro inside
    by_cases taken : name ∈ members.map Member.name
    · obtain ⟨member, isMember, rfl⟩ := List.mem_map.1 taken
      exact List.mem_map_of_mem (mem_withInherited.2 (.inl isMember))
    · obtain ⟨member, isMember, rfl⟩ := List.mem_map.1 (inside.resolve_left taken)
      exact List.mem_map_of_mem (mem_withInherited.2 (.inr ⟨isMember, taken⟩))

theorem nodup_names_withInherited (distinct : (members.map Member.name).Nodup)
    (distinct' : (inherited.map Member.name).Nodup) :
    ((withInherited members inherited).map Member.name).Nodup := by
  rw [withInherited, List.map_append, List.nodup_append]
  refine ⟨distinct, distinct'.sublist (List.filter_sublist.map _), ?_⟩
  rintro first isFirst second isSecond rfl
  obtain ⟨member, isMember, rfl⟩ := List.mem_map.1 isSecond
  rw [List.mem_filter, Bool.not_eq_true', ← Bool.not_eq_true, any_name_eq_iff] at isMember
  exact isMember.2 isFirst

/-- Of members with different names, one is told by its name. -/
theorem eq_of_name_eq (distinct : (members.map Member.name).Nodup) {member' : Member}
    (inside : member ∈ members) (inside' : member' ∈ members) (same : member.name = member'.name) :
    member = member' :=
  List.inj_on_of_nodup_map distinct inside inside' same

/-- What some lists of members, one after another, add to some members. -/
theorem mem_foldl_withInherited {α : Type} {membersOf : α → List Member} {parents : List α}
    (inside : member ∈ parents.foldl (fun before parent => withInherited before (membersOf parent))
      members) :
    member ∈ members ∨ ∃ parent ∈ parents, member ∈ membersOf parent := by
  induction parents generalizing members with
  | nil => exact .inl inside
  | cons parent others ih =>
      rw [List.foldl_cons] at inside
      obtain before | ⟨other, isOther, given⟩ := ih inside
      · obtain own | ⟨given, _⟩ := mem_withInherited.1 before
        · exact .inl own
        · exact .inr ⟨parent, List.mem_cons_self, given⟩
      · exact .inr ⟨other, List.mem_cons_of_mem _ isOther, given⟩

theorem mem_names_foldl_withInherited {α : Type} {membersOf : α → List Member}
    {parents : List α} :
    name ∈ (parents.foldl (fun before parent => withInherited before (membersOf parent))
        members).map Member.name ↔
      name ∈ members.map Member.name ∨
        ∃ parent ∈ parents, name ∈ (membersOf parent).map Member.name := by
  induction parents generalizing members with
  | nil => simp
  | cons parent others ih =>
      rw [List.foldl_cons, ih, mem_names_withInherited, or_assoc]
      simp only [List.mem_cons, exists_eq_or_imp]

end Members

/-! ## The members that a declaration declares itself -/

namespace Linkage

variable (linkage : Linkage)

/-- Members with different names that have certain names. -/
structure HasNames (members : List Member) (names : List String) : Prop where
  distinct : (members.map Member.name).Nodup
  names : ∀ name, name ∈ members.map Member.name ↔ name ∈ names

variable {linkage} {state : List Member × TypeTable} {names : List String}

theorem HasNames.addMember {members : List Member} (has : HasNames members names)
    (member : Member) : HasNames (addMember members member) (names ++ [member.name]) where
  distinct := nodup_names_addMember has.distinct
  names name := by rw [mem_names_addMember, has.names, List.mem_append, List.mem_singleton]

variable (linkage)

theorem hasNames_addParameterProperties (file : Nat) (has : HasNames state.1 names)
    (parameters : List Parameter) :
    HasNames (linkage.addParameterProperties file state parameters).1
      (names ++ (parameters.filter Parameter.isProperty).map Parameter.name) := by
  induction parameters generalizing state names with
  | nil => simpa [addParameterProperties] using has
  | cons parameter others ih =>
      rw [addParameterProperties]
      split
      · next isProperty =>
          rw [List.filter_cons_of_pos isProperty, List.map_cons, ← List.singleton_append,
            ← List.append_assoc]
          exact ih (has.addMember _)
      · next noProperty =>
          rw [List.filter_cons_of_neg noProperty]
          exact ih has

theorem hasNames_addClassMember (file : Nat) (has : HasNames state.1 names)
    (member : ClassMember) :
    HasNames (linkage.addClassMember file state member).1 (names ++ member.instanceNames) := by
  cases member with
  | property property =>
      rw [addClassMember, ClassMember.instanceNames]
      split
      · rwa [List.append_nil]
      · exact has.addMember _
  | method method =>
      rw [addClassMember, ClassMember.instanceNames]
      split
      · rwa [List.append_nil]
      · exact has.addMember _
  | constructor member => exact linkage.hasNames_addParameterProperties file has _

theorem hasNames_foldl_addClassMember (file : Nat) (has : HasNames state.1 names)
    (members : List ClassMember) :
    HasNames (members.foldl (linkage.addClassMember file) state).1
      (names ++ members.flatMap ClassMember.instanceNames) := by
  induction members generalizing state names with
  | nil => simpa using has
  | cons member others ih =>
      rw [List.foldl_cons, List.flatMap_cons, ← List.append_assoc]
      exact ih (linkage.hasNames_addClassMember file has member)

theorem hasNames_lowerMembers (path : List Nat) (table : TypeTable) (file : Nat)
    {before : List Member} (has : HasNames before names) (members : List TypeMember) :
    HasNames (linkage.lowerMembers path table file before members).1
      (names ++ members.map TypeMember.name) := by
  induction members generalizing table before names with
  | nil =>
      rw [lowerMembers]
      simpa using has
  | cons member others ih =>
      have first : names ++ (member :: others).map TypeMember.name =
          names ++ [member.name] ++ others.map TypeMember.name := by simp
      rw [lowerMembers.eq_def, first]
      dsimp only
      split
      · next taken =>
          rw [any_name_eq_iff, has.names] at taken
          have same : HasNames before (names ++ [member.name]) := ⟨has.distinct, fun name => by
            rw [has.names, List.mem_append, List.mem_singleton]
            exact ⟨.inl, fun inside => inside.elim id fun same => same ▸ taken⟩⟩
          exact ih table same
      · next free =>
          have more : ∀ type isMethod, HasNames
              (before ++ [⟨member.name, member.optional, .public_, type, isMethod⟩])
              (names ++ [member.name]) := fun type isMethod => by
            have added := has.addMember ⟨member.name, member.optional, .public_, type, isMethod⟩
            rwa [InjectionCheck.addMember, if_neg free] at added
          exact ih _ (more _ _)

/-- The members of interfaces are public. -/
theorem access_lowerMembers (path : List Nat) (table : TypeTable) (file : Nat)
    {before : List Member} (visible : ∀ member ∈ before, member.access = .public_)
    (members : List TypeMember) :
    ∀ member ∈ (linkage.lowerMembers path table file before members).1,
      member.access = .public_ := by
  induction members generalizing table before with
  | nil =>
      rw [lowerMembers]
      exact visible
  | cons member others ih =>
      rw [lowerMembers.eq_def]
      dsimp only
      split
      · exact ih table visible
      · refine ih _ fun other inside => ?_
        rcases List.mem_append.1 inside with earlier | last
        · exact visible other earlier
        · exact List.mem_singleton.1 last ▸ rfl

/-- **A declaration's own members have the names that it declares, each once.** -/
theorem hasNames_ownMembers (table : TypeTable) (declaration : Declaration) :
    HasNames (linkage.ownMembers table declaration).1 declaration.memberNames := by
  have none : HasNames [] [] := ⟨List.nodup_nil, fun _ => Iff.rfl⟩
  unfold ownMembers Declaration.memberNames
  cases declaration.form with
  | classType form =>
      exact @hasNames_foldl_addClassMember linkage ([], table) [] declaration.file none form.members
  | interfaceType form => exact linkage.hasNames_lowerMembers [] table declaration.file none _
  | typeAlias form => exact none
  | binding form => exact none

end Linkage

/-! ## Shapes that have been computed -/

/-- What holds of every shape that is computed. -/
structure Shape.WellMade (shape : Shape) : Prop where
  /-- No name is repeated. -/
  distinct : (shape.members.map Member.name).Nodup
  /-- The shape is marked as nominal exactly if some member is not public. -/
  nominal : shape.isNominal = true ↔ ∃ member ∈ shape.members, member.access ≠ .public_

namespace ShapeTable

/-- The members of the instances of a declaration, as far as its shape has been computed. -/
def membersOf (table : ShapeTable) (number : Nat) : List Member :=
  ((table.shape? number).map Shape.members).getD []

theorem membersOf_eq {table : ShapeTable} {number : Nat} {shape : Shape}
    (found : table.shape? number = some shape) : table.membersOf number = shape.members := by
  rw [membersOf, found]
  rfl

/-- The shapes of a table in which one shape is kept. -/
theorem shape?_keep (table : ShapeTable) (number other : Nat) (shape : Shape) :
    ShapeTable.shape?
        { table with shapes := table.shapes.setIfInBounds number (some shape) } other =
      if number = other ∧ number < table.shapes.size then some shape else table.shape? other := by
  unfold ShapeTable.shape?
  rw [Array.getElem?_setIfInBounds]
  by_cases same : number = other
  · subst same
    by_cases inside : number < table.shapes.size
    · simp [inside]
    · simp [inside]
  · simp [same]

/-- All shapes of a table are well made. -/
def WellMade (table : ShapeTable) : Prop :=
  ∀ number shape, table.shape? number = some shape → shape.WellMade

namespace WellMade

variable {table : ShapeTable} (wellMade : table.WellMade) (number : Nat)

include wellMade

theorem distinctNames : ((table.membersOf number).map Member.name).Nodup := by
  cases found : table.shape? number with
  | none =>
      rw [membersOf, found]
      exact List.nodup_nil
  | some shape =>
      rw [membersOf_eq found]
      exact (wellMade number shape found).distinct

theorem isNominal_eq :
    table.isNominal number = (table.membersOf number).any (·.access ≠ .public_) := by
  cases found : table.shape? number with
  | none => rw [isNominal, membersOf, found]; rfl
  | some shape =>
      rw [isNominal, membersOf_eq found, found, Option.any_some, Bool.eq_iff_iff,
        (wellMade number shape found).nominal]
      simp only [List.any_eq_true, decide_eq_true_eq]

end WellMade

end ShapeTable

namespace Linkage

variable (linkage : Linkage)

/-! ### Names and marks -/

mutual

/-- Computing a shape repeats no names and marks it as its members tell, also where extends clauses
lead in a circle. -/
theorem wellMade_computeShape (path : List Nat) {table : ShapeTable}
    (wellMade : table.WellMade) (number : Nat) :
    (linkage.computeShape path table number).WellMade := by
  rw [computeShape]
  split
  · exact wellMade
  · split
    · next inside =>
        split
        · next fresh =>
            have := unvisited_cons_lt (List.mem_range.2 inside) fresh
            have own :=
              (linkage.hasNames_ownMembers table.types linkage.declarations[number]).distinct
            have recorded : ShapeTable.WellMade { table with
                types := (linkage.ownMembers table.types linkage.declarations[number]).2
                bases := table.bases.setIfInBounds number
                  (linkage.base? linkage.declarations[number]) } := wellMade
            obtain ⟨names, others⟩ := wellMade_inherit (number :: path) recorded own
              (linkage.parentsOf linkage.declarations[number])
            intro other shape found
            rw [ShapeTable.shape?_keep] at found
            split at found
            · cases found
              exact ⟨names, by simp⟩
            · exact others other shape found
        · exact wellMade
    · exact wellMade
termination_by (unvisited linkage.numbers path, 0)

theorem wellMade_inherit (path : List Nat) {table : ShapeTable}
    (wellMade : table.WellMade) {members : List Member}
    (own : (members.map Member.name).Nodup) (parents : List Nat) :
    ((linkage.inherit path table members parents).1.map Member.name).Nodup ∧
      (linkage.inherit path table members parents).2.WellMade := by
  cases parents with
  | nil =>
      rw [inherit]
      exact ⟨own, wellMade⟩
  | cons parent others =>
      rw [inherit]
      have further := wellMade_computeShape path wellMade parent
      exact wellMade_inherit path further
        (nodup_names_withInherited own (further.distinctNames parent)) others
termination_by (unvisited linkage.numbers path, parents.length + 1)

end

/-! ### Extends clauses -/

/-- An extends clause of a class or an interface leads to a parent. -/
def Extends (number parent : Nat) : Prop :=
  ∃ declaration, linkage.declarations[number]? = some declaration ∧
    parent ∈ linkage.parentsOf declaration

/-- Extends clauses do not lead in a circle. -/
def Acyclic : Prop := ∀ number, ¬Relation.TransGen linkage.Extends number number

/-- A shape is made as the declaration and the shapes of its parents tell: of its own members, as
they were lowered at some time, and of each parent, in order, those whose names are not taken. -/
def IsShape (table : ShapeTable) (number : Nat) (shape : Shape) : Prop :=
  ∃ declaration types, linkage.declarations[number]? = some declaration ∧
    linkage.Grows types table.types ∧
    (∀ parent ∈ linkage.parentsOf declaration, (table.shape? parent).isSome = true) ∧
    shape.members = (linkage.parentsOf declaration).foldl
      (fun before parent => withInherited before (table.membersOf parent))
      (linkage.ownMembers types declaration).1

/-- All shapes of a table are made as the declarations tell. -/
def KnowsShapes (table : ShapeTable) : Prop :=
  ∀ number shape, table.shape? number = some shape → linkage.IsShape table number shape

/-- What a step of computing shapes keeps: the shapes that there are, and that some declarations
have none. -/
structure KeepsShapes (path : List Nat) (table further : ShapeTable) : Prop where
  types : linkage.Grows table.types further.types
  shapes : ∀ number shape, table.shape? number = some shape →
    further.shape? number = some shape
  path : ∀ number ∈ path, further.shape? number = table.shape? number

variable {linkage} {path : List Nat} {table between further : ShapeTable}

/-- A heritage clause leads to declarations of the kinds that it accepts. -/
theorem exists_of_mem_parents {file parent : Nat} {accepts : DeclarationKind → Bool}
    {names : List NameUse} (inside : parent ∈ linkage.parents file accepts names) :
    ∃ declaration, linkage.declarations[parent]? = some declaration ∧
      accepts declaration.kind = true := by
  obtain ⟨use, _, isUse⟩ := List.mem_filterMap.1 inside
  obtain ⟨⟨number, declaration⟩, isFound, isNumber⟩ := Option.bind_eq_some_iff.1 isUse
  obtain ⟨other, _, isDeclared⟩ := Option.bind_eq_some_iff.1 isFound
  obtain ⟨_, declared, same⟩ := Option.map_eq_some_iff.1 isDeclared
  cases same
  simp only [Option.ite_none_right_eq_some, Option.some.injEq] at isNumber
  exact ⟨declaration, isNumber.2 ▸ declared, isNumber.1⟩

/-- The parents of a class are classes, those of an interface are classes and interfaces, and
nothing else has parents. -/
theorem exists_of_mem_parentsOf {declaration : Declaration} {parent : Nat}
    (isParent : parent ∈ linkage.parentsOf declaration) :
    ∃ other, linkage.declarations[parent]? = some other ∧
      (declaration.kind = .class_ ∧ other.kind = .class_ ∨
        declaration.kind = .interface_ ∧ (other.kind = .class_ ∨ other.kind = .interface_)) := by
  obtain ⟨file, item, exported, form⟩ := declaration
  cases form with
  | classType form =>
      have inside : parent ∈ linkage.parents file (· = .class_) form.base.toList := isParent
      obtain ⟨other, declared, accepted⟩ := exists_of_mem_parents inside
      exact ⟨other, declared, .inl ⟨rfl, of_decide_eq_true accepted⟩⟩
  | interfaceType form =>
      have inside : parent ∈ linkage.parents file
          (fun kind => kind = .class_ || kind = .interface_) form.bases := isParent
      obtain ⟨other, declared, accepted⟩ := exists_of_mem_parents inside
      rw [Bool.or_eq_true, decide_eq_true_eq, decide_eq_true_eq] at accepted
      exact ⟨other, declared, .inr ⟨rfl, accepted⟩⟩
  | typeAlias form => cases isParent
  | binding form => cases isParent

theorem parent_lt {declaration : Declaration} {parent : Nat}
    (isParent : parent ∈ linkage.parentsOf declaration) :
    parent < linkage.declarations.size := by
  obtain ⟨other, declared, _⟩ := exists_of_mem_parentsOf isParent
  exact (Array.getElem?_eq_some_iff.1 declared).1

theorem KeepsShapes.refl (path : List Nat) (table : ShapeTable) :
    linkage.KeepsShapes path table table :=
  ⟨.refl _, fun _ _ known => known, fun _ _ => rfl⟩

theorem KeepsShapes.trans (first : linkage.KeepsShapes path table between)
    (second : linkage.KeepsShapes path between further) :
    linkage.KeepsShapes path table further where
  types := first.types.trans second.types
  shapes number shape known := second.shapes number shape (first.shapes number shape known)
  path number inside := (second.path number inside).trans (first.path number inside)

theorem KeepsShapes.membersOf (keeps : linkage.KeepsShapes path table further) {number : Nat}
    (known : (table.shape? number).isSome = true) :
    further.membersOf number = table.membersOf number := by
  obtain ⟨shape, found⟩ := Option.isSome_iff_exists.1 known
  rw [ShapeTable.membersOf_eq found, ShapeTable.membersOf_eq (keeps.shapes number shape found)]

theorem KeepsShapes.isSome (keeps : linkage.KeepsShapes path table further) {number : Nat}
    (known : (table.shape? number).isSome = true) : (further.shape? number).isSome = true := by
  obtain ⟨shape, found⟩ := Option.isSome_iff_exists.1 known
  rw [keeps.shapes number shape found]
  rfl

/-- What some parents give stays the same while shapes are kept. -/
theorem KeepsShapes.foldl (keeps : linkage.KeepsShapes path table further) {parents : List Nat}
    (known : ∀ parent ∈ parents, (table.shape? parent).isSome = true) (members : List Member) :
    parents.foldl (fun before parent => withInherited before (further.membersOf parent)) members =
      parents.foldl (fun before parent => withInherited before (table.membersOf parent)) members :=
  List.foldl_ext _ _ _ fun _ _ inside => congrArg _ (keeps.membersOf (known _ inside))

/-- A shape stays what it is while shapes are kept. -/
theorem IsShape.keep {number : Nat} {shape : Shape} (isShape : linkage.IsShape table number shape)
    (keeps : linkage.KeepsShapes path table further) : linkage.IsShape further number shape := by
  obtain ⟨declaration, types, declared, grows, parents, members⟩ := isShape
  exact ⟨declaration, types, declared, grows.trans keeps.types,
    fun parent isParent => keeps.isSome (parents parent isParent),
    members.trans (keeps.foldl parents _).symm⟩

variable (linkage)

/-- Recording a base and adding types changes no shape. -/
theorem keeps_record (path : List Nat) {table : ShapeTable} {types : TypeTable}
    (bases : Array (Option Nat)) (grows : linkage.Grows table.types types) :
    linkage.KeepsShapes path table { table with types, bases } :=
  ⟨grows, fun _ _ found => found, fun _ _ => rfl⟩

variable {linkage}

/-- A shape that is made as the declaration tells, of a declaration that had none, is added. -/
theorem KnowsShapes.keep (known : linkage.KnowsShapes table) {number : Nat} {shape : Shape}
    (isShape : linkage.IsShape table number shape) (fresh : table.shape? number = none)
    (elsewhere : number ∉ path) :
    let kept : ShapeTable := { table with
      shapes := table.shapes.setIfInBounds number (some shape) }
    linkage.KeepsShapes path table kept ∧ linkage.KnowsShapes kept := by
  intro kept
  have keeps : linkage.KeepsShapes path table kept := by
    refine ⟨.refl _, fun other found isFound => ?_, fun other isOther => ?_⟩
    · rw [ShapeTable.shape?_keep, if_neg, isFound]
      rintro ⟨rfl, _⟩
      rw [fresh] at isFound
      cases isFound
    · rw [ShapeTable.shape?_keep, if_neg]
      rintro ⟨rfl, _⟩
      exact elsewhere isOther
  refine ⟨keeps, fun other found isFound => ?_⟩
  rw [ShapeTable.shape?_keep] at isFound
  split at isFound
  · next same =>
      obtain rfl := same.1
      cases isFound
      exact isShape.keep keeps
  · exact (known other found isFound).keep keeps

variable (linkage)

-- A declaration whose shape is being computed leads to all those that are computed meanwhile. In
-- the absence of circles none of them is under way already, so every parent gets its shape.
mutual

/-- Computing a shape keeps the other shapes, and makes it as the declarations tell. -/
theorem keeps_computeShape (acyclic : linkage.Acyclic) (path : List Nat) {table : ShapeTable}
    (records : linkage.RecordsBases table) (known : linkage.KnowsShapes table) (number : Nat)
    (leads : ∀ other ∈ path, Relation.TransGen linkage.Extends other number) :
    linkage.KeepsShapes path table (linkage.computeShape path table number) ∧
      linkage.KnowsShapes (linkage.computeShape path table number) := by
  rw [computeShape]
  split
  · exact ⟨.refl path table, known⟩
  · next missing =>
      split
      · next inside =>
          split
          · next fresh =>
              have := unvisited_cons_lt (List.mem_range.2 inside) fresh
              have declared := Array.getElem?_eq_getElem inside
              have grows := linkage.grows_ownMembers table.types linkage.declarations[number]
              have base : linkage.base? linkage.declarations[number] =
                  linkage.declaredBase number := by rw [declaredBase, declared, Option.bind_some]
              dsimp only
              rw [base]
              have record := linkage.keeps_record (number :: path)
                (table.bases.setIfInBounds number (linkage.declaredBase number)) grows
              have recorded := (Advances.record number grows).records records
              obtain ⟨keeps, knows, shaped, members⟩ := keeps_inherit acyclic (number :: path)
                recorded (fun other found isFound => (known other found isFound).keep record)
                (linkage.ownMembers table.types linkage.declarations[number]).1
                (linkage.parentsOf linkage.declarations[number])
                (fun parent isParent other isOther => by
                  have step : linkage.Extends number parent := ⟨_, declared, isParent⟩
                  rcases List.mem_cons.1 isOther with rfl | before
                  · exact .single step
                  · exact (leads other before).tail step)
                (fun parent isParent => parent_lt isParent)
              have whole := record.trans keeps
              have stillFresh := (whole.path number List.mem_cons_self).trans
                (Option.not_isSome_iff_eq_none.1 missing)
              have kept (nominal : Bool) := knows.keep
                (⟨_, _, declared, grows.trans keeps.types, shaped, members⟩ :
                  linkage.IsShape _ number ⟨_, nominal⟩) stillFresh fresh
              exact ⟨KeepsShapes.trans ⟨whole.types, whole.shapes, fun other isOther =>
                whole.path other (List.mem_cons_of_mem _ isOther)⟩ (kept _).1, (kept _).2⟩
          · exact ⟨.refl path table, known⟩
      · exact ⟨.refl path table, known⟩
termination_by (unvisited linkage.numbers path, 0)

theorem keeps_inherit (acyclic : linkage.Acyclic) (path : List Nat) {table : ShapeTable}
    (records : linkage.RecordsBases table) (known : linkage.KnowsShapes table)
    (members : List Member) (parents : List Nat)
    (leads : ∀ parent ∈ parents, ∀ other ∈ path, Relation.TransGen linkage.Extends other parent)
    (inside : ∀ parent ∈ parents, parent < linkage.declarations.size) :
    let made := linkage.inherit path table members parents
    linkage.KeepsShapes path table made.2 ∧ linkage.KnowsShapes made.2 ∧
      (∀ parent ∈ parents, (made.2.shape? parent).isSome = true) ∧
      made.1 = parents.foldl
        (fun before parent => withInherited before (made.2.membersOf parent)) members := by
  cases parents with
  | nil =>
      rw [inherit]
      exact ⟨.refl path table, known, List.forall_mem_nil _, rfl⟩
  | cons parent others =>
      rw [inherit]
      dsimp only
      rw [← ShapeTable.membersOf]
      obtain ⟨leadsFirst, leadsOthers⟩ := List.forall_mem_cons.1 leads
      obtain ⟨insideFirst, insideOthers⟩ := List.forall_mem_cons.1 inside
      obtain ⟨keeps, knows⟩ := keeps_computeShape acyclic path records known parent leadsFirst
      obtain ⟨advances, present⟩ := linkage.advances_computeShape path table parent
      have isShaped := present records insideFirst fun again => acyclic _ (leadsFirst _ again)
      obtain ⟨keeps', knows', shaped, same⟩ := keeps_inherit acyclic path (advances.records records)
        knows (withInherited members ((linkage.computeShape path table parent).membersOf parent))
        others leadsOthers insideOthers
      refine ⟨keeps.trans keeps', knows',
        List.forall_mem_cons.2 ⟨keeps'.isSome isShaped, shaped⟩, ?_⟩
      rw [List.foldl_cons, keeps'.membersOf isShaped]
      exact same
termination_by (unvisited linkage.numbers path, parents.length + 1)

end

theorem knowsShapes_empty (types : TypeTable) : linkage.KnowsShapes (.empty linkage types) := by
  intro number shape found
  simp only [ShapeTable.shape?, ShapeTable.empty, Array.getElem?_replicate] at found
  split at found <;> cases found

/-- Shapes that are computed one after another are made as the declarations tell. -/
theorem knowsShapes_foldl (acyclic : linkage.Acyclic) (numbers : List Nat) {table : ShapeTable}
    (records : linkage.RecordsBases table) (known : linkage.KnowsShapes table) :
    linkage.KnowsShapes (numbers.foldl (linkage.computeShape []) table) := by
  induction numbers generalizing table with
  | nil => exact known
  | cons number others ih =>
      have advances := (linkage.advances_computeShape [] table number).1
      exact ih (advances.records records)
        (linkage.keeps_computeShape acyclic [] records known number (List.forall_mem_nil _)).2

/-- **In the absence of circles every class and interface gets a shape,** and all shapes are made as
the declarations tell. -/
theorem knowsShapes_shapes (acyclic : linkage.Acyclic) (types : TypeTable) :
    linkage.KnowsShapes (linkage.shapes types) ∧
      ∀ number name, linkage.DeclaresObject number name →
        ((linkage.shapes types).shape? number).isSome = true := by
  have records := linkage.recordsBases_empty types
  have known := linkage.knowsShapes_foldl acyclic linkage.shaped records
    (linkage.knowsShapes_empty types)
  refine ⟨known, fun number name declares => ?_⟩
  obtain ⟨declaration, declared, isObject, _⟩ := declares
  have inside := (Array.getElem?_eq_some_iff.1 declared).1
  have isShaped : number ∈ linkage.shaped := by
    refine List.mem_filter.2 ⟨List.mem_range.2 inside, ?_⟩
    rw [declared, Option.any_some]
    simpa using isObject
  exact (linkage.advances_foldl_computeShape linkage.shaped records).2 number isShaped inside

theorem wellMade_foldl (numbers : List Nat) {table : ShapeTable} (wellMade : table.WellMade) :
    (numbers.foldl (linkage.computeShape []) table).WellMade := by
  induction numbers generalizing table with
  | nil => exact wellMade
  | cons number others ih => exact ih (linkage.wellMade_computeShape [] wellMade number)

theorem wellMade_empty (types : TypeTable) : (ShapeTable.empty linkage types).WellMade := by
  intro number shape found
  simp only [ShapeTable.shape?, ShapeTable.empty, Array.getElem?_replicate] at found
  split at found <;> cases found

end Linkage

/-! ## Where members come from -/

namespace Linkage

variable {linkage : Linkage}

/-- A declaration declares a member of instances with a name. -/
def DeclaresMember (linkage : Linkage) (number : Nat) (name : String) : Prop :=
  ∃ declaration, linkage.declarations[number]? = some declaration ∧
    name ∈ declaration.memberNames

section Shapes

variable {table : ShapeTable} {number : Nat} {shape : Shape}

/-- A member of a shape is one of the declaration's own or belongs to a parent. -/
theorem IsShape.own_or_parent (isShape : linkage.IsShape table number shape) {member : Member}
    (inside : member ∈ shape.members) :
    linkage.DeclaresMember number member.name ∨
      ∃ parent, linkage.Extends number parent ∧ member ∈ table.membersOf parent := by
  obtain ⟨declaration, types, declared, _, _, members⟩ := isShape
  rw [members] at inside
  obtain own | ⟨parent, isParent, given⟩ := mem_foldl_withInherited inside
  · exact .inl ⟨declaration, declared,
      ((linkage.hasNames_ownMembers types declaration).names _).1 (List.mem_map_of_mem own)⟩
  · exact .inr ⟨parent, ⟨declaration, declared, isParent⟩, given⟩

/-- The names of a shape are those that the declaration declares and those of its parents. -/
theorem IsShape.mem_names_iff (isShape : linkage.IsShape table number shape) {name : String} :
    name ∈ shape.members.map Member.name ↔ linkage.DeclaresMember number name ∨
      ∃ parent, linkage.Extends number parent ∧
        name ∈ (table.membersOf parent).map Member.name := by
  obtain ⟨declaration, types, declared, _, _, members⟩ := isShape
  rw [members, mem_names_foldl_withInherited, (linkage.hasNames_ownMembers types declaration).names]
  constructor
  · rintro (own | ⟨parent, isParent, given⟩)
    · exact .inl ⟨declaration, declared, own⟩
    · exact .inr ⟨parent, ⟨declaration, declared, isParent⟩, given⟩
  · rintro (⟨other, declared', own⟩ | ⟨parent, ⟨other, declared', isParent⟩, given⟩)
    · cases declared.symm.trans declared'
      exact .inl own
    · cases declared.symm.trans declared'
      exact .inr ⟨parent, isParent, given⟩

end Shapes

/-- In the absence of circles no chain of parents goes on forever: each parent leads to fewer
declarations. -/
theorem Acyclic.wellFounded (acyclic : linkage.Acyclic) :
    WellFounded fun parent number => linkage.Extends number parent := by
  classical
  let below (number : Nat) : Finset Nat := (Finset.range linkage.declarations.size).filter
    fun other => Relation.TransGen linkage.Extends number other
  refine Subrelation.wf (r := InvImage (· < ·) fun number => (below number).card) ?_
    (InvImage.wf _ Nat.lt_wfRel.wf)
  intro parent number step
  have isParent : parent < linkage.declarations.size := by
    obtain ⟨declaration, _, isParent⟩ := step
    exact parent_lt isParent
  refine Finset.card_lt_card (Finset.ssubset_iff_of_subset ?_ |>.2 ⟨parent, ?_, ?_⟩)
  · intro other inside
    rw [Finset.mem_filter] at inside ⊢
    exact ⟨inside.1, .head step inside.2⟩
  · exact Finset.mem_filter.2 ⟨Finset.mem_range.2 isParent, .single step⟩
  · exact fun inside => acyclic parent (Finset.mem_filter.1 inside).2

/-- **Every member of a shape belongs to an ancestor that declares its name,** or to the declaration
itself if it declares the name. -/
theorem exists_origin {table : ShapeTable} (acyclic : linkage.Acyclic)
    (known : linkage.KnowsShapes table) {number : Nat} {member : Member}
    (inside : member ∈ table.membersOf number) :
    ∃ origin, Relation.ReflTransGen linkage.Extends number origin ∧
      linkage.DeclaresMember origin member.name ∧ member ∈ table.membersOf origin := by
  induction number using acyclic.wellFounded.induction with
  | _ number ih =>
    cases found : table.shape? number with
    | none =>
        rw [ShapeTable.membersOf, found] at inside
        cases inside
    | some shape =>
        have isMember := inside
        rw [ShapeTable.membersOf_eq found] at isMember
        obtain own | ⟨parent, step, given⟩ := (known number shape found).own_or_parent isMember
        · exact ⟨number, .refl, own, inside⟩
        · obtain ⟨origin, leads, declares, given⟩ := ih parent step given
          exact ⟨origin, .head step leads, declares, given⟩

/-- **All names of an ancestor are inherited.** -/
theorem mem_names_of_ancestor {table : ShapeTable} (known : linkage.KnowsShapes table)
    (shaped : ∀ number parent, linkage.Extends number parent →
      (table.shape? number).isSome = true) {number ancestor : Nat}
    (leads : Relation.ReflTransGen linkage.Extends number ancestor) {name : String}
    (inside : name ∈ (table.membersOf ancestor).map Member.name) :
    name ∈ (table.membersOf number).map Member.name := by
  induction leads using Relation.ReflTransGen.head_induction_on with
  | refl => exact inside
  | head step _ ih =>
      obtain ⟨shape, found⟩ := Option.isSome_iff_exists.1 (shaped _ _ step)
      rw [ShapeTable.membersOf_eq found, (known _ shape found).mem_names_iff]
      exact .inr ⟨_, step, ih⟩

end Linkage

/-! ## Programs -/

namespace Program

variable {program : Program}

/-- **No name is repeated in a shape of a program,** and the shapes are marked as nominal that have
a member that is not public. -/
theorem FromFiles.wellMade (made : program.FromFiles) : program.table.WellMade := by
  induction made with
  | ofFiles sources =>
      rw [table_ofFiles]
      exact Linkage.wellMade_foldl _ _ (Linkage.wellMade_empty _ _)
  | lowerType file type _ ih => exact ih

/-- **In a program without circles of extends clauses every class and interface has a shape,** and
all shapes are made as the declarations tell. -/
theorem FromFiles.knowsShapes (made : program.FromFiles) (acyclic : program.linkage.Acyclic) :
    program.linkage.KnowsShapes program.table ∧
      ∀ number name, program.linkage.DeclaresObject number name →
        (program.table.shape? number).isSome = true := by
  induction made with
  | ofFiles sources =>
      rw [table_ofFiles]
      exact Linkage.knowsShapes_shapes _ acyclic _
  | @lowerType program file type _ ih =>
      obtain ⟨known, shaped⟩ := ih acyclic
      have keeps := program.linkage.keeps_record [] program.table.bases
        (program.linkage.grows_lower [] program.table.types file type)
      exact ⟨fun number shape found => (known number shape found).keep keeps, shaped⟩

/-- A class or an interface without parents has its own members only. -/
theorem FromFiles.membersOf_eq_own (made : program.FromFiles) (acyclic : program.linkage.Acyclic)
    {number : Nat} {declaration : Declaration}
    (declared : program.declaration? number = some declaration)
    (isObject : declaration.kind = .class_ ∨ declaration.kind = .interface_)
    (noParents : program.linkage.parentsOf declaration = []) :
    ∃ types, program.table.membersOf number =
      (program.linkage.ownMembers types declaration).1 := by
  obtain ⟨known, shaped⟩ := made.knowsShapes acyclic
  obtain ⟨shape, found⟩ := Option.isSome_iff_exists.1
    (shaped number declaration.name ⟨declaration, declared, isObject, rfl⟩)
  obtain ⟨other, types, declared', _, _, members⟩ := known _ _ found
  cases declared.symm.trans declared'
  rw [noParents, List.foldl_nil] at members
  exact ⟨types, (ShapeTable.membersOf_eq found).trans members⟩

end Program

end InjectionCheck
