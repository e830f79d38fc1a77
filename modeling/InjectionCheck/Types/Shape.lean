import InjectionCheck.Types.Lowering

/-!
# Shapes of classes and interfaces

The shape of a class or interface is the list of the members of its instances: its
own members first, and then those members of each of its parents, in order, whose
names are not taken. A parent that is an ancestor of itself gives no members while
its own shape is being computed.
-/

set_option autoImplicit false

namespace InjectionCheck

/-- The members of the instances of a class or interface, own and inherited. -/
structure Shape where
  members : List Member
  /-- Whether the shape fits only the class itself and the classes that derive from it: so
  it is marked if a member is not public. -/
  isNominal : Bool
deriving DecidableEq, Repr, Inhabited

namespace Shape

/-- The member with a name. -/
def member? (shape : Shape) (name : String) : Option Member :=
  shape.members.find? (·.name = name)

end Shape

/-- Adds a member unless its name is taken. -/
def addMember (members : List Member) (member : Member) : List Member :=
  if members.any (·.name = member.name) then members else members ++ [member]

/-- Some members, and those of others whose names are not taken. -/
def withInherited (members inherited : List Member) : List Member :=
  members ++ inherited.filter fun member => !members.any (·.name = member.name)

/-- The shapes of a program as far as they have been computed. -/
structure ShapeTable where
  types : TypeTable
  /-- The shape of each declaration that has one. -/
  shapes : Array (Option Shape)
  /-- The class that each class derives from. -/
  bases : Array (Option Nat)

namespace ShapeTable

/-- The table in which no shape has been computed. -/
def empty (linkage : Linkage) (types : TypeTable) : ShapeTable where
  types := types
  shapes := Array.replicate linkage.declarations.size none
  bases := Array.replicate linkage.declarations.size none

/-- The shape of a declaration. -/
def shape? (table : ShapeTable) (number : Nat) : Option Shape := table.shapes[number]?.join

end ShapeTable

namespace Linkage

variable (linkage : Linkage)

/-- The members that the parameters of a constructor declare, after those before them. -/
def addParameterProperties (file : Nat) (state : List Member × TypeTable) :
    (parameters : List Parameter) → List Member × TypeTable
  | [] => state
  | parameter :: others =>
    if parameter.isProperty then
      let (type, table) := linkage.lowerIfAny [] state.2 file parameter.type
      let member : Member :=
        ⟨parameter.name, parameter.optional, parameter.access.getD .public_, type, false⟩
      addParameterProperties file (addMember state.1 member, table) others
    else addParameterProperties file state others

/-- The members of instances that a member of a class declares, after those before
them: static members are no members of instances. -/
def addClassMember (file : Nat) (state : List Member × TypeTable) (member : ClassMember) :
    List Member × TypeTable :=
  match member with
  | .property property =>
    if property.isStatic then state
    else
      let (type, table) := linkage.lowerIfAny [] state.2 file property.type
      (addMember state.1 ⟨property.name, property.optional, property.access, type, false⟩, table)
  | .method method =>
    if method.isStatic then state
    else
      let (type, table) := linkage.lowerMethod [] state.2 file method.parameters method.result
      (addMember state.1 ⟨method.name, method.optional, method.access, type, true⟩, table)
  | .constructor member => linkage.addParameterProperties file state member.parameters

/-- The declarations of some kinds that the names of a heritage clause refer to. -/
def parents (file : Nat) (accepts : DeclarationKind → Bool) (names : List NameUse) : List Nat :=
  names.filterMap fun use =>
    (linkage.find? file use.name).bind fun (number, declaration) =>
      if accepts declaration.kind then some number else none

/-- The class that a class derives from. -/
def base? (declaration : Declaration) : Option Nat :=
  declaration.class?.bind fun form =>
    (linkage.parents declaration.file (· = .class_) form.base.toList).head?

/-- The parents of a class or interface. -/
def parentsOf (declaration : Declaration) : List Nat :=
  match declaration.form with
  | .classType form => linkage.parents declaration.file (· = .class_) form.base.toList
  | .interfaceType form =>
    linkage.parents declaration.file (fun kind => kind = .class_ || kind = .interface_) form.bases
  | .typeAlias _ | .binding _ => []

/-- The members that a class or interface declares itself. -/
def ownMembers (table : TypeTable) (declaration : Declaration) : List Member × TypeTable :=
  match declaration.form with
  | .classType form =>
    form.members.foldl (linkage.addClassMember declaration.file) ([], table)
  | .interfaceType form => linkage.lowerMembers [] table declaration.file [] form.members
  | .typeAlias _ | .binding _ => ([], table)

mutual

/-- Computes the shape of a declaration unless it is known or being computed. -/
def computeShape (path : List Nat) (table : ShapeTable) (number : Nat) : ShapeTable :=
  if (table.shape? number).isSome then table
  else if inside : number < linkage.declarations.size then
    if fresh : number ∉ path then
      have := unvisited_cons_lt (List.mem_range.2 inside) fresh
      let declaration := linkage.declarations[number]
      let (own, types) := linkage.ownMembers table.types declaration
      let bases := table.bases.setIfInBounds number (linkage.base? declaration)
      let (members, table) :=
        inherit (number :: path) { table with types, bases } own (linkage.parentsOf declaration)
      let shape : Shape := ⟨members, members.any (·.access ≠ .public_)⟩
      { table with shapes := table.shapes.setIfInBounds number (some shape) }
    else table
  else table
termination_by (unvisited linkage.numbers path, 0)

/-- Adds the members of some parents, in order. -/
def inherit (path : List Nat) (table : ShapeTable) (members : List Member)
    (parents : List Nat) : List Member × ShapeTable :=
  match parents with
  | [] => (members, table)
  | parent :: others =>
    let table := computeShape path table parent
    let inherited := ((table.shape? parent).map Shape.members).getD []
    inherit path table (withInherited members inherited) others
termination_by (unvisited linkage.numbers path, parents.length + 1)

end

end Linkage

end InjectionCheck
