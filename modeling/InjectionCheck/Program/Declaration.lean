import InjectionCheck.Tree.Basic

/-!
# Declarations and what names refer to

The declarations of a program are numbered: those of the first file in source
order, then those of the second file, and so on. A linkage says which declaration
a name refers to inside a file.
-/

set_option autoImplicit false

namespace InjectionCheck

/-- The kinds of declarations. -/
inductive DeclarationKind where
  | class_
  | interface_
  | typeAlias
  | binding
deriving DecidableEq, Repr

/-- What a declaration declares. -/
inductive DeclarationForm where
  | classType (declaration : ClassDeclaration)
  | interfaceType (declaration : InterfaceDeclaration)
  | typeAlias (declaration : AliasDeclaration)
  | binding (declaration : BindingDeclaration)

namespace DeclarationForm

/-- The kind of a declaration. -/
def kind : DeclarationForm → DeclarationKind
  | .classType _ => .class_
  | .interfaceType _ => .interface_
  | .typeAlias _ => .typeAlias
  | .binding _ => .binding

/-- The declared name. -/
def name : DeclarationForm → String
  | .classType declaration => declaration.name
  | .interfaceType declaration => declaration.name
  | .typeAlias declaration => declaration.name
  | .binding declaration => declaration.name

/-- Where the declared name stands. -/
def nameSpan : DeclarationForm → Span
  | .classType declaration => declaration.nameSpan
  | .interfaceType declaration => declaration.nameSpan
  | .typeAlias declaration => declaration.nameSpan
  | .binding declaration => declaration.nameSpan

end DeclarationForm

/-- The declaration in an item; imports and exports declare nothing. -/
def ItemForm.declaration? : ItemForm → Option DeclarationForm
  | .classType declaration => some (.classType declaration)
  | .interfaceType declaration => some (.interfaceType declaration)
  | .typeAlias declaration => some (.typeAlias declaration)
  | .binding declaration => some (.binding declaration)
  | .importing _ | .exporting _ => none

/-- A top-level declaration of a program. -/
structure Declaration where
  /-- The number of its file. -/
  file : Nat
  /-- Its place among the items of the file. -/
  item : Nat
  exported : Bool
  form : DeclarationForm

namespace Declaration

/-- The kind of a declaration. -/
def kind (declaration : Declaration) : DeclarationKind := declaration.form.kind

/-- The declared name. -/
def name (declaration : Declaration) : String := declaration.form.name

/-- Where the declared name stands. -/
def nameSpan (declaration : Declaration) : Span := declaration.form.nameSpan

/-- The class that is declared. -/
def class? (declaration : Declaration) : Option ClassDeclaration :=
  match declaration.form with
  | .classType form => some form
  | _ => none

/-- The binding that is declared. -/
def binding? (declaration : Declaration) : Option BindingDeclaration :=
  match declaration.form with
  | .binding form => some form
  | _ => none

/-- The declarations among the items of a file. -/
def ofItems (file : Nat) (items : List Item) : List Declaration :=
  items.zipIdx.filterMap fun (item, place) =>
    item.form.declaration?.map fun form => ⟨file, place, item.exported, form⟩

end Declaration

/-- The names of a file with the numbers of the declarations that they refer to; the
first entry for a name counts. -/
abbrev Scope := List (String × Nat)

/-- The declarations of a program, and what names refer to. -/
structure Linkage where
  declarations : Array Declaration
  /-- One scope for each file. -/
  scopes : Array Scope

namespace Linkage

/-- The number of the declaration that a name refers to in a file. -/
def resolve? (linkage : Linkage) (file : Nat) (name : String) : Option Nat :=
  linkage.scopes[file]?.bind (List.lookup name)

/-- The declaration that a name refers to in a file, with its number. -/
def find? (linkage : Linkage) (file : Nat) (name : String) : Option (Nat × Declaration) :=
  (linkage.resolve? file name).bind fun number =>
    linkage.declarations[number]?.map (number, ·)

/-- The numbers of all declarations. -/
def numbers (linkage : Linkage) : List Nat := List.range linkage.declarations.size

end Linkage

end InjectionCheck
