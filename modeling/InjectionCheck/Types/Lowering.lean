import InjectionCheck.Program.Declaration
import InjectionCheck.Types.Pool
import InjectionCheck.Walk.Unvisited

/-!
# Types of annotations and declarations

Lowering turns a type as it is written into a type of the pool. A name of a class or
interface stands for its instances, a name of an alias for the type that the alias
names, and a name without declaration for itself.

A declaration is lowered once and its type is remembered. While an alias or a
binding is being lowered, a use of it cannot be determined and is `error`: `path`
lists the declarations that are being lowered. Every step into a declaration makes
the path longer, and every other step goes into a part of the type.
-/

set_option autoImplicit false

namespace InjectionCheck

/-- The types of a program as far as they have been lowered. -/
structure TypeTable where
  pool : Pool
  /-- The type of each declaration that has been lowered. -/
  known : Array (Option TypeIndex)

namespace TypeTable

/-- The table in which nothing has been lowered. -/
def empty (linkage : Linkage) : TypeTable :=
  ⟨.empty, Array.replicate linkage.declarations.size none⟩

/-- The type of a declaration that has been lowered. -/
def known? (table : TypeTable) (number : Nat) : Option TypeIndex := table.known[number]?.join

/-- Remembers the type of a declaration. -/
def learn (table : TypeTable) (number : Nat) (type : TypeIndex) : TypeTable :=
  { table with known := table.known.setIfInBounds number (some type) }

/-- A type that the pool makes, with the table of the pool that holds it. -/
def make (table : TypeTable) (constructor : Pool → TypeIndex × Pool) : TypeIndex × TypeTable :=
  let (type, pool) := constructor table.pool
  (type, { table with pool })

end TypeTable

/-- The type of a parameter is a part of the parameter. -/
theorem Parameter.sizeOf_type_lt (parameter : Parameter) :
    sizeOf parameter.type < sizeOf parameter := by
  cases parameter
  simp only [Parameter.mk.sizeOf_spec]
  omega

namespace Linkage

variable (linkage : Linkage)

/-- The type of a binding without annotation, as far as its value tells. A class of
which an instance is constructed is given by its number. -/
def inferred (file : Nat) (initial : Expression) : Primitive ⊕ Nat :=
  match initial.form with
  | .string _ | .template => .inl .string
  | .number => .inl .number
  | .boolean _ => .inl .boolean
  | .null => .inl .null
  | .construct callee _ =>
    match callee.name?.bind (linkage.find? file) with
    | some (number, declaration) =>
      if declaration.kind = .class_ then .inr number else .inl .error
    | none => .inl .error
  | .call callee _ _ =>
    match callee.name? with
    | some name =>
      if name = "Symbol" ∧ (linkage.resolve? file name).isNone then .inl .symbol else .inl .error
    | none => .inl .error
  | _ => .inl .error

/-- Whether a name with one argument means the arrays of the argument. -/
def isArrayName (name : String) : Bool := name = "Array" || name = "ReadonlyArray"

mutual

/-- The type of a declaration. -/
def lowerDeclaration (path : List Nat) (table : TypeTable) (number : Nat) :
    TypeIndex × TypeTable :=
  match table.known? number with
  | some type => (type, table)
  | none =>
    if inside : number < linkage.declarations.size then
      let declaration := linkage.declarations[number]
      match declaration.form with
      | .classType _ | .interfaceType _ =>
        let (type, table) := table.make (·.named number declaration.name)
        (type, table.learn number type)
      | .typeAlias form =>
        if fresh : number ∉ path then
          have := unvisited_cons_lt (List.mem_range.2 inside) fresh
          let (type, table) := lower (number :: path) table declaration.file form.type
          (type, table.learn number type)
        else (.error, table)
      | .binding form =>
        if fresh : number ∉ path then
          have := unvisited_cons_lt (List.mem_range.2 inside) fresh
          let (type, table) :=
            match form.type, form.initial with
            | some type, _ => lower (number :: path) table declaration.file type
            | none, some initial =>
              match linkage.inferred declaration.file initial with
              | .inl primitive => (.ofPrimitive primitive, table)
              | .inr constructed => lowerDeclaration (number :: path) table constructed
            | none, none => (.any, table)
          (type, table.learn number type)
        else (.error, table)
    else (.error, table)
termination_by (unvisited linkage.numbers path, 0)

/-- The type that an annotation in a file means. -/
def lower (path : List Nat) (table : TypeTable) (file : Nat) (type : TypeExpression) :
    TypeIndex × TypeTable :=
  match type with
  | ⟨.named name arguments, _⟩ =>
    match arguments.isEmpty, Primitive.ofKeyword? name with
    | true, some primitive => (.ofPrimitive primitive, table)
    | _, _ =>
      match linkage.find? file name with
      | some (number, declaration) =>
        if declaration.kind = .binding then (.error, table)
        else lowerDeclaration path table number
      | none =>
        match arguments with
        | [element] =>
          if isArrayName name then
            let (element, table) := lower path table file element
            table.make (·.array element)
          else table.make (·.unresolved name)
        | _ => table.make (·.unresolved name)
  | ⟨.array element, _⟩ =>
    let (element, table) := lower path table file element
    table.make (·.array element)
  | ⟨.union members, _⟩ =>
    let (members, table) := lowerAll path table file members
    table.make (·.union members)
  | ⟨.intersection members, _⟩ =>
    let (members, table) := lowerAll path table file members
    table.make (·.intersection members)
  | ⟨.object members, _⟩ =>
    let (members, table) := lowerMembers path table file [] members
    table.make (·.object members)
  | ⟨.function parameters result, _⟩ =>
    let (parameters, table) := lowerParameters path table file parameters
    let (result, table) := lower path table file result
    table.make (·.function parameters result)
  | ⟨.tuple elements, _⟩ =>
    let (elements, table) := lowerAll path table file elements
    table.make (·.tuple elements)
  | ⟨.stringLiteral content, _⟩ => table.make (·.stringLiteral content)
  | ⟨.typeOf name, _⟩ =>
    match linkage.find? file name with
    | some (number, declaration) =>
      if declaration.kind = .binding then lowerDeclaration path table number
      else (.error, table)
    | none => (.error, table)
  | ⟨.otherLiteral, _⟩ | ⟨.unmodelled, _⟩ => (.error, table)
termination_by (unvisited linkage.numbers path, sizeOf type)

/-- The types of some annotations, in order. -/
def lowerAll (path : List Nat) (table : TypeTable) (file : Nat) (types : List TypeExpression) :
    List TypeIndex × TypeTable :=
  match types with
  | [] => ([], table)
  | type :: others =>
    let (type, table) := lower path table file type
    let (others, table) := lowerAll path table file others
    (type :: others, table)
termination_by (unvisited linkage.numbers path, sizeOf types)

/-- The type of an annotation that may be left out. -/
def lowerIfAny (path : List Nat) (table : TypeTable) (file : Nat)
    (type : Option TypeExpression) : TypeIndex × TypeTable :=
  match type with
  | none => (.any, table)
  | some type => lower path table file type
termination_by (unvisited linkage.numbers path, sizeOf type)

/-- The parameters of a function type, in order. -/
def lowerParameters (path : List Nat) (table : TypeTable) (file : Nat)
    (parameters : List Parameter) : List TypeParameter × TypeTable :=
  match parameters with
  | [] => ([], table)
  | parameter :: others =>
    have := parameter.sizeOf_type_lt
    let (type, table) := lowerIfAny path table file parameter.type
    let (others, table) := lowerParameters path table file others
    (⟨parameter.name, type, parameter.isOptional⟩ :: others, table)
termination_by (unvisited linkage.numbers path, sizeOf parameters)

/-- Some members of an object or interface after those before them. A member whose
name is taken is left out. -/
def lowerMembers (path : List Nat) (table : TypeTable) (file : Nat) (before : List Member)
    (members : List TypeMember) : List Member × TypeTable :=
  match members with
  | [] => (before, table)
  | member :: others =>
    if before.any (·.name = member.name) then lowerMembers path table file before others
    else
      let (type, isMethod, table) :=
        match member with
        | ⟨_, _, _, .property type, _⟩ =>
          let (type, table) := lowerIfAny path table file type
          (type, false, table)
        | ⟨_, _, _, .method parameters result, _⟩ =>
          let (type, table) := lowerMethod path table file parameters result
          (type, true, table)
      lowerMembers path table file
        (before ++ [⟨member.name, member.optional, .public_, type, isMethod⟩]) others
termination_by (unvisited linkage.numbers path, sizeOf members)

/-- The function type of a method. -/
def lowerMethod (path : List Nat) (table : TypeTable) (file : Nat) (parameters : List Parameter)
    (result : Option TypeExpression) : TypeIndex × TypeTable :=
  let (parameters, table) := lowerParameters path table file parameters
  let (result, table) := lowerIfAny path table file result
  table.make (·.function parameters result)
termination_by (unvisited linkage.numbers path, sizeOf parameters + sizeOf result + 1)

end

end Linkage

end InjectionCheck
