import InjectionCheck.Text.Span

/-!
# What a source file declares

The declarations of one file, as far as the checker looks at them: imports and
exports, top-level bindings, classes with their members and constructor
parameters, interfaces and type aliases. Expressions are kept where they can be
data: objects, arrays, calls, member access. The bodies of functions are not kept.

Expressions and types refer to each other, since a call has type arguments and a
parameter of a function type may have decorators with arguments.
-/

set_option autoImplicit false

namespace InjectionCheck

/-- Who may use a member of a class. -/
inductive Access where
  | public_
  | protected_
  | private_
deriving DecidableEq, Repr, Inhabited

/-- How a property of an object literal is called. -/
inductive PropertyKey where
  /-- A name, written out, quoted, or taken from the value. -/
  | named (name : String)
  /-- A computed name, or a number. -/
  | computed
  /-- No name: all properties of the value are meant. -/
  | spread
deriving DecidableEq, Repr, Inhabited

mutual

/-- The form of an expression. -/
inductive ExpressionForm where
  | name (text : String)
  | string (content : String)
  | template
  | number
  | boolean (value : Bool)
  | null
  | this
  | object (properties : List Property)
  | array (elements : List Expression)
  /-- All elements of a value, inside an array or among arguments. -/
  | spread (operand : Expression)
  | call (callee : Expression) (typeArguments : List TypeExpression)
      (arguments : List Expression)
  | construct (callee : Expression) (arguments : List Expression)
  | member (object : Expression) (property : String)
  | index (object : Expression) (index : Expression)
  /-- A function or class, whose body is not looked at. -/
  | function
  | unary (operand : Expression)
  /-- Two operands; the operator is not kept. -/
  | binary (left : Expression) (right : Expression)
  | conditional (test : Expression) (consequent : Expression) (alternative : Expression)

/-- An expression and where it stands. -/
structure Expression where
  form : ExpressionForm
  span : Span

/-- A property of an object literal. -/
structure Property where
  key : PropertyKey
  value : Expression
  span : Span

/-- The form of a type. -/
inductive TypeForm where
  /-- A name with type arguments; the primitive types are names too. -/
  | named (name : String) (arguments : List TypeExpression)
  | array (element : TypeExpression)
  | union (members : List TypeExpression)
  | intersection (members : List TypeExpression)
  | object (members : List TypeMember)
  | function (parameters : List Parameter) (result : TypeExpression)
  | tuple (elements : List TypeExpression)
  | stringLiteral (content : String)
  /-- A literal type that is no string. -/
  | otherLiteral
  /-- The type of a value. -/
  | typeOf (name : String)
  /-- A form that the checker does not compare. -/
  | unmodelled

/-- A type and where it stands. -/
structure TypeExpression where
  form : TypeForm
  span : Span

/-- A member of an interface or of an object type. -/
structure TypeMember where
  name : String
  optional : Bool
  readonly : Bool
  kind : TypeMemberKind
  span : Span

/-- Whether a member is a property or a method. -/
inductive TypeMemberKind where
  | property (type : Option TypeExpression)
  | method (parameters : List Parameter) (result : Option TypeExpression)

/-- A parameter of a function, method or constructor. -/
structure Parameter where
  decorators : List Decorator
  access : Option Access
  readonly : Bool
  name : String
  /-- Marked as optional, or a rest parameter. -/
  optional : Bool
  type : Option TypeExpression
  hasDefault : Bool
  span : Span

/-- A decorator with its arguments. -/
structure Decorator where
  name : String
  arguments : List Expression
  span : Span

end

/-- A constructor parameter with a modifier declares a member of the class too. -/
def Parameter.isProperty (parameter : Parameter) : Bool :=
  parameter.access.isSome || parameter.readonly

/-- Whether callers may leave the argument out. -/
def Parameter.isOptional (parameter : Parameter) : Bool :=
  parameter.optional || parameter.hasDefault

/-- The name of a property that is called by a name. -/
def Property.name? (property : Property) : Option String :=
  match property.key with
  | .named name => some name
  | .computed | .spread => none

/-- The text of an expression that is a bare name. -/
def Expression.name? (expression : Expression) : Option String :=
  match expression.form with
  | .name text => some text
  | _ => none

/-- A name in a heritage clause. -/
structure NameUse where
  name : String
  span : Span
deriving DecidableEq, Repr

/-- A name that an import binds. -/
structure ImportSpecifier where
  /-- The name that the imported file exports. -/
  importedName : String
  /-- The name in the importing file. -/
  localName : String
  span : Span
deriving DecidableEq, Repr

/-- An import of names from another file or package. -/
structure ImportDeclaration where
  specifiers : List ImportSpecifier
  source : String
  sourceSpan : Span
deriving DecidableEq, Repr

/-- A name that an export offers. -/
structure ExportSpecifier where
  /-- The name in the exporting file, or in the source of a re-export. -/
  localName : String
  /-- The name that other files import. -/
  exportedName : String
  span : Span
deriving DecidableEq, Repr

/-- An export of names, or of all names of another file. -/
structure ExportDeclaration where
  specifiers : List ExportSpecifier
  source : Option String
  sourceSpan : Span
  /-- All names of the source are exported. -/
  all : Bool
deriving DecidableEq, Repr

/-- A top-level binding of a name to a value. -/
structure BindingDeclaration where
  name : String
  nameSpan : Span
  type : Option TypeExpression
  initial : Option Expression

/-- A constructor of a class. -/
structure Constructor where
  parameters : List Parameter
  span : Span

/-- A property of a class; a getter counts as one. -/
structure PropertyMember where
  access : Access
  isStatic : Bool
  readonly : Bool
  name : String
  optional : Bool
  type : Option TypeExpression
  span : Span

/-- A method of a class. -/
structure MethodMember where
  access : Access
  isStatic : Bool
  name : String
  optional : Bool
  parameters : List Parameter
  result : Option TypeExpression
  span : Span

/-- A member of a class. -/
inductive ClassMember where
  | constructor (member : Constructor)
  | property (member : PropertyMember)
  | method (member : MethodMember)

/-- A class. -/
structure ClassDeclaration where
  name : String
  nameSpan : Span
  decorators : List Decorator
  isAbstract : Bool
  base : Option NameUse
  implemented : List NameUse
  members : List ClassMember

/-- The first constructor of a class that declares one. -/
def ClassDeclaration.constructor? (declaration : ClassDeclaration) : Option Constructor :=
  declaration.members.findSome? fun
    | .constructor member => some member
    | _ => none

/-- An interface. -/
structure InterfaceDeclaration where
  name : String
  nameSpan : Span
  bases : List NameUse
  members : List TypeMember

/-- A name for a type. -/
structure AliasDeclaration where
  name : String
  nameSpan : Span
  type : TypeExpression

/-- What a top-level item declares. -/
inductive ItemForm where
  | importing (declaration : ImportDeclaration)
  | exporting (declaration : ExportDeclaration)
  | binding (declaration : BindingDeclaration)
  | classType (declaration : ClassDeclaration)
  | interfaceType (declaration : InterfaceDeclaration)
  | typeAlias (declaration : AliasDeclaration)

/-- A top-level item. -/
structure Item where
  form : ItemForm
  exported : Bool
  span : Span

end InjectionCheck
