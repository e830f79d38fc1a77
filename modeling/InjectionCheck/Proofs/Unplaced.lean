import InjectionCheck.Tree.Basic

/-!
# Trees without places

What a file declares, spans aside: two trees are the same up to their spans if they are the same
once every span is replaced by one (`unplaced`).
-/

set_option autoImplicit false

namespace InjectionCheck

mutual

/-- The form of an expression, spans aside. -/
def ExpressionForm.unplaced : ExpressionForm → ExpressionForm
  | .name text => .name text
  | .string content => .string content
  | .template => .template
  | .number => .number
  | .boolean value => .boolean value
  | .null => .null
  | .this => .this
  | .object properties => .object (Property.unplacedAll properties)
  | .array elements => .array (Expression.unplacedAll elements)
  | .spread operand => .spread operand.unplaced
  | .call callee typeArguments arguments =>
    .call callee.unplaced (TypeExpression.unplacedAll typeArguments)
      (Expression.unplacedAll arguments)
  | .construct callee arguments =>
    .construct callee.unplaced (Expression.unplacedAll arguments)
  | .member object property => .member object.unplaced property
  | .index object index => .index object.unplaced index.unplaced
  | .function => .function
  | .unary operand => .unary operand.unplaced
  | .binary left right => .binary left.unplaced right.unplaced
  | .conditional test consequent alternative =>
    .conditional test.unplaced consequent.unplaced alternative.unplaced

/-- An expression, spans aside. -/
def Expression.unplaced : Expression → Expression
  | ⟨form, _⟩ => ⟨form.unplaced, .origin⟩

/-- Some expressions, spans aside. -/
def Expression.unplacedAll : List Expression → List Expression
  | [] => []
  | expression :: others => expression.unplaced :: Expression.unplacedAll others

/-- A property, spans aside. -/
def Property.unplaced : Property → Property
  | ⟨key, value, _⟩ => ⟨key, value.unplaced, .origin⟩

/-- Some properties, spans aside. -/
def Property.unplacedAll : List Property → List Property
  | [] => []
  | property :: others => property.unplaced :: Property.unplacedAll others

/-- The form of a type, spans aside. -/
def TypeForm.unplaced : TypeForm → TypeForm
  | .named name arguments => .named name (TypeExpression.unplacedAll arguments)
  | .array element => .array element.unplaced
  | .union members => .union (TypeExpression.unplacedAll members)
  | .intersection members => .intersection (TypeExpression.unplacedAll members)
  | .object members => .object (TypeMember.unplacedAll members)
  | .function parameters result =>
    .function (Parameter.unplacedAll parameters) result.unplaced
  | .tuple elements => .tuple (TypeExpression.unplacedAll elements)
  | .stringLiteral content => .stringLiteral content
  | .otherLiteral => .otherLiteral
  | .typeOf name => .typeOf name
  | .unmodelled => .unmodelled

/-- A type, spans aside. -/
def TypeExpression.unplaced : TypeExpression → TypeExpression
  | ⟨form, _⟩ => ⟨form.unplaced, .origin⟩

/-- Some types, spans aside. -/
def TypeExpression.unplacedAll : List TypeExpression → List TypeExpression
  | [] => []
  | type :: others => type.unplaced :: TypeExpression.unplacedAll others

/-- A type that may be left out, spans aside. -/
def TypeExpression.unplacedIfAny : Option TypeExpression → Option TypeExpression
  | none => none
  | some type => some type.unplaced

/-- A member of a type, spans aside. -/
def TypeMember.unplaced : TypeMember → TypeMember
  | ⟨name, optional, readonly, kind, _⟩ => ⟨name, optional, readonly, kind.unplaced, .origin⟩

/-- Some members of a type, spans aside. -/
def TypeMember.unplacedAll : List TypeMember → List TypeMember
  | [] => []
  | member :: others => member.unplaced :: TypeMember.unplacedAll others

/-- A property or method of a type, spans aside. -/
def TypeMemberKind.unplaced : TypeMemberKind → TypeMemberKind
  | .property type => .property (TypeExpression.unplacedIfAny type)
  | .method parameters result =>
    .method (Parameter.unplacedAll parameters) (TypeExpression.unplacedIfAny result)

/-- A parameter, spans aside. -/
def Parameter.unplaced : Parameter → Parameter
  | ⟨decorators, access, readonly, name, optional, type, hasDefault, _⟩ =>
    ⟨Decorator.unplacedAll decorators, access, readonly, name, optional,
      TypeExpression.unplacedIfAny type, hasDefault, .origin⟩

/-- Some parameters, spans aside. -/
def Parameter.unplacedAll : List Parameter → List Parameter
  | [] => []
  | parameter :: others => parameter.unplaced :: Parameter.unplacedAll others

/-- A decorator, spans aside. -/
def Decorator.unplaced : Decorator → Decorator
  | ⟨name, arguments, _⟩ => ⟨name, Expression.unplacedAll arguments, .origin⟩

/-- Some decorators, spans aside. -/
def Decorator.unplacedAll : List Decorator → List Decorator
  | [] => []
  | decorator :: others => decorator.unplaced :: Decorator.unplacedAll others

end

/-! ## Declarations -/

/-- A name, spans aside. -/
def NameUse.unplaced (use : NameUse) : NameUse := { use with span := .origin }

/-- A name that an import binds, spans aside. -/
def ImportSpecifier.unplaced (specifier : ImportSpecifier) : ImportSpecifier :=
  { specifier with span := .origin }

/-- An import, spans aside. -/
def ImportDeclaration.unplaced (declaration : ImportDeclaration) : ImportDeclaration :=
  ⟨declaration.specifiers.map .unplaced, declaration.source, .origin⟩

/-- A name that an export offers, spans aside. -/
def ExportSpecifier.unplaced (specifier : ExportSpecifier) : ExportSpecifier :=
  { specifier with span := .origin }

/-- An export, spans aside. -/
def ExportDeclaration.unplaced (declaration : ExportDeclaration) : ExportDeclaration :=
  ⟨declaration.specifiers.map .unplaced, declaration.source, .origin, declaration.all⟩

/-- A binding, spans aside. -/
def BindingDeclaration.unplaced (declaration : BindingDeclaration) : BindingDeclaration :=
  ⟨declaration.name, .origin, declaration.type.map .unplaced, declaration.initial.map .unplaced⟩

/-- A constructor, spans aside. -/
def Constructor.unplaced (member : Constructor) : Constructor :=
  ⟨member.parameters.map .unplaced, .origin⟩

/-- A property of a class, spans aside. -/
def PropertyMember.unplaced (member : PropertyMember) : PropertyMember :=
  { member with type := member.type.map .unplaced, span := .origin }

/-- A method of a class, spans aside. -/
def MethodMember.unplaced (member : MethodMember) : MethodMember :=
  { member with
    parameters := member.parameters.map .unplaced
    result := member.result.map .unplaced
    span := .origin }

/-- A member of a class, spans aside. -/
def ClassMember.unplaced : ClassMember → ClassMember
  | .constructor member => .constructor member.unplaced
  | .property member => .property member.unplaced
  | .method member => .method member.unplaced

/-- A class, spans aside. -/
def ClassDeclaration.unplaced (declaration : ClassDeclaration) : ClassDeclaration :=
  { declaration with
    nameSpan := .origin
    decorators := declaration.decorators.map .unplaced
    base := declaration.base.map .unplaced
    implemented := declaration.implemented.map .unplaced
    members := declaration.members.map .unplaced }

/-- An interface, spans aside. -/
def InterfaceDeclaration.unplaced (declaration : InterfaceDeclaration) : InterfaceDeclaration :=
  ⟨declaration.name, .origin, declaration.bases.map .unplaced, declaration.members.map .unplaced⟩

/-- A type alias, spans aside. -/
def AliasDeclaration.unplaced (declaration : AliasDeclaration) : AliasDeclaration :=
  ⟨declaration.name, .origin, declaration.type.unplaced⟩

/-- What an item declares, spans aside. -/
def ItemForm.unplaced : ItemForm → ItemForm
  | .importing declaration => .importing declaration.unplaced
  | .exporting declaration => .exporting declaration.unplaced
  | .binding declaration => .binding declaration.unplaced
  | .classType declaration => .classType declaration.unplaced
  | .interfaceType declaration => .interfaceType declaration.unplaced
  | .typeAlias declaration => .typeAlias declaration.unplaced

/-- An item, spans aside. -/
def Item.unplaced (item : Item) : Item := ⟨item.form.unplaced, item.exported, .origin⟩

end InjectionCheck
