import InjectionCheck.Program.Basic

/-!
# Tokens of injection

What is registered and asked for is named by a token: a class, or a constant that
holds a symbol. A token is the declaration that it refers to. Two constants that are
written alike are two tokens, and an imported token is the token that is exported.
-/

set_option autoImplicit false

namespace InjectionCheck

/-- What a token is at run time. -/
inductive InjectionTokenKind where
  /-- A constant that holds a symbol. -/
  | symbol
  /-- A class, possibly the one that is constructed. -/
  | class_
  /-- An interface or a type alias. Nothing can be registered for it. -/
  | type
deriving DecidableEq, Repr

/-- A token of injection. -/
structure InjectionToken where
  /-- The number of the declaration that the token is. -/
  declaration : Nat
  kind : InjectionTokenKind
  /-- How messages call the token: the description of a symbol, or the declared name. -/
  display : String
deriving DecidableEq, Repr

/-- Why an expression is no token. -/
inductive TokenError where
  /-- The name refers to no declaration of the program. -/
  | unresolved (name : String)
  /-- The expression is no name. -/
  | notName
  /-- The name refers to a binding that holds no symbol. -/
  | notSymbol (name : String)
  /-- The name refers to a type. -/
  | onlyType (name : String)
deriving DecidableEq, Repr

/-- The wording of a refused token. -/
def TokenError.message : TokenError → String
  | .unresolved name => s!"`{name}` does not refer to a declaration in the program"
  | .notName => "unsupported token: expected a class or a symbol constant"
  | .notSymbol name => s!"unsupported token: `{name}` is not a symbol constant"
  | .onlyType name => s!"unsupported token: `{name}` is a type and has no runtime identity"

namespace Program

variable (program : Program)

/-- The name whose function an expression calls, if the call makes a symbol:
`Symbol(…)` and `Symbol.for(…)` do. -/
def symbolMaker? (callee : Expression) : Option String :=
  match callee.form with
  | .name text => some text
  | .member object property => if property = "for" then object.name? else none
  | _ => none

/-- The text of an expression that is a string. -/
def stringContent? (expression : Expression) : Option String :=
  match expression.form with
  | .string content => some content
  | _ => none

/-- The description of the symbol that an expression in a file makes. A symbol may
have no description, or none that can be read. -/
def symbolCall? (file : Nat) (expression : Expression) : Option (Option String) :=
  match expression.form with
  | .call callee _ arguments =>
    match symbolMaker? callee with
    | some name =>
      if name = "Symbol" ∧ (program.resolve? file name).isNone then
        some (arguments.head?.bind stringContent?)
      else none
    | none => none
  | _ => none

/-- The token that a binding is, if it holds a symbol. -/
def symbolToken? (number file : Nat) (binding : BindingDeclaration) : Option InjectionToken :=
  match binding.initial.bind (program.symbolCall? file) with
  | some description => some ⟨number, .symbol, description.getD binding.name⟩
  | none =>
    if program.declarationType number = .ofPrimitive .symbol then
      some ⟨number, .symbol, binding.name⟩
    else none

/-- The token that an expression in a file refers to. -/
def token (file : Nat) (expression : Expression) : Except TokenError InjectionToken :=
  match expression.name? with
  | none => .error .notName
  | some name =>
    match program.find? file name with
    | none => .error (.unresolved name)
    | some (number, declaration) =>
      match declaration.form with
      | .classType form => .ok ⟨number, .class_, form.name⟩
      | .binding binding =>
        match program.symbolToken? number declaration.file binding with
        | some token => .ok token
        | none => .error (.notSymbol name)
      | .interfaceType _ | .typeAlias _ => .error (.onlyType name)

end Program

end InjectionCheck
