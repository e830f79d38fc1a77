/-!
# Numbers of types

Types are kept in a pool and referred to by number. The primitive types have fixed
numbers, the first sixty-four numbers are reserved for them, and the types that a
program makes up follow.
-/

set_option autoImplicit false

namespace InjectionCheck

/-- A type that every program knows. -/
inductive Primitive where
  | any
  | unknown
  /-- The type without values; it can be used as any type. -/
  | never
  | void
  | undefined
  | null
  | string
  | number
  | boolean
  | symbol
  | bigint
  /-- The type of all values that are not primitive. -/
  | object
  /-- A type that could not be determined; it fits every type and every type fits it. -/
  | error
deriving DecidableEq, Repr, Inhabited

namespace Primitive

/-- The primitive types in the order of their numbers. -/
def all : List Primitive :=
  [.any, .unknown, .never, .void, .undefined, .null, .string, .number, .boolean, .symbol,
    .bigint, .object, .error]

/-- How a primitive type is written. -/
def text : Primitive → String
  | .any => "any"
  | .unknown => "unknown"
  | .never => "never"
  | .void => "void"
  | .undefined => "undefined"
  | .null => "null"
  | .string => "string"
  | .number => "number"
  | .boolean => "boolean"
  | .symbol => "symbol"
  | .bigint => "bigint"
  | .object => "object"
  | .error => "<error>"

/-- The primitive type that a keyword names. -/
def ofKeyword? (keyword : String) : Option Primitive :=
  all.find? fun primitive => primitive ≠ .error ∧ primitive.text = keyword

/-- The number of a primitive type. -/
def index (primitive : Primitive) : Nat := all.idxOf primitive

end Primitive

/-- The number of a type in a pool. -/
structure TypeIndex where
  number : Nat
deriving DecidableEq, Repr, Inhabited

namespace TypeIndex

/-- How many numbers are reserved for primitive types. -/
def reservedCount : Nat := 64

/-- The type with the number of a primitive type. -/
def ofPrimitive (primitive : Primitive) : TypeIndex := ⟨primitive.index⟩

/-- The type of which nothing is known. -/
def any : TypeIndex := .ofPrimitive .any

/-- The type that could not be determined. -/
def error : TypeIndex := .ofPrimitive .error

/-- Whether a number is reserved for primitive types. -/
def isReserved (type : TypeIndex) : Bool := type.number < reservedCount

/-- The primitive type with a number. -/
def primitive? (type : TypeIndex) : Option Primitive := Primitive.all[type.number]?

/-- The name of a primitive type, and otherwise the number. -/
def text (type : TypeIndex) : String :=
  match type.primitive? with
  | some primitive => primitive.text
  | none => s!"type#{type.number}"

end TypeIndex

end InjectionCheck
