import InjectionCheck.Tree.Basic
import InjectionCheck.Types.Index

/-!
# Pools of types

A pool holds the types that a program makes up, each one once. An entry refers to
its parts by number, and its parts are there before it: this is why functions on
types can recurse on the number, and why equal types have equal numbers.

The constructors give the number of a type and the pool that holds it. A union of
unions is flat and names no member twice, and so is an intersection.
-/

set_option autoImplicit false

namespace InjectionCheck

/-- A parameter of a function type. -/
structure TypeParameter where
  name : String
  type : TypeIndex
  optional : Bool
deriving DecidableEq, Repr

/-- The parameters and the result of a function type. -/
structure Signature where
  parameters : List TypeParameter
  result : TypeIndex
deriving DecidableEq, Repr

/-- How many arguments a caller has to pass. -/
def Signature.requiredCount (signature : Signature) : Nat :=
  (signature.parameters.takeWhile fun parameter => !parameter.optional).length

/-- A property or method of an object. -/
structure Member where
  name : String
  optional : Bool
  access : Access
  /-- The type of a property, or the function type of a method. -/
  type : TypeIndex
  isMethod : Bool
deriving DecidableEq, Repr

/-- What a number of a pool stands for. -/
inductive PoolEntry where
  /-- A number reserved for a primitive type. -/
  | reserved
  /-- The instances of a class or interface. -/
  | named (declaration : Nat) (name : String)
  /-- A named type that the program does not declare. -/
  | unresolved (name : String)
  | stringLiteral (content : String)
  | array (element : TypeIndex)
  | tuple (elements : List TypeIndex)
  | union (members : List TypeIndex)
  | intersection (members : List TypeIndex)
  | function (signature : Signature)
  | object (members : List Member)
deriving DecidableEq, Repr, Inhabited

/-- The types that an entry refers to. -/
def PoolEntry.parts : PoolEntry → List TypeIndex
  | .reserved | .named _ _ | .unresolved _ | .stringLiteral _ => []
  | .array element => [element]
  | .tuple elements => elements
  | .union members | .intersection members => members
  | .function signature => signature.result :: signature.parameters.map TypeParameter.type
  | .object members => members.map Member.type

namespace PoolEntry

/-- The type of a parameter is a part of the function type. -/
theorem parameter_mem_parts {signature : Signature} {parameter : TypeParameter}
    (inside : parameter ∈ signature.parameters) : parameter.type ∈ (function signature).parts :=
  List.mem_cons_of_mem _ (List.mem_map.2 ⟨parameter, inside, rfl⟩)

/-- The result is a part of the function type. -/
theorem result_mem_parts (signature : Signature) :
    signature.result ∈ (function signature).parts :=
  List.mem_cons_self

/-- The type of a member is a part of the object type. -/
theorem member_mem_parts {members : List Member} {member : Member} (inside : member ∈ members) :
    member.type ∈ (object members).parts :=
  List.mem_map.2 ⟨member, inside, rfl⟩

end PoolEntry

/-- The types that a program makes up. -/
structure Pool where
  /-- The entries, the first one with the first number that is not reserved. -/
  entries : Array PoolEntry
  /-- The parts of an entry have smaller numbers. -/
  parts_before : ∀ (place : Nat) (inside : place < entries.size), ∀ part ∈ entries[place].parts,
    part.number < TypeIndex.reservedCount + place
  /-- No entry has two numbers. -/
  distinct : entries.toList.Nodup

namespace Pool

/-- The pool of the primitive types only. -/
def empty : Pool where
  entries := #[]
  parts_before := by simp
  distinct := by simp

instance : Inhabited Pool := ⟨empty⟩

/-- How many numbers are in use, the reserved ones included. -/
def size (pool : Pool) : Nat := TypeIndex.reservedCount + pool.entries.size

/-- What a number stands for; a number that is not in use counts as reserved. -/
def entry (pool : Pool) (type : TypeIndex) : PoolEntry :=
  if type.isReserved then .reserved
  else (pool.entries[type.number - TypeIndex.reservedCount]?).getD .reserved

/-- The parts of a type have smaller numbers than the type. -/
theorem part_lt {pool : Pool} {type : TypeIndex} {entry : PoolEntry}
    (found : pool.entry type = entry) {part : TypeIndex} (inside : part ∈ entry.parts) :
    part.number < type.number := by
  subst found
  unfold Pool.entry at inside
  split at inside
  · simp [PoolEntry.parts] at inside
  · next dynamic =>
    simp only [TypeIndex.isReserved, decide_eq_true_eq, Nat.not_lt] at dynamic
    by_cases used : type.number - TypeIndex.reservedCount < pool.entries.size
    · rw [Array.getElem?_eq_getElem used, Option.getD_some] at inside
      have := pool.parts_before _ used part inside
      omega
    · rw [Array.getElem?_eq_none (Nat.not_lt.1 used)] at inside
      simp [PoolEntry.parts] at inside

/-- A number that stands for something is in use. -/
theorem lt_size {pool : Pool} {type : TypeIndex} (found : pool.entry type ≠ .reserved) :
    type.number < pool.size := by
  unfold Pool.entry at found
  split at found
  · exact absurd rfl found
  · next dynamic =>
    simp only [TypeIndex.isReserved, decide_eq_true_eq, Nat.not_lt] at dynamic
    by_cases used : type.number - TypeIndex.reservedCount < pool.entries.size
    · simp only [size]
      omega
    · rw [Array.getElem?_eq_none (Nat.not_lt.1 used)] at found
      exact absurd rfl found

/-- The pool with one more entry. -/
def push (pool : Pool) (entry : PoolEntry) (fresh : pool.entries.idxOf? entry = none)
    (closed : ∀ part ∈ entry.parts, part.number < pool.size) : Pool where
  entries := pool.entries.push entry
  parts_before := by
    intro place inside part isPart
    rw [Array.getElem_push] at isPart
    split at isPart
    · next before => exact pool.parts_before place before part isPart
    · next notBefore =>
      have := closed part isPart
      simp only [Array.size_push] at inside
      simp only [size] at this
      omega
  distinct := by
    have absent : entry ∉ pool.entries := by simpa using fresh
    simp only [Array.toList_push, List.nodup_append, List.mem_singleton]
    refine ⟨pool.distinct, by simp, ?_⟩
    rintro earlier member _ rfl rfl
    exact absent (by simpa using member)

/-- The number of an entry, and the pool that holds it. An entry that refers to a
number not in use is no type. -/
def intern (pool : Pool) (entry : PoolEntry) : TypeIndex × Pool :=
  match known : pool.entries.idxOf? entry with
  | some place => (⟨TypeIndex.reservedCount + place⟩, pool)
  | none =>
    if closed : ∀ part ∈ entry.parts, part.number < pool.size then
      (⟨pool.size⟩, pool.push entry known closed)
    else (.error, pool)

/-! ## Constructors -/

/-- The instances of a declared class or interface. -/
def named (pool : Pool) (declaration : Nat) (name : String) : TypeIndex × Pool :=
  pool.intern (.named declaration name)

/-- A named type that the program does not declare. -/
def unresolved (pool : Pool) (name : String) : TypeIndex × Pool := pool.intern (.unresolved name)

/-- The type of one text. -/
def stringLiteral (pool : Pool) (content : String) : TypeIndex × Pool :=
  pool.intern (.stringLiteral content)

/-- The arrays of a type. -/
def array (pool : Pool) (element : TypeIndex) : TypeIndex × Pool := pool.intern (.array element)

/-- The tuples of some types. -/
def tuple (pool : Pool) (elements : List TypeIndex) : TypeIndex × Pool :=
  pool.intern (.tuple elements)

/-- The members of a union, if the type is one, and otherwise the type itself. -/
def unionMembers (pool : Pool) (type : TypeIndex) : List TypeIndex :=
  match pool.entry type with
  | .union members => members
  | _ => [type]

/-- The members of an intersection, if the type is one, and otherwise the type itself. -/
def intersectionMembers (pool : Pool) (type : TypeIndex) : List TypeIndex :=
  match pool.entry type with
  | .intersection members => members
  | _ => [type]

/-- The elements of a list without repetitions, each at its first place. -/
def withoutRepeats (types : List TypeIndex) : List TypeIndex :=
  types.foldl (fun kept type => if type ∈ kept then kept else kept ++ [type]) []

/-- The union of some types. No type at all gives `never`, and one type gives itself. -/
def union (pool : Pool) (types : List TypeIndex) : TypeIndex × Pool :=
  match withoutRepeats (types.flatMap pool.unionMembers) with
  | [] => (.ofPrimitive .never, pool)
  | [single] => (single, pool)
  | members => pool.intern (.union members)

/-- The intersection of some types. No type at all gives `unknown`, and one type
gives itself. -/
def intersection (pool : Pool) (types : List TypeIndex) : TypeIndex × Pool :=
  match withoutRepeats (types.flatMap pool.intersectionMembers) with
  | [] => (.ofPrimitive .unknown, pool)
  | [single] => (single, pool)
  | members => pool.intern (.intersection members)

/-- The functions with some parameters and a result. -/
def function (pool : Pool) (parameters : List TypeParameter) (result : TypeIndex) :
    TypeIndex × Pool :=
  pool.intern (.function ⟨parameters, result⟩)

/-- The objects with some members. -/
def object (pool : Pool) (members : List Member) : TypeIndex × Pool :=
  pool.intern (.object members)

/-- Whether nothing is known of a type: it could not be determined, or the program
does not declare it. -/
def isIndeterminate (pool : Pool) (type : TypeIndex) : Bool :=
  type = .error ||
    match pool.entry type with
    | .unresolved _ => true
    | _ => false

end Pool

end InjectionCheck
