import InjectionCheck.Proofs.Connectives

/-!
# Pools that are made by calls

Whoever makes up types calls the constructors of a pool, with types that are primitive or that
earlier calls gave. However many calls are made, and in whatever order, the pool that comes out is
canonical (`Pool.Calls.canonical`). A type has one number, and an entry refers to smaller numbers
only. A call that was made gives the same type whenever it is made again. Joined types are flat:
they have several different members, and none that is joined in the same way. That is why it is
enough to look one level deep when types are joined, and why joining is associative and idempotent.
-/

set_option autoImplicit false

namespace InjectionCheck

/-! ## Calls -/

/-- A call of a constructor. -/
inductive PoolCall where
  | named (declaration : Nat) (name : String)
  | unresolved (name : String)
  | stringLiteral (content : String)
  | array (element : TypeIndex)
  | tuple (elements : List TypeIndex)
  | union (members : List TypeIndex)
  | intersection (members : List TypeIndex)
  | function (parameters : List TypeParameter) (result : TypeIndex)
  | object (members : List Member)

namespace PoolCall

/-- The type that a call gives, and the pool that it leaves. -/
def run (pool : Pool) : PoolCall → TypeIndex × Pool
  | .named declaration name => pool.named declaration name
  | .unresolved name => pool.unresolved name
  | .stringLiteral content => pool.stringLiteral content
  | .array element => pool.array element
  | .tuple elements => pool.tuple elements
  | .union members => pool.union members
  | .intersection members => pool.intersection members
  | .function parameters result => pool.function parameters result
  | .object members => pool.object members

/-- The types that are passed to a call. -/
def arguments : PoolCall → List TypeIndex
  | .named _ _ | .unresolved _ | .stringLiteral _ => []
  | .array element => [element]
  | .tuple elements => elements
  | .union members | .intersection members => members
  | .function parameters result => result :: parameters.map TypeParameter.type
  | .object members => members.map Member.type

/-- The call that joins some types. -/
def joining : Connective → List TypeIndex → PoolCall
  | .union => .union
  | .intersection => .intersection

/-- The entry that a call asks for, if the call does not join types. -/
def entry? : PoolCall → Option PoolEntry
  | .named declaration name => some (.named declaration name)
  | .unresolved name => some (.unresolved name)
  | .stringLiteral content => some (.stringLiteral content)
  | .array element => some (.array element)
  | .tuple elements => some (.tuple elements)
  | .union _ | .intersection _ => none
  | .function parameters result => some (.function ⟨parameters, result⟩)
  | .object members => some (.object members)

variable {call : PoolCall} {pool later : Pool} {entry : PoolEntry}

/-- A call joins types, or asks for an entry. -/
theorem joining_or_entry? (call : PoolCall) :
    (∃ connective, call = joining connective call.arguments) ∨
      ∃ entry, call.entry? = some entry := by
  cases call with
  | union members => exact .inl ⟨.union, rfl⟩
  | intersection members => exact .inl ⟨.intersection, rfl⟩
  | _ => exact .inr ⟨_, rfl⟩

theorem run_joining (connective : Connective) (types : List TypeIndex) :
    (joining connective types).run pool = connective.join pool types := by
  cases connective <;> rfl

/-- **What is asked for is interned.** It refers to what was passed, and joins nothing. -/
theorem run_eq_intern (asks : call.entry? = some entry) (pool : Pool) :
    call.run pool = pool.intern entry ∧ entry.parts = call.arguments ∧ entry ≠ .reserved ∧
      ∀ (connective : Connective) types, entry ≠ connective.entry types := by
  cases call <;> cases asks <;> refine ⟨rfl, rfl, PoolEntry.noConfusion, ?_⟩ <;>
    intro connective types <;> cases connective <;> exact PoolEntry.noConfusion

theorem grows_run (call : PoolCall) (pool : Pool) : pool.Grows (call.run pool).2 := by
  rcases call.joining_or_entry? with ⟨connective, isJoining⟩ | ⟨entry, asks⟩
  · rw [isJoining, run_joining]
    exact connective.grows_join pool _
  · rw [(run_eq_intern asks pool).1]
    exact pool.grows_intern entry

section InUse

variable (inUse : ∀ type ∈ call.arguments, type.number < pool.size)
include inUse

/-- A call gives a type in use. -/
theorem lt_size_run : (call.run pool).1.number < (call.run pool).2.size := by
  rcases call.joining_or_entry? with ⟨connective, isJoining⟩ | ⟨entry, asks⟩
  · rw [isJoining, run_joining]
    exact connective.lt_size_join inUse
  · obtain ⟨runs, parts, notReserved, _⟩ := run_eq_intern asks pool
    rw [runs]
    apply Pool.lt_size
    rw [Pool.entry_intern (parts ▸ inUse)]
    exact notReserved

/-- A call that is made again later gives the same type, and adds nothing. -/
theorem run_again (grows : (call.run pool).2.Grows later) :
    call.run later = ((call.run pool).1, later) := by
  rcases call.joining_or_entry? with ⟨connective, isJoining⟩ | ⟨entry, asks⟩
  · rw [isJoining, run_joining] at grows ⊢
    rw [run_joining]
    exact connective.join_again inUse grows
  · obtain ⟨runs, parts, notReserved, _⟩ := run_eq_intern asks pool
    rw [runs] at grows ⊢
    rw [(run_eq_intern asks later).1]
    exact Pool.intern_again (parts ▸ inUse) notReserved grows

/-- A call keeps a pool flat. -/
theorem flat_run (flat : pool.Flat) : (call.run pool).2.Flat := by
  rcases call.joining_or_entry? with ⟨connective, isJoining⟩ | ⟨entry, asks⟩
  · rw [isJoining, run_joining]
    exact flat.join connective inUse
  · obtain ⟨runs, parts, _, noJoin⟩ := run_eq_intern asks pool
    rw [runs]
    apply flat.intern (parts ▸ inUse)
    intro connective members isEntry
    exact absurd isEntry (noJoin connective members)

end InUse

end PoolCall

/-! ## Sequences of calls -/

/-- A type that may be passed to the next call: a primitive one, or the result of a call before. -/
def Given (calls : List (PoolCall × TypeIndex)) (type : TypeIndex) : Prop :=
  type.primitive?.isSome ∨ type ∈ calls.map Prod.snd

instance (calls : List (PoolCall × TypeIndex)) (type : TypeIndex) : Decidable (Given calls type) :=
  inferInstanceAs (Decidable (_ ∨ _))

namespace Pool

/-- The pool that some calls leave, one after another; each is listed with the type that it gave. -/
inductive Calls : List (PoolCall × TypeIndex) → Pool → Prop where
  | none : Calls [] .empty
  | next {calls : List (PoolCall × TypeIndex)} {pool : Pool} (before : Calls calls pool)
      (call : PoolCall) (given : ∀ argument ∈ call.arguments, Given calls argument) :
      Calls (calls ++ [(call, (call.run pool).1)]) (call.run pool).2

/-- A number that belongs to an entry of a pool. -/
def Dynamic (pool : Pool) (type : TypeIndex) : Prop :=
  TypeIndex.reservedCount ≤ type.number ∧ type.number < pool.size

variable {pool later : Pool} {type other : TypeIndex} {calls : List (PoolCall × TypeIndex)}

/-- A number that belongs to an entry stands for one of the entries. -/
theorem Dynamic.entry_mem (dynamic : pool.Dynamic type) : pool.entry type ∈ pool.entries := by
  obtain ⟨notLess, inUse⟩ := dynamic
  simp only [size] at inUse
  have inside : type.number - TypeIndex.reservedCount < pool.entries.size := by omega
  have notReserved : ¬type.isReserved = true := by simpa [TypeIndex.isReserved] using notLess
  rw [Pool.entry, if_neg notReserved, Array.getElem?_eq_getElem inside]
  exact Array.getElem_mem inside

/-- A call adds no entry without a type. -/
theorem notReserved_run (notReserved : PoolEntry.reserved ∉ pool.entries) (call : PoolCall) :
    PoolEntry.reserved ∉ (call.run pool).2.entries := by
  have intern (entry : PoolEntry) (different : entry ≠ .reserved) :
      PoolEntry.reserved ∉ (pool.intern entry).2.entries := by
    unfold Pool.intern
    split
    · exact notReserved
    · split
      · simp [push, notReserved, different.symm]
      · exact notReserved
  rcases call.joining_or_entry? with ⟨connective, isJoining⟩ | ⟨entry, asks⟩
  · rw [isJoining, PoolCall.run_joining, Connective.join_eq]
    split
    · exact notReserved
    · exact notReserved
    · exact intern _ Connective.entry_ne_reserved
  · obtain ⟨runs, _, different, _⟩ := PoolCall.run_eq_intern asks pool
    rw [runs]
    exact intern entry different

/-- What every call keeps. -/
structure Consistent (calls : List (PoolCall × TypeIndex)) (pool : Pool) : Prop where
  flat : pool.Flat
  notReserved : PoolEntry.reserved ∉ pool.entries
  argumentsInUse : ∀ call result, (call, result) ∈ calls →
    ∀ argument ∈ call.arguments, argument.number < pool.size
  resultsInUse : ∀ call result, (call, result) ∈ calls → result.number < pool.size
  answered : ∀ call result, (call, result) ∈ calls → call.run pool = (result, pool)

theorem Consistent.lt_size (consistent : Consistent calls pool) (given : Given calls type) :
    type.number < pool.size := by
  rcases given with isPrimitive | isResult
  · exact Has.lt_size (.inl isPrimitive)
  · obtain ⟨⟨call, result⟩, inside, rfl⟩ := List.mem_map.1 isResult
    exact consistent.resultsInUse call result inside

theorem consistent_empty : Consistent [] .empty where
  flat := flat_empty
  notReserved := by simp [empty]
  argumentsInUse call result inside := absurd inside List.not_mem_nil
  resultsInUse call result inside := absurd inside List.not_mem_nil
  answered call result inside := absurd inside List.not_mem_nil

/-- **One more call keeps what every call keeps.** -/
theorem Consistent.next (consistent : Consistent calls pool) {call : PoolCall}
    (given : ∀ argument ∈ call.arguments, Given calls argument) :
    Consistent (calls ++ [(call, (call.run pool).1)]) (call.run pool).2 := by
  have inUse : ∀ argument ∈ call.arguments, argument.number < pool.size := by
    intro argument isArgument
    exact consistent.lt_size (given argument isArgument)
  have grows : pool.Grows (call.run pool).2 := call.grows_run pool
  have cases_mem {earlier : PoolCall} {result : TypeIndex}
      (inside : (earlier, result) ∈ calls ++ [(call, (call.run pool).1)]) :
      (earlier, result) ∈ calls ∨ earlier = call ∧ result = (call.run pool).1 := by
    simpa using inside
  refine ⟨PoolCall.flat_run inUse consistent.flat, notReserved_run consistent.notReserved call,
    ?_, ?_, ?_⟩
  · intro earlier result inside argument isArgument
    apply Nat.lt_of_lt_of_le _ grows.size_le
    rcases cases_mem inside with before | ⟨rfl, _⟩
    · exact consistent.argumentsInUse earlier result before argument isArgument
    · exact inUse argument isArgument
  · intro earlier result inside
    rcases cases_mem inside with before | ⟨_, rfl⟩
    · exact Nat.lt_of_lt_of_le (consistent.resultsInUse earlier result before) grows.size_le
    · exact PoolCall.lt_size_run inUse
  · intro earlier result inside
    rcases cases_mem inside with before | ⟨rfl, rfl⟩
    · have answer := consistent.answered earlier result before
      have again : earlier.run (call.run pool).2 = ((earlier.run pool).1, (call.run pool).2) :=
        PoolCall.run_again (consistent.argumentsInUse earlier result before) (answer.symm ▸ grows)
      rwa [answer] at again
    · exact PoolCall.run_again inUse (.refl _)

/-- **However many calls are made, they keep what every call keeps.** -/
theorem Calls.consistent (made : Calls calls pool) : Consistent calls pool := by
  induction made with
  | none => exact consistent_empty
  | next _ call given ih => exact ih.next given

/-! ## Canonical pools -/

/-- What can be relied on in a pool that some calls made. -/
structure Canonical (calls : List (PoolCall × TypeIndex)) (pool : Pool) : Prop where
  /-- A call that was made gives the same type again, and adds nothing. -/
  answered : ∀ call result, (call, result) ∈ calls → call.run pool = (result, pool)
  /-- The type that a call gave stands for the entry that the call asked for. -/
  holds : ∀ call result entry, (call, result) ∈ calls → call.entry? = some entry →
    pool.entry result = entry
  /-- Different numbers stand for different entries. -/
  distinct : ∀ type other, pool.Dynamic type → pool.Dynamic other → type ≠ other →
    pool.entry type ≠ pool.entry other
  /-- An entry that is interned again keeps its number. -/
  interned : ∀ type, pool.Dynamic type → pool.intern (pool.entry type) = (type, pool)
  /-- An entry refers to smaller numbers than its own. -/
  parts : ∀ type, ∀ part ∈ (pool.entry type).parts, part.number < type.number
  /-- A union has several different members, none of which is a union. -/
  unions : ∀ type members, pool.entry type = .union members →
    2 ≤ members.length ∧ members.Nodup ∧
      ∀ member ∈ members, ∀ others, pool.entry member ≠ .union others
  /-- An intersection has several different members, none of which is an intersection. -/
  intersections : ∀ type members, pool.entry type = .intersection members →
    2 ≤ members.length ∧ members.Nodup ∧
      ∀ member ∈ members, ∀ others, pool.entry member ≠ .intersection others
  /-- To join some types, then others, and then the two results is to join all the types. -/
  associative : ∀ (connective : Connective) types others, types ≠ [] → others ≠ [] →
    (∀ type ∈ types ++ others, Given calls type) →
    let first := connective.join pool types
    let second := connective.join first.2 others
    connective.join second.2 [first.1, second.1] = connective.join second.2 (types ++ others)
  /-- A type that is joined with itself stays what it is. -/
  idempotent : ∀ (connective : Connective) type, Given calls type →
    connective.join pool [type, type] = (type, pool)

/-- **A pool that calls of the constructors made is canonical.** -/
theorem Calls.canonical (made : Calls calls pool) : pool.Canonical calls := by
  have consistent := made.consistent
  have notReserved {type : TypeIndex} (dynamic : pool.Dynamic type) :
      pool.entry type ≠ .reserved := by
    intro reserved
    exact consistent.notReserved (reserved ▸ dynamic.entry_mem)
  refine ⟨consistent.answered, ?_, ?_, ?_, ?_, ?_, ?_, ?_, ?_⟩
  · intro call result entry inside asks
    obtain ⟨runs, parts, _, _⟩ := PoolCall.run_eq_intern asks pool
    have answer := consistent.answered call result inside
    have closed := consistent.argumentsInUse call result inside
    have found : (pool.intern entry).2.entry (pool.intern entry).1 = entry :=
      entry_intern (parts ▸ closed)
    rwa [← runs, answer] at found
  · intro type other dynamic _ different same
    exact different (eq_of_entry_eq (notReserved dynamic) same)
  · intro type dynamic
    exact intern_of_entry rfl (notReserved dynamic)
  · intro type part inside
    exact part_lt rfl inside
  · intro type members found
    have flat := consistent.flat .union type members found
    exact ⟨flat.several, flat.distinct, flat.flat⟩
  · intro type members found
    have flat := consistent.flat .intersection type members found
    exact ⟨flat.several, flat.distinct, flat.flat⟩
  · intro connective types others nonempty othersNonempty given
    apply consistent.flat.join_append connective _ _ nonempty othersNonempty
    · intro type isType
      exact consistent.lt_size (given type (List.mem_append_left _ isType))
    · intro type isType
      exact consistent.lt_size (given type (List.mem_append_right _ isType))
  · intro connective type _
    exact consistent.flat.join_self connective type

/-- A union, its arrays, and a wider union that is made of it. -/
def widenedCalls : List (PoolCall × TypeIndex) :=
  [(.union [.ofPrimitive .string, .ofPrimitive .number], ⟨64⟩), (.array ⟨64⟩, ⟨65⟩),
    (.union [⟨64⟩, .ofPrimitive .null], ⟨66⟩)]

theorem Calls.canonical_widened :
    ∃ pool, Calls widenedCalls pool ∧ pool.Canonical widenedCalls ∧
      pool.entry ⟨66⟩ =
        .union [.ofPrimitive .string, .ofPrimitive .number, .ofPrimitive .null] := by
  have step {calls : List (PoolCall × TypeIndex)} {pool : Pool} {result : TypeIndex}
      (before : Calls calls pool) (call : PoolCall) (answer : (call.run pool).1 = result)
      (given : ∀ argument ∈ call.arguments, Given calls argument) :
      Calls (calls ++ [(call, result)]) (call.run pool).2 := by
    rw [← answer]
    exact before.next call given
  have names := step Calls.none (.union [.ofPrimitive .string, .ofPrimitive .number])
    (by decide +kernel : _ = ⟨64⟩) (by decide)
  have arrays := step names (.array ⟨64⟩) (by decide +kernel : _ = ⟨65⟩) (by decide)
  have widened := step arrays (.union [⟨64⟩, .ofPrimitive .null])
    (by decide +kernel : _ = ⟨66⟩) (by decide)
  exact ⟨_, widened, canonical widened, by decide +kernel⟩

end Pool

end InjectionCheck
