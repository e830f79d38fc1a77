import InjectionCheck.Walk.Unvisited

/-!
# Sets of numbers

Where the nodes of a walk have numbers, the visited ones are a set of numbers. It is
kept as the bits of one number, so that asking for an element and adding one do not
get slower with every element, and sets with the same elements are equal
(`NumberSet.ext`).

A node that is entered for the first time leaves fewer to visit
(`unvisited_insert_lt`), and so do others that are added with it
(`unvisited_union_insert_lt`).
-/

set_option autoImplicit false

namespace InjectionCheck

/-- A finite set of numbers. -/
structure NumberSet where
  /-- The bit of a number is set if the number is an element. -/
  bits : Nat
deriving DecidableEq, Repr

namespace NumberSet

instance : Membership Nat NumberSet := ⟨fun set number => set.bits.testBit number = true⟩

instance (number : Nat) (set : NumberSet) : Decidable (number ∈ set) :=
  inferInstanceAs (Decidable (set.bits.testBit number = true))

instance : EmptyCollection NumberSet := ⟨⟨0⟩⟩

instance : Union NumberSet := ⟨fun first second => ⟨first.bits ||| second.bits⟩⟩

/-- A set with one more element. -/
def insert (set : NumberSet) (number : Nat) : NumberSet := ⟨set.bits ||| 1 <<< number⟩

theorem mem_iff {number : Nat} {set : NumberSet} :
    number ∈ set ↔ set.bits.testBit number = true := Iff.rfl

@[simp] theorem not_mem_empty (number : Nat) : number ∉ (∅ : NumberSet) := by
  have bits : (∅ : NumberSet).bits = 0 := rfl
  simp [mem_iff, bits]

@[simp] theorem mem_insert {number added : Nat} {set : NumberSet} :
    number ∈ set.insert added ↔ number = added ∨ number ∈ set := by
  simp only [mem_iff, insert, Nat.testBit_or, Nat.one_shiftLeft, Nat.testBit_two_pow,
    Bool.or_eq_true, decide_eq_true_eq]
  rw [or_comm, eq_comm]

@[simp] theorem mem_union {number : Nat} {first second : NumberSet} :
    number ∈ first ∪ second ↔ number ∈ first ∨ number ∈ second := by
  have bits : (first ∪ second).bits = first.bits ||| second.bits := rfl
  simp only [mem_iff, bits, Nat.testBit_or, Bool.or_eq_true]

/-- Sets with the same elements are equal. -/
@[ext] theorem ext {first second : NumberSet}
    (same : ∀ number, number ∈ first ↔ number ∈ second) : first = second := by
  rcases first with ⟨bits⟩
  rcases second with ⟨bits'⟩
  congr 1
  exact Nat.eq_of_testBit_eq fun number => Bool.eq_iff_iff.2 (same number)

end NumberSet

/-- Visiting one more node leaves fewer to visit. -/
theorem unvisited_insert_lt {nodes : List Nat} {visited : NumberSet} {node : Nat}
    (present : node ∈ nodes) (fresh : node ∉ visited) :
    unvisited nodes (visited.insert node) < unvisited nodes visited :=
  unvisited_lt_of_mem present fresh (fun _ inside => NumberSet.mem_insert.2 (.inr inside))
    (NumberSet.mem_insert.2 (.inl rfl))

/-- Visiting one more node, and others with it, leaves fewer to visit. -/
theorem unvisited_union_insert_lt {nodes : List Nat} {visited : NumberSet} {node : Nat}
    (present : node ∈ nodes) (fresh : node ∉ visited) (others : NumberSet) :
    unvisited nodes (visited.insert node ∪ others) < unvisited nodes visited :=
  unvisited_lt_of_mem present fresh
    (fun _ inside => NumberSet.mem_union.2 (.inl (NumberSet.mem_insert.2 (.inr inside))))
    (NumberSet.mem_union.2 (.inl (NumberSet.mem_insert.2 (.inl rfl))))

end InjectionCheck
