/-!
# Finding things by their numbers

An index of a list of numbered things has a slot for every number up to the largest.
What it finds is what a search through the list finds (`NumberIndex.get?_eq_find?`):
the first thing with a number.
-/

set_option autoImplicit false

namespace InjectionCheck

/-- An index of some things by their numbers. -/
structure NumberIndex {α : Type} (number : α → Nat) (items : List α) where
  slots : Array (Option α)
  /-- A slot holds the first thing with its number. -/
  slots_join : ∀ wanted, slots[wanted]?.join = items.find? (number · = wanted)

namespace NumberIndex

variable {α : Type} {number : α → Nat} {items : List α}

/-- The first thing with a number. -/
def get? (index : NumberIndex number items) (wanted : Nat) : Option α :=
  index.slots[wanted]?.join

theorem get?_eq_find? (index : NumberIndex number items) (wanted : Nat) :
    index.get? wanted = items.find? (number · = wanted) :=
  index.slots_join wanted

/-- A number that is larger than those of some things. -/
def bound (number : α → Nat) (items : List α) : Nat :=
  items.foldr (fun item bound => max (number item + 1) bound) 0

/-- Slots in which some things have been put, the first ones last. -/
def filled (number : α → Nat) (items : List α) (slots : Array (Option α)) : Array (Option α) :=
  items.foldr (fun item slots => slots.setIfInBounds (number item) (some item)) slots

theorem size_filled (number : α → Nat) (items : List α) (slots : Array (Option α)) :
    (filled number items slots).size = slots.size := by
  induction items with
  | nil => rfl
  | cons item items ih => simpa [filled] using ih

theorem join_filled {slots : Array (Option α)} (large : bound number items ≤ slots.size)
    (free : ∀ wanted : Nat, slots[wanted]?.join = none) (wanted : Nat) :
    (filled number items slots)[wanted]?.join = items.find? (number · = wanted) := by
  induction items with
  | nil => simpa [filled] using free wanted
  | cons item items ih =>
    simp only [bound, List.foldr_cons, Nat.max_le] at large
    have size := size_filled number items slots
    have rest := ih large.2
    rw [List.find?_cons]
    by_cases same : number item = wanted
    · subst same
      simp only [filled, List.foldr_cons, decide_true]
      rw [Array.getElem?_setIfInBounds_self_of_lt (by unfold filled at size; omega)]
      rfl
    · simp only [filled, List.foldr_cons, same, decide_false]
      rw [Array.getElem?_setIfInBounds_ne same]
      exact rest

/-- The index of some things. -/
def ofList (number : α → Nat) (items : List α) : NumberIndex number items :=
  ⟨filled number items (Array.replicate (bound number items) none),
    join_filled (by simp) fun wanted => by
      by_cases inside : wanted < bound number items <;> simp [inside]⟩

end NumberIndex

end InjectionCheck
