import InjectionCheck.Proofs.PoolSketches
import Mathlib.Data.List.Induction

/-!
# Joining types

Unions and intersections are made in one way. Types that are joined already give their members,
repetitions are dropped, and what is left is nothing, or one type, or several types that get an
entry (`Connective.join_eq`). So both are treated here at once.

What is made of types in use is made once: whoever makes it again later gets the same type, and adds
nothing to the pool (`Recipe.build_again`). In a pool in which joined types have several different
members, and none that are joined in the same way, joining some types and then what is made of them
is joining all of them (`Pool.Flat.join_append`), and joining a type with itself gives the type
(`Pool.Flat.join_self`). Joining types keeps a pool so (`Pool.Flat.join`).
-/

set_option autoImplicit false

namespace InjectionCheck

/-! ## Lists without repetitions -/

section Firsts

variable {α : Type} [DecidableEq α]

theorem nodup_firsts (items : List α) : (firsts items).Nodup := by
  have general : ∀ kept : List α, kept.Nodup →
      (items.foldl (fun kept item => if item ∈ kept then kept else kept ++ [item]) kept).Nodup := by
    induction items with
    | nil => exact fun _ distinct => distinct
    | cons item others ih =>
        intro kept distinct
        rw [List.foldl_cons]
        refine ih _ ?_
        split
        · exact distinct
        · next fresh =>
            refine List.nodup_append.2 ⟨distinct, List.nodup_singleton item, ?_⟩
            rintro other inside _ isItem rfl
            exact fresh (List.mem_singleton.1 isItem ▸ inside)
  exact general [] List.nodup_nil

/-- Nothing is left out of a list without repetitions. -/
theorem firsts_of_nodup {items : List α} (distinct : items.Nodup) : firsts items = items := by
  have general : ∀ kept : List α, (kept ++ items).Nodup →
      items.foldl (fun kept item => if item ∈ kept then kept else kept ++ [item]) kept =
        kept ++ items := by
    clear distinct
    induction items with
    | nil => exact fun kept _ => (List.append_nil kept).symm
    | cons item others ih =>
        intro kept distinct
        have fresh : item ∉ kept := fun inside =>
          (List.nodup_append.1 distinct).2.2 item inside item List.mem_cons_self rfl
        rw [List.foldl_cons, if_neg fresh, ih _ (by simpa using distinct), List.append_assoc]
        rfl
  exact general [] distinct

/-- Behind other items, those are left that are not among the other ones. -/
theorem firsts_append (items others : List α) :
    firsts (items ++ others) = firsts items ++ (firsts others).filter (· ∉ items) := by
  induction others using List.reverseRecOn with
  | nil => simp [firsts]
  | append_singleton others last ih =>
      have step (items : List α) : firsts (items ++ [last]) =
          if last ∈ items then firsts items else firsts items ++ [last] := by
        rw [firsts, List.foldl_append]
        change (if last ∈ firsts items then firsts items else firsts items ++ [last]) = _
        simp only [mem_firsts]
      rw [← List.append_assoc, step, step, ih]
      by_cases before : last ∈ items
      · by_cases again : last ∈ others <;> simp [before, again]
      · by_cases again : last ∈ others <;> simp [before, again]

/-- Repetitions may be dropped beforehand. -/
theorem firsts_append_firsts (items others : List α) :
    firsts (firsts items ++ firsts others) = firsts (items ++ others) := by
  rw [firsts_append, firsts_append, firsts_of_nodup (nodup_firsts items),
    firsts_of_nodup (nodup_firsts others)]
  simp only [mem_firsts]

end Firsts

namespace Pool

variable {pool later : Pool} {type : TypeIndex} {entry : PoolEntry}

/-! ## Entries -/

/-- A number stands for a type: a primitive one, or one that the pool made up. -/
def Has (pool : Pool) (type : TypeIndex) : Prop :=
  type.primitive?.isSome ∨ pool.entry type ≠ .reserved

theorem Has.lt_size (has : pool.Has type) : type.number < pool.size := by
  refine has.elim (fun isPrimitive => ?_) Pool.lt_size
  obtain ⟨primitive, isPrimitive⟩ := Option.isSome_iff_exists.1 isPrimitive
  obtain ⟨inside, _⟩ := List.getElem?_eq_some_iff.1 isPrimitive
  exact Nat.lt_of_lt_of_le (Nat.lt_trans inside (by decide)) (Nat.le_add_right _ _)

theorem Has.grow (has : pool.Has type) (grows : pool.Grows later) : later.Has type :=
  has.imp_right fun notReserved => (grows.entry_eq rfl notReserved).symm ▸ notReserved

theorem entry_empty (type : TypeIndex) : empty.entry type = .reserved := by
  simp [Pool.entry, empty]

/-- The entries of a pool with one more entry. -/
theorem entry_of_intern (pool : Pool) (entry : PoolEntry) (type : TypeIndex) :
    (pool.intern entry).2.entry type = pool.entry type ∨
      (pool.intern entry).2.entry type = entry := by
  unfold intern
  split
  · exact .inl rfl
  · next fresh =>
      split
      · next closed =>
          simp only [Pool.entry, push]
          split
          · exact .inl rfl
          · rw [Array.getElem?_push]
            split
            · exact .inr rfl
            · exact .inl rfl
      · exact .inl rfl

/-- The parts of an entry of a pool are in use. -/
theorem lt_size_of_mem_parts (found : pool.entry type = entry) {part : TypeIndex}
    (inside : part ∈ entry.parts) : part.number < pool.size := by
  refine Nat.lt_trans (part_lt found inside) (lt_size (fun reserved => ?_))
  rw [found] at reserved
  rw [reserved] at inside
  cases inside

/-- An entry that a pool has is given the number that it has. -/
theorem intern_of_entry (found : pool.entry type = entry) (notReserved : entry ≠ .reserved) :
    pool.intern entry = (type, pool) := by
  have samePool : (pool.intern entry).2 = pool := by
    unfold intern
    split
    · rfl
    · next unknown =>
        obtain ⟨place, inside, _, isEntry⟩ := exists_place (found ▸ notReserved)
        have absent : entry ∉ pool.entries := by simpa using unknown
        exact absurd (found ▸ isEntry ▸ Array.getElem_mem inside) absent
  have sameEntry := entry_intern fun part isPart => lt_size_of_mem_parts found isPart
  rw [samePool] at sameEntry
  have sameType := eq_of_entry_eq (found ▸ notReserved) (found.trans sameEntry.symm)
  exact Prod.ext sameType.symm samePool

/-- An entry that is made again later is given its number, and nothing is added. -/
theorem intern_again (closed : ∀ part ∈ entry.parts, part.number < pool.size)
    (notReserved : entry ≠ .reserved) (grows : (pool.intern entry).2.Grows later) :
    later.intern entry = ((pool.intern entry).1, later) := by
  have found := grows.entry_eq (entry_intern closed) notReserved
  exact intern_of_entry found notReserved

end Pool

/-! ## Connectives -/

/-- What joins several types to one. -/
inductive Connective where
  | union
  | intersection

namespace Connective

/-- The entry of several types that are joined. -/
def entry : Connective → List TypeIndex → PoolEntry
  | .union => .union
  | .intersection => .intersection

/-- What no type at all is joined to. -/
def unit : Connective → Primitive
  | .union => .never
  | .intersection => .unknown

/-- What a connective makes of some types. -/
def join : Connective → Pool → List TypeIndex → TypeIndex × Pool
  | .union => Pool.union
  | .intersection => Pool.intersection

/-- The members that a type has if it is joined by a connective, and otherwise the type itself. -/
def members : Connective → Pool → TypeIndex → List TypeIndex
  | .union => Pool.unionMembers
  | .intersection => Pool.intersectionMembers

/-- The different members of some types, which are joined. -/
def operands (connective : Connective) (pool : Pool) (types : List TypeIndex) : List TypeIndex :=
  firsts (types.flatMap (connective.members pool))

/-- Several different types, none of which is joined by the same connective. -/
structure Flat (connective : Connective) (pool : Pool) (members : List TypeIndex) : Prop where
  several : 2 ≤ members.length
  distinct : members.Nodup
  flat : ∀ member ∈ members, ∀ others, pool.entry member ≠ connective.entry others

variable {connective : Connective} {pool later : Pool} {type : TypeIndex} {types : List TypeIndex}

theorem entry_ne_reserved : connective.entry types ≠ .reserved := by
  cases connective <;> exact PoolEntry.noConfusion

theorem parts_entry : (connective.entry types).parts = types := by
  cases connective <;> rfl

theorem entry_injective {others : List TypeIndex}
    (same : connective.entry types = connective.entry others) : types = others := by
  rw [← @parts_entry connective types, same, parts_entry]

/-- **How types are joined.** -/
theorem join_eq (connective : Connective) (pool : Pool) (types : List TypeIndex) :
    connective.join pool types =
      match connective.operands pool types with
      | [] => (.ofPrimitive connective.unit, pool)
      | [single] => (single, pool)
      | operands => pool.intern (connective.entry operands) := by
  cases connective <;> rfl

/-- A type is joined by a connective, or is its own only member. -/
theorem members_cases (connective : Connective) (pool : Pool) (type : TypeIndex) :
    (pool.entry type = connective.entry (connective.members pool type)) ∨
      (∀ others, pool.entry type ≠ connective.entry others) ∧
        connective.members pool type = [type] := by
  cases connective
  · simp only [members, Pool.unionMembers, entry]
    split
    · next found => exact .inl found
    · next other => exact .inr ⟨other, rfl⟩
  · simp only [members, Pool.intersectionMembers, entry]
    split
    · next found => exact .inl found
    · next other => exact .inr ⟨other, rfl⟩

theorem members_of_entry (found : pool.entry type = connective.entry types) :
    connective.members pool type = types := by
  rcases connective.members_cases pool type with same | ⟨other, _⟩
  · exact entry_injective (same.symm.trans found)
  · exact absurd found (other types)

theorem members_of_not_entry (other : ∀ others, pool.entry type ≠ connective.entry others) :
    connective.members pool type = [type] := by
  rcases connective.members_cases pool type with same | ⟨_, isOne⟩
  · exact absurd same (other _)
  · exact isOne

/-- The members of a type in use are in use. -/
theorem lt_size_of_mem_members (connective : Connective) (inUse : type.number < pool.size) :
    ∀ member ∈ connective.members pool type, member.number < pool.size := by
  intro member inside
  rcases connective.members_cases pool type with found | ⟨_, isOne⟩
  · exact Pool.lt_size_of_mem_parts found (parts_entry.symm ▸ inside)
  · rw [isOne] at inside
    exact List.mem_singleton.1 inside ▸ inUse

theorem lt_size_of_mem_operands (connective : Connective)
    (inUse : ∀ type ∈ types, type.number < pool.size) :
    ∀ member ∈ connective.operands pool types, member.number < pool.size := by
  intro member inside
  obtain ⟨type, isType, inside⟩ := List.mem_flatMap.1 (mem_firsts.1 inside)
  exact connective.lt_size_of_mem_members (inUse type isType) member inside

theorem grows_join (connective : Connective) (pool : Pool) (types : List TypeIndex) :
    pool.Grows (connective.join pool types).2 := by
  cases connective
  · exact pool.grows_union types
  · exact pool.grows_intersection types

/-- In a pool that grows, types in use keep their members. -/
theorem members_of_grows (connective : Connective) (grows : pool.Grows later)
    (inUse : type.number < pool.size) :
    connective.members later type = connective.members pool type := by
  have same := grows.entry_eq_of_lt inUse
  rcases connective.members_cases pool type with found | ⟨other, isOne⟩
  · exact members_of_entry (same.trans found)
  · rw [isOne]
    exact members_of_not_entry (same.symm ▸ other)

theorem operands_of_grows (connective : Connective) (grows : pool.Grows later)
    (inUse : ∀ type ∈ types, type.number < pool.size) :
    connective.operands later types = connective.operands pool types := by
  refine congrArg firsts (List.flatMap_congr ?_)
  intro type isType
  exact connective.members_of_grows grows (inUse type isType)

/-- What some types are joined to: one type if no other is left, and otherwise an entry. -/
theorem join_cases (connective : Connective) (inUse : ∀ type ∈ types, type.number < pool.size) :
    let made := connective.join pool types
    (connective.operands pool types = [] ∧ made.1 = .ofPrimitive connective.unit) ∨
      connective.operands pool types = [made.1] ∨
      made.2.entry made.1 = connective.entry (connective.operands pool types) := by
  have closed : ∀ part ∈ (connective.entry (connective.operands pool types)).parts,
      part.number < pool.size := by
    rw [parts_entry]
    exact connective.lt_size_of_mem_operands inUse
  intro made
  have isMade : made = _ := connective.join_eq pool types
  rw [isMade]
  generalize connective.operands pool types = operands at closed ⊢
  match operands with
  | [] => exact .inl ⟨rfl, rfl⟩
  | [single] => exact .inr (.inl rfl)
  | first :: second :: others => exact .inr (.inr (Pool.entry_intern closed))

theorem lt_size_join (connective : Connective)
    (inUse : ∀ type ∈ types, type.number < pool.size) :
    (connective.join pool types).1.number < (connective.join pool types).2.size := by
  have grows := connective.grows_join pool types
  rcases connective.join_cases inUse with ⟨_, isUnit⟩ | single | joined
  · rw [isUnit]
    exact (Pool.makes_ofPrimitive id _ connective.unit).inUse
  · have isOperand := single ▸ List.mem_singleton_self _
    exact Nat.lt_of_lt_of_le (connective.lt_size_of_mem_operands inUse _ isOperand) grows.size_le
  · exact Pool.lt_size (joined ▸ entry_ne_reserved)

/-- Types that are joined again later are joined to the same type, and nothing is added. -/
theorem join_again (connective : Connective) (inUse : ∀ type ∈ types, type.number < pool.size)
    (grows : (connective.join pool types).2.Grows later) :
    connective.join later types = ((connective.join pool types).1, later) := by
  have same : connective.operands later types = connective.operands pool types :=
    connective.operands_of_grows ((connective.grows_join pool types).trans grows) inUse
  have closed : ∀ part ∈ (connective.entry (connective.operands pool types)).parts,
      part.number < pool.size := by
    rw [parts_entry]
    exact connective.lt_size_of_mem_operands inUse
  rw [join_eq] at grows
  rw [join_eq, join_eq, same]
  generalize connective.operands pool types = operands at closed grows ⊢
  match operands with
  | [] => rfl
  | [single] => rfl
  | first :: second :: others => exact Pool.intern_again closed entry_ne_reserved grows

/-- Different types that are not joined are joined to an entry of them. -/
theorem join_of_flat (flat : connective.Flat pool types) :
    connective.join pool types = pool.intern (connective.entry types) := by
  have same : connective.operands pool types = types := by
    have own : types.flatMap (connective.members pool) = types := by
      refine (List.flatMap_congr ?_).trans (List.flatMap_singleton' types)
      intro member inside
      exact members_of_not_entry (flat.flat member inside)
    rw [operands, own, firsts_of_nodup flat.distinct]
  have several := flat.several
  rw [join_eq, same]
  match types, several with
  | first :: second :: others, _ => rfl

/-- Types keep being different and not joined in a pool that grows. -/
theorem Flat.grow {members : List TypeIndex} (flat : connective.Flat pool members)
    (inUse : ∀ member ∈ members, member.number < pool.size) (grows : pool.Grows later) :
    connective.Flat later members where
  several := flat.several
  distinct := flat.distinct
  flat member inside := by
    rw [grows.entry_eq_of_lt (inUse member inside)]
    exact flat.flat member inside

end Connective

/-- **What a recipe makes of types in use it makes once:** later the recipe gives the same type, and
adds nothing to the pool. -/
theorem Recipe.build_again {recipe : Recipe} {pool later : Pool} {types : List TypeIndex}
    (takes : recipe.Takes types.length) (inUse : ∀ type ∈ types, type.number < pool.size)
    (grows : (recipe.build types pool).2.Grows later) :
    recipe.build types later = ((recipe.build types pool).1, later) := by
  have made := PoolEntry.recipe?_entry takes
  have closed : ∀ part ∈ (recipe.entry types).parts, part.number < pool.size := by
    intro part inside
    exact inUse part ((PoolEntry.mem_parts_iff_of_recipe? made).1 inside)
  have notReserved : recipe.entry types ≠ .reserved := by
    intro reserved
    rw [reserved] at made
    cases made
  cases recipe with
  | union => exact Connective.union.join_again inUse grows
  | intersection => exact Connective.intersection.join_again inUse grows
  | _ => exact Pool.intern_again closed notReserved grows

/-! ## Flat pools -/

namespace Pool

/-- Joined types have several different members, none of which is joined in the same way. -/
def Flat (pool : Pool) : Prop :=
  ∀ (connective : Connective) type members, pool.entry type = connective.entry members →
    connective.Flat pool members

variable {pool later : Pool} {connective : Connective} {types : List TypeIndex}

theorem flat_empty : empty.Flat := by
  intro connective type members found
  rw [entry_empty] at found
  exact absurd found.symm Connective.entry_ne_reserved

/-- Adding an entry keeps a pool flat if the entry joins types as it should, or not at all. -/
theorem Flat.intern (flat : pool.Flat) {entry : PoolEntry}
    (closed : ∀ part ∈ entry.parts, part.number < pool.size)
    (joins : ∀ connective members, entry = Connective.entry connective members →
      connective.Flat pool members) :
    (pool.intern entry).2.Flat := by
  intro connective type members found
  have grows := pool.grows_intern entry
  rcases pool.entry_of_intern entry type with same | added
  · have before := same.symm.trans found
    refine (flat connective type members before).grow ?_ grows
    intro member inside
    exact lt_size_of_mem_parts before (Connective.parts_entry.symm ▸ inside)
  · have isEntry := added.symm.trans found
    refine (joins connective members isEntry).grow ?_ grows
    intro member inside
    exact closed member (isEntry ▸ Connective.parts_entry.symm ▸ inside)

section Joining

variable (flat : pool.Flat)
include flat

/-- The members of a type are different, and none of them is joined in the same way. -/
theorem Flat.members (connective : Connective) (type : TypeIndex) :
    (connective.members pool type).Nodup ∧
      (∀ member ∈ connective.members pool type, ∀ others,
        pool.entry member ≠ connective.entry others) ∧
      connective.members pool type ≠ [] := by
  rcases connective.members_cases pool type with found | ⟨other, isOne⟩
  · have isFlat := flat connective type _ found
    have several := isFlat.several
    refine ⟨isFlat.distinct, isFlat.flat, ?_⟩
    intro none
    simp [none] at several
  · simp [isOne, other]

theorem Flat.entry_ne_of_mem_operands (connective : Connective) (types : List TypeIndex) :
    ∀ member ∈ connective.operands pool types, ∀ others,
      pool.entry member ≠ connective.entry others := by
  intro member inside
  obtain ⟨type, _, inside⟩ := List.mem_flatMap.1 (mem_firsts.1 inside)
  exact (flat.members connective type).2.1 member inside

/-- **Joining types keeps a pool flat.** -/
theorem Flat.join (connective : Connective) (inUse : ∀ type ∈ types, type.number < pool.size) :
    (connective.join pool types).2.Flat := by
  have distinct : (connective.operands pool types).Nodup := nodup_firsts _
  have single := flat.entry_ne_of_mem_operands connective types
  have closed := connective.lt_size_of_mem_operands inUse
  rw [Connective.join_eq]
  generalize connective.operands pool types = operands at distinct single closed ⊢
  match operands with
  | [] => exact flat
  | [_] => exact flat
  | first :: second :: others =>
      refine flat.intern (by rwa [Connective.parts_entry]) ?_
      intro other members isEntry
      cases connective <;> cases other <;> cases isEntry <;> exact ⟨by simp, distinct, single⟩

/-- Types that are joined give their members to the type that they are joined to. -/
theorem Flat.members_join (connective : Connective)
    (inUse : ∀ type ∈ types, type.number < pool.size) (nonempty : types ≠ []) :
    connective.members (connective.join pool types).2 (connective.join pool types).1 =
      connective.operands pool types := by
  rcases connective.join_cases inUse with ⟨none, _⟩ | single | joined
  · -- each type has a member, so something is left
    obtain ⟨type, others, rfl⟩ := List.exists_cons_of_ne_nil nonempty
    obtain ⟨_, _, some⟩ := flat.members connective type
    obtain ⟨member, inside⟩ := List.exists_mem_of_ne_nil _ some
    have left : member ∈ connective.operands pool (type :: others) :=
      mem_firsts.2 (List.mem_flatMap.2 ⟨type, List.mem_cons_self, inside⟩)
    rw [none] at left
    cases left
  · have other := flat.entry_ne_of_mem_operands connective types _
      (single ▸ List.mem_singleton_self _)
    have samePool : (connective.join pool types).2 = pool := by
      rw [Connective.join_eq, single]
    rw [samePool, Connective.members_of_not_entry other, single]
  · exact Connective.members_of_entry joined

/-- **Joining is associative:** to join what some types are joined to and what others are joined to
is to join all of them. -/
theorem Flat.join_append (connective : Connective) {others : List TypeIndex}
    (inUse : ∀ type ∈ types, type.number < pool.size)
    (othersInUse : ∀ type ∈ others, type.number < pool.size)
    (nonempty : types ≠ []) (othersNonempty : others ≠ []) :
    let first := connective.join pool types
    let second := connective.join first.2 others
    connective.join second.2 [first.1, second.1] = connective.join second.2 (types ++ others) := by
  intro first second
  have grows : pool.Grows first.2 := connective.grows_join pool types
  have further : first.2.Grows second.2 := connective.grows_join first.2 others
  have firstInUse : first.1.number < first.2.size := connective.lt_size_join inUse
  have othersInUse' : ∀ type ∈ others, type.number < first.2.size := by
    intro type isType
    exact Nat.lt_of_lt_of_le (othersInUse type isType) grows.size_le
  have ofTypes : connective.members first.2 first.1 = connective.operands pool types :=
    flat.members_join connective inUse nonempty
  have ofOthers : connective.members second.2 second.1 = connective.operands first.2 others :=
    (flat.join connective inUse).members_join connective othersInUse' othersNonempty
  have same : connective.operands second.2 [first.1, second.1] =
      connective.operands second.2 (types ++ others) := by
    calc connective.operands second.2 [first.1, second.1]
        = firsts (connective.operands pool types ++ connective.operands first.2 others) := by
          rw [Connective.operands, List.flatMap_cons, List.flatMap_singleton, ofOthers,
            connective.members_of_grows further firstInUse, ofTypes]
      _ = firsts (connective.operands second.2 types ++ connective.operands second.2 others) := by
          rw [connective.operands_of_grows (grows.trans further) inUse,
            connective.operands_of_grows further othersInUse']
      _ = connective.operands second.2 (types ++ others) := by
          rw [Connective.operands, Connective.operands, Connective.operands, firsts_append_firsts,
            List.flatMap_append]
  rw [Connective.join_eq, Connective.join_eq, same]

/-- **Joining is idempotent.** -/
theorem Flat.join_self (connective : Connective) (type : TypeIndex) :
    connective.join pool [type, type] = (type, pool) := by
  have same : connective.operands pool [type, type] = connective.members pool type := by
    rw [Connective.operands, List.flatMap_cons, List.flatMap_singleton, firsts_append,
      firsts_of_nodup (flat.members connective type).1, List.filter_eq_nil_iff.2 (by simp),
      List.append_nil]
  rcases connective.members_cases pool type with found | ⟨_, isOne⟩
  · have several := (flat connective type _ found).several
    have known := intern_of_entry found Connective.entry_ne_reserved
    rw [Connective.join_eq, same]
    generalize connective.members pool type = members at several known
    match members, several with
    | first :: second :: others, _ => exact known
  · rw [Connective.join_eq, same, isOne]

end Joining

end Pool

end InjectionCheck
