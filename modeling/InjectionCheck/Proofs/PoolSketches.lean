import InjectionCheck.Proofs.Sketches
import InjectionCheck.Proofs.TypeGrowth
import Mathlib.Data.List.Nodup

/-!
# What the types of a pool are made of

A type of a pool refers to its parts by number, and what the numbers are depends on the order in
which types were made. Its sketch (`Pool.sketchBy`) does not: there each number is replaced by what
it stands for, and the number of a declaration by a key of it. Since no entry has two numbers,
types with one sketch are the same type (`sketchBy_injective`); a pool that grows keeps the sketches
of its types (`Grows.sketchBy_eq`); and the sketch of what a recipe makes is told by the sketches of
the parts (`sketchBy_build`).
-/

set_option autoImplicit false

namespace InjectionCheck

/-! ## Deciding whether sketches are the same -/

namespace Sketch

variable {α : Type} [DecidableEq α]

mutual

/-- Whether two sketches are the same. -/
def decEq : (first second : Sketch α) → Decidable (first = second)
  | .known primitive, .known other => decidable_of_iff (primitive = other) (by simp)
  | .use target, .use other => decidable_of_iff (target = other) (by simp)
  | .make recipe parts, .make other others =>
    have := decEqAll parts others
    decidable_of_iff (recipe = other ∧ parts = others) (by simp)
  | .known _, .use _ | .known _, .make _ _ | .use _, .known _ | .use _, .make _ _
  | .make _ _, .known _ | .make _ _, .use _ => isFalse nofun

/-- Whether two lists of sketches are the same. -/
def decEqAll : (first second : List (Sketch α)) → Decidable (first = second)
  | [], [] => isTrue rfl
  | part :: others, part' :: others' =>
    have := decEq part part'
    have := decEqAll others others'
    decidable_of_iff (part = part' ∧ others = others') (by simp)
  | [], _ :: _ | _ :: _, [] => isFalse nofun

end

instance : DecidableEq (Sketch α) := decEq

end Sketch

/-- What a sketch of a type uses: a declaration, or a number that stands for nothing else. -/
inductive Leaf (κ : Type) where
  | number (number : Nat)
  | named (declaration : κ) (name : String)
deriving DecidableEq

/-! ## Entries as recipes -/

/-- What a function type says of a parameter. -/
def TypeParameter.label (parameter : TypeParameter) : ParameterLabel :=
  ⟨parameter.name, parameter.optional⟩

/-- What an object type says of a member. -/
def Member.label (member : Member) : MemberLabel :=
  ⟨member.name, member.optional, member.access, member.isMethod⟩

/-- The entry that a recipe makes of some parts. -/
def Recipe.entry (types : List TypeIndex) : Recipe → PoolEntry
  | .unresolved name => .unresolved name
  | .stringLiteral content => .stringLiteral content
  | .array => .array (types.headD .error)
  | .tuple => .tuple types
  | .union => .union types
  | .intersection => .intersection types
  | .function parameters =>
    .function ⟨List.zipWith ParameterLabel.parameter parameters types, types.getLastD .error⟩
  | .object members => .object (List.zipWith MemberLabel.member members types)

namespace PoolEntry

/-- The recipe of an entry and the parts that it is made of. -/
def recipe? : PoolEntry → Option (Recipe × List TypeIndex)
  | .reserved | .named _ _ => none
  | .unresolved name => some (.unresolved name, [])
  | .stringLiteral content => some (.stringLiteral content, [])
  | .array element => some (.array, [element])
  | .tuple elements => some (.tuple, elements)
  | .union members => some (.union, members)
  | .intersection members => some (.intersection, members)
  | .function signature =>
    some (.function (signature.parameters.map TypeParameter.label),
      signature.parameters.map TypeParameter.type ++ [signature.result])
  | .object members => some (.object (members.map Member.label), members.map Member.type)

variable {entry : PoolEntry} {recipe : Recipe} {pieces : List TypeIndex}

/-- An entry is made of its parts. -/
theorem mem_parts_iff_of_recipe? (made : entry.recipe? = some (recipe, pieces))
    {piece : TypeIndex} : piece ∈ entry.parts ↔ piece ∈ pieces := by
  cases entry with
  | reserved => cases made
  | named declaration name => cases made
  | function signature =>
      cases made
      rw [parts, List.mem_cons, List.mem_append, List.mem_singleton, or_comm]
  | _ => cases made; rfl

theorem takes_of_recipe? (made : entry.recipe? = some (recipe, pieces)) :
    recipe.Takes pieces.length := by
  cases entry with
  | reserved => cases made
  | named declaration name => cases made
  | _ => cases made; simp [Recipe.Takes]

/-- The recipe of an entry makes it. -/
theorem entry_of_recipe? (made : entry.recipe? = some (recipe, pieces)) :
    recipe.entry pieces = entry := by
  cases entry with
  | reserved => cases made
  | named declaration name => cases made
  | function signature =>
      cases made
      obtain ⟨parameters, result⟩ := signature
      simp only [Recipe.entry, function.injEq, Signature.mk.injEq, List.getLastD_concat, and_true]
      induction parameters with
      | nil => rfl
      | cons parameter others ih => exact congrArg (parameter :: ·) ih
  | object members =>
      cases made
      simp only [Recipe.entry, List.zipWith_map, List.zipWith_self]
      exact congrArg object (List.map_id' members)
  | _ => cases made; rfl

theorem map_parameter {labels : List ParameterLabel} {types : List TypeIndex}
    (same : types.length = labels.length) :
    (List.zipWith ParameterLabel.parameter labels types).map TypeParameter.label = labels ∧
      (List.zipWith ParameterLabel.parameter labels types).map TypeParameter.type = types := by
  induction labels generalizing types with
  | nil => simp [List.length_eq_zero_iff.1 same]
  | cons label labels ih =>
      cases types with
      | nil => cases same
      | cons type types =>
          obtain ⟨sameLabels, sameTypes⟩ := ih (Nat.succ.inj same)
          exact ⟨congrArg (label :: ·) sameLabels, congrArg (type :: ·) sameTypes⟩

theorem map_member {labels : List MemberLabel} {types : List TypeIndex}
    (same : types.length = labels.length) :
    (List.zipWith MemberLabel.member labels types).map Member.label = labels ∧
      (List.zipWith MemberLabel.member labels types).map Member.type = types := by
  induction labels generalizing types with
  | nil => simp [List.length_eq_zero_iff.1 same]
  | cons label labels ih =>
      cases types with
      | nil => cases same
      | cons type types =>
          obtain ⟨sameLabels, sameTypes⟩ := ih (Nat.succ.inj same)
          exact ⟨congrArg (label :: ·) sameLabels, congrArg (type :: ·) sameTypes⟩

/-- A recipe gets back the parts that it makes an entry of. -/
theorem recipe?_entry {recipe : Recipe} {types : List TypeIndex}
    (takes : recipe.Takes types.length) : (recipe.entry types).recipe? = some (recipe, types) := by
  cases recipe with
  | unresolved name => rw [List.length_eq_zero_iff.1 takes]; rfl
  | stringLiteral content => rw [List.length_eq_zero_iff.1 takes]; rfl
  | array =>
      obtain ⟨element, rfl⟩ := List.length_eq_one_iff.1 takes
      rfl
  | tuple => rfl
  | union => rfl
  | intersection => rfl
  | function labels =>
      obtain rfl | ⟨types, result, rfl⟩ := List.eq_nil_or_concat' types
      · cases takes
      · have same : types.length = labels.length := by
          simpa [Recipe.Takes] using takes
        simp only [Recipe.entry, recipe?, zipWith_concat same, map_parameter same,
          List.getLastD_concat]
  | object labels => simp only [Recipe.entry, recipe?, map_member takes]

/-- What an entry that has no recipe stands for. -/
def leaf {κ : Type} (key : Nat → κ) (type : TypeIndex) : PoolEntry → Leaf κ
  | .named declaration name => .named (key declaration) name
  | _ => .number type.number

end PoolEntry

/-! ## Sketches of types -/

namespace Pool

variable {κ : Type} (key : Nat → κ) {pool : Pool} {type other : TypeIndex}

/-- The sketch of a type, with a key for each declaration. -/
def sketchBy (pool : Pool) (type : TypeIndex) : Sketch (Leaf κ) :=
  match type.primitive? with
  | some primitive => .known primitive
  | none =>
    match _ : (pool.entry type).recipe? with
    | some (recipe, pieces) =>
      .make recipe (pieces.attach.map fun ⟨piece, _⟩ => sketchBy pool piece)
    | none => .use ((pool.entry type).leaf key type)
termination_by type.number
decreasing_by exact part_lt rfl ((PoolEntry.mem_parts_iff_of_recipe? ‹_›).2 ‹_›)

theorem sketchBy_of_primitive {primitive : Primitive} (isPrimitive : type.primitive? = some primitive) :
    pool.sketchBy key type = .known primitive := by
  rw [sketchBy, isPrimitive]

theorem sketchBy_of_recipe {recipe : Recipe} {pieces : List TypeIndex}
    (dynamic : type.primitive? = none)
    (made : (pool.entry type).recipe? = some (recipe, pieces)) :
    pool.sketchBy key type = .make recipe (pieces.map (pool.sketchBy key)) := by
  rw [sketchBy, dynamic]
  dsimp only
  split
  · next recipe' pieces' made' =>
      rw [made] at made'
      cases made'
      exact congrArg _ (List.attach_map_val ..)
  · next none => rw [made] at none; cases none

theorem sketchBy_of_leaf (dynamic : type.primitive? = none)
    (made : (pool.entry type).recipe? = none) :
    pool.sketchBy key type = .use ((pool.entry type).leaf key type) := by
  rw [sketchBy, dynamic]
  dsimp only
  split
  · next recipe' pieces' made' => rw [made] at made'; cases made'
  · rfl

end Pool

/-! ## Types with one sketch -/

/-- A primitive type has one number. -/
theorem TypeIndex.eq_of_primitive? {type other : TypeIndex} {primitive : Primitive}
    (isPrimitive : type.primitive? = some primitive)
    (isPrimitive' : other.primitive? = some primitive) : type = other := by
  obtain ⟨number⟩ := type
  obtain ⟨number'⟩ := other
  obtain ⟨inside, _⟩ := List.getElem?_eq_some_iff.1 isPrimitive
  exact congrArg _ ((List.getElem?_inj inside (by decide)).1
    (isPrimitive.trans isPrimitive'.symm))

namespace Pool

variable {κ : Type} (key : Nat → κ) {pool : Pool} {type other : TypeIndex}

/-- A number that stands for something has a place among the entries. -/
theorem exists_place (found : pool.entry type ≠ .reserved) :
    ∃ (place : Nat) (inside : place < pool.entries.size),
      type = ⟨TypeIndex.reservedCount + place⟩ ∧ pool.entry type = pool.entries[place] := by
  have inUse := lt_size found
  obtain ⟨number⟩ := type
  unfold Pool.entry at found ⊢
  split at found
  · exact absurd rfl found
  · next dynamic =>
      simp only [TypeIndex.isReserved, decide_eq_true_eq, Nat.not_lt] at dynamic
      simp only [size] at inUse
      have inside : number - TypeIndex.reservedCount < pool.entries.size := by omega
      refine ⟨number - TypeIndex.reservedCount, inside, ?_, ?_⟩
      · rw [Nat.add_sub_cancel' dynamic]
      · rw [if_neg (by simpa [TypeIndex.isReserved] using dynamic),
          Array.getElem?_eq_getElem inside, Option.getD_some]

/-- A number that stands for an entry is not that of a primitive type. -/
theorem primitive?_eq_none (found : pool.entry type ≠ .reserved) : type.primitive? = none := by
  obtain ⟨place, _, rfl, _⟩ := exists_place found
  refine List.getElem?_eq_none (Nat.le_trans ?_ (Nat.le_add_right _ place))
  decide

/-- An entry has one number. -/
theorem eq_of_entry_eq (found : pool.entry type ≠ .reserved)
    (same : pool.entry type = pool.entry other) : type = other := by
  obtain ⟨place, inside, rfl, isEntry⟩ := exists_place found
  obtain ⟨place', inside', rfl, isEntry'⟩ := exists_place (same ▸ found)
  rw [isEntry, isEntry', ← Array.getElem_toList, ← Array.getElem_toList] at same
  have samePlace : place = place' := (List.Nodup.getElem_inj_iff pool.distinct).1 same
  rw [samePlace]

/-- Lists whose images are the same are the same where the function is injective. -/
theorem eq_of_map_eq {α β : Type} {look : α → β} {items others : List α}
    (injective : ∀ item ∈ items, ∀ other, look item = look other → item = other)
    (same : items.map look = others.map look) : items = others := by
  induction items generalizing others with
  | nil => exact (List.map_eq_nil_iff.1 same.symm).symm
  | cons item items ih =>
      cases others with
      | nil => cases same
      | cons other others =>
          obtain ⟨first, rest⟩ := List.cons.inj same
          rw [injective item List.mem_cons_self other first,
            ih (fun item inside => injective item (List.mem_cons_of_mem _ inside)) rest]

theorem entry_ne_reserved {recipe : Recipe} {pieces : List TypeIndex}
    (made : (pool.entry type).recipe? = some (recipe, pieces)) : pool.entry type ≠ .reserved := by
  intro reserved
  rw [reserved] at made
  cases made

/-- A type is primitive, or made by a recipe, or the instances of a declaration, or a number that
stands for nothing. -/
theorem sketchBy_cases (pool : Pool) (type : TypeIndex) :
    (∃ primitive, type.primitive? = some primitive ∧ pool.sketchBy key type = .known primitive) ∨
    (∃ recipe pieces, (pool.entry type).recipe? = some (recipe, pieces) ∧
      pool.sketchBy key type = .make recipe (pieces.map (pool.sketchBy key))) ∨
    (∃ declaration name, pool.entry type = .named declaration name ∧
      pool.sketchBy key type = .use (.named (key declaration) name)) ∨
    (pool.entry type = .reserved ∧ pool.sketchBy key type = .use (.number type.number)) := by
  cases isPrimitive : type.primitive? with
  | some primitive => exact .inl ⟨primitive, rfl, sketchBy_of_primitive key isPrimitive⟩
  | none =>
      refine .inr ?_
      cases made : (pool.entry type).recipe? with
      | some found => exact .inl ⟨_, _, rfl, sketchBy_of_recipe key isPrimitive made⟩
      | none =>
          refine .inr ?_
          have sketched := sketchBy_of_leaf key isPrimitive made
          cases found : pool.entry type with
          | reserved => exact .inr ⟨rfl, by rw [sketched, found]; rfl⟩
          | named declaration name => exact .inl ⟨_, _, rfl, by rw [sketched, found]; rfl⟩
          | _ => rw [found] at made; cases made

/-- **Types with one sketch are the same type.** -/
theorem sketchBy_injective (keys : Function.Injective key) (type other : TypeIndex)
    (same : pool.sketchBy key type = pool.sketchBy key other) : type = other := by
  induction number : type.number using Nat.strongRecOn generalizing type other with
  | _ number ih =>
      subst number
      rcases sketchBy_cases key pool type with ⟨primitive, isPrimitive, sketched⟩ |
        ⟨recipe, pieces, made, sketched⟩ | ⟨declaration, name, found, sketched⟩ |
        ⟨reserved, sketched⟩ <;>
      rcases sketchBy_cases key pool other with ⟨primitive', isPrimitive', sketched'⟩ |
        ⟨recipe', pieces', made', sketched'⟩ | ⟨declaration', name', found', sketched'⟩ |
        ⟨reserved', sketched'⟩ <;>
      rw [sketched, sketched'] at same <;> try cases same
      · exact TypeIndex.eq_of_primitive? isPrimitive isPrimitive'
      · obtain ⟨rfl, samePieces⟩ := Sketch.make.inj same
        have pieces_eq : pieces = pieces' := eq_of_map_eq (fun piece inside other same =>
          ih piece.number (part_lt rfl ((PoolEntry.mem_parts_iff_of_recipe? made).2 inside))
            piece other same rfl) samePieces
        subst pieces_eq
        exact eq_of_entry_eq (entry_ne_reserved made)
          ((PoolEntry.entry_of_recipe? made).symm.trans (PoolEntry.entry_of_recipe? made'))
      · obtain ⟨sameKey, rfl⟩ := Leaf.named.inj (Sketch.use.inj same)
        rw [← keys sameKey] at found'
        exact eq_of_entry_eq (by rw [found]; exact PoolEntry.noConfusion) (found.trans found'.symm)
      · exact congrArg TypeIndex.mk (Leaf.number.inj (Sketch.use.inj same))

/-! ## Pools that grow -/

theorem Grows.size_le {grown : Pool} (grows : pool.Grows grown) : pool.size ≤ grown.size := by
  have := grows.length_le
  simp only [Array.length_toList] at this
  simp only [size]
  omega

/-- In a pool that grows, numbers in use keep what they stand for. -/
theorem Grows.entry_eq_of_lt {grown : Pool} (grows : pool.Grows grown)
    (inUse : type.number < pool.size) : grown.entry type = pool.entry type := by
  unfold Pool.entry
  split
  · rfl
  · next dynamic =>
      simp only [TypeIndex.isReserved, decide_eq_true_eq, Nat.not_lt] at dynamic
      simp only [size] at inUse
      have inside : type.number - TypeIndex.reservedCount < pool.entries.toList.length := by
        rw [Array.length_toList]
        omega
      rw [← Array.getElem?_toList, ← Array.getElem?_toList, List.prefix_iff_getElem?.1 grows _ inside,
        List.getElem?_eq_getElem inside]

/-- **A pool that grows keeps the sketches of its types.** -/
theorem Grows.sketchBy_eq {grown : Pool} (grows : pool.Grows grown) (type : TypeIndex)
    (inUse : type.number < pool.size) : grown.sketchBy key type = pool.sketchBy key type := by
  induction number : type.number using Nat.strongRecOn generalizing type with
  | _ number ih =>
      subst number
      have same := grows.entry_eq_of_lt inUse
      cases isPrimitive : type.primitive? with
      | some primitive =>
          rw [sketchBy_of_primitive key isPrimitive, sketchBy_of_primitive key isPrimitive]
      | none =>
          cases made : (pool.entry type).recipe? with
          | none =>
              rw [sketchBy_of_leaf key isPrimitive made,
                sketchBy_of_leaf key isPrimitive (same ▸ made), same]
          | some found =>
              obtain ⟨recipe, pieces⟩ := found
              rw [sketchBy_of_recipe key isPrimitive made,
                sketchBy_of_recipe key isPrimitive (same ▸ made)]
              refine congrArg (Sketch.make recipe) (List.map_congr_left fun piece inside => ?_)
              have less := part_lt rfl ((PoolEntry.mem_parts_iff_of_recipe? made).2 inside)
              exact ih piece.number less piece (Nat.lt_trans less inUse) rfl

end Pool

/-! ## What recipes make -/

/-- The elements of a list without repetitions, each at its first place. -/
def firsts {α : Type} [DecidableEq α] (items : List α) : List α :=
  items.foldl (fun kept item => if item ∈ kept then kept else kept ++ [item]) []

theorem map_firsts {α β : Type} [DecidableEq α] [DecidableEq β] {look : α → β}
    (injective : Function.Injective look) (items : List α) :
    (firsts items).map look = firsts (items.map look) := by
  have general : ∀ kept : List α,
      (items.foldl (fun kept item => if item ∈ kept then kept else kept ++ [item]) kept).map look =
        (items.map look).foldl (fun kept item => if item ∈ kept then kept else kept ++ [item])
          (kept.map look) := by
    induction items with
    | nil => exact fun _ => rfl
    | cons item others ih =>
        intro kept
        rw [List.foldl_cons, List.map_cons, List.foldl_cons, ih]
        simp only [List.mem_map_of_injective injective]
        split <;> simp
  exact general []

theorem mem_firsts {α : Type} [DecidableEq α] {items : List α} {item : α} :
    item ∈ firsts items ↔ item ∈ items := by
  have general : ∀ kept : List α,
      item ∈ items.foldl (fun kept item => if item ∈ kept then kept else kept ++ [item]) kept ↔
        item ∈ kept ∨ item ∈ items := by
    induction items with
    | nil => simp
    | cons first others ih =>
        intro kept
        rw [List.foldl_cons, ih]
        split
        · next known =>
            simp only [List.mem_cons]
            constructor
            · rintro (inside | inside)
              · exact .inl inside
              · exact .inr (.inr inside)
            · rintro (inside | rfl | inside)
              · exact .inl inside
              · exact .inl known
              · exact .inr inside
        · simp [or_assoc]
  rw [firsts, general]
  simp

namespace Recipe

variable {κ : Type} [DecidableEq κ]

/-- The members of a union, if a sketch is one, and otherwise the sketch itself. -/
def unionParts : Sketch κ → List (Sketch κ)
  | .make .union parts => parts
  | sketch => [sketch]

/-- The members of an intersection, if a sketch is one, and otherwise the sketch itself. -/
def intersectionParts : Sketch κ → List (Sketch κ)
  | .make .intersection parts => parts
  | sketch => [sketch]

/-- The sketch of what a recipe makes of types with some sketches. -/
def sketch (parts : List (Sketch κ)) : Recipe → Sketch κ
  | .union =>
    match firsts (parts.flatMap unionParts) with
    | [] => .known .never
    | [single] => single
    | members => .make .union members
  | .intersection =>
    match firsts (parts.flatMap intersectionParts) with
    | [] => .known .unknown
    | [single] => single
    | members => .make .intersection members
  | recipe => .make recipe parts

end Recipe

namespace Pool

variable {κ : Type} (key : Nat → κ) {pool : Pool}

/-- A type of a pool that grew has some sketch. -/
structure Makes (pool : Pool) (made : TypeIndex × Pool) (sketch : Sketch (Leaf κ)) : Prop where
  grows : pool.Grows made.2
  inUse : made.1.number < made.2.size
  sketch_eq : made.2.sketchBy key made.1 = sketch

/-- An entry of types in use gets a number, and is sketched by its recipe. -/
theorem makes_intern {recipe : Recipe} {types : List TypeIndex}
    (takes : recipe.Takes types.length) (inUse : ∀ type ∈ types, type.number < pool.size) :
    pool.Makes key (pool.intern (recipe.entry types))
      (.make recipe (types.map (pool.sketchBy key))) := by
  have made := PoolEntry.recipe?_entry takes
  have grows := pool.grows_intern (recipe.entry types)
  have found := entry_intern fun part isPart =>
    inUse part ((PoolEntry.mem_parts_iff_of_recipe? made).1 isPart)
  have made' := (congrArg PoolEntry.recipe? found).trans made
  have isEntry := entry_ne_reserved made'
  refine ⟨grows, lt_size isEntry, ?_⟩
  rw [sketchBy_of_recipe key (primitive?_eq_none isEntry) made']
  exact congrArg _ (List.map_congr_left fun type inside => grows.sketchBy_eq key type (inUse type inside))

theorem primitive?_ofPrimitive (primitive : Primitive) :
    (TypeIndex.ofPrimitive primitive).primitive? = some primitive := by
  cases primitive <;> rfl

/-- A primitive type is in every pool. -/
theorem makes_ofPrimitive (pool : Pool) (primitive : Primitive) :
    pool.Makes key (.ofPrimitive primitive, pool) (.known primitive) := by
  refine ⟨.refl pool, ?_, sketchBy_of_primitive key (primitive?_ofPrimitive primitive)⟩
  have : primitive.index < TypeIndex.reservedCount := by cases primitive <;> decide
  exact Nat.lt_of_lt_of_le this (Nat.le_add_right _ _)

/-- The arrays of a type in use. -/
theorem makes_array {element : TypeIndex} (inUse : element.number < pool.size) :
    pool.Makes key (pool.array element) (.make .array [pool.sketchBy key element]) :=
  @makes_intern κ key pool .array [element] rfl (List.forall_mem_singleton.2 inUse)

theorem map_unionMembers (pool : Pool) (type : TypeIndex) :
    (pool.unionMembers type).map (pool.sketchBy key) =
      Recipe.unionParts (pool.sketchBy key type) := by
  unfold unionMembers
  split
  · next members found =>
      have made : (pool.entry type).recipe? = some (.union, members) := by rw [found]; rfl
      rw [sketchBy_of_recipe key (primitive?_eq_none (entry_ne_reserved made)) made]
      rfl
  · next other =>
      rcases sketchBy_cases key pool type with ⟨_, _, sketched⟩ | ⟨recipe, pieces, made, sketched⟩ |
        ⟨_, _, _, sketched⟩ | ⟨_, sketched⟩ <;> rw [List.map_singleton, sketched]
      · rfl
      · cases recipe with
        | union => exact absurd (PoolEntry.entry_of_recipe? made).symm (other pieces)
        | _ => rfl
      · rfl
      · rfl

theorem map_intersectionMembers (pool : Pool) (type : TypeIndex) :
    (pool.intersectionMembers type).map (pool.sketchBy key) =
      Recipe.intersectionParts (pool.sketchBy key type) := by
  unfold intersectionMembers
  split
  · next members found =>
      have made : (pool.entry type).recipe? = some (.intersection, members) := by rw [found]; rfl
      rw [sketchBy_of_recipe key (primitive?_eq_none (entry_ne_reserved made)) made]
      rfl
  · next other =>
      rcases sketchBy_cases key pool type with ⟨_, _, sketched⟩ | ⟨recipe, pieces, made, sketched⟩ |
        ⟨_, _, _, sketched⟩ | ⟨_, sketched⟩ <;> rw [List.map_singleton, sketched]
      · rfl
      · cases recipe with
        | intersection => exact absurd (PoolEntry.entry_of_recipe? made).symm (other pieces)
        | _ => rfl
      · rfl
      · rfl

/-- The members of types in use are in use. -/
theorem lt_size_of_mem_unionMembers {type member : TypeIndex} (inUse : type.number < pool.size)
    (inside : member ∈ pool.unionMembers type) : member.number < pool.size := by
  unfold unionMembers at inside
  split at inside
  · next members found => exact Nat.lt_trans (part_lt found inside) inUse
  · exact List.mem_singleton.1 inside ▸ inUse

theorem lt_size_of_mem_intersectionMembers {type member : TypeIndex}
    (inUse : type.number < pool.size) (inside : member ∈ pool.intersectionMembers type) :
    member.number < pool.size := by
  unfold intersectionMembers at inside
  split at inside
  · next members found => exact Nat.lt_trans (part_lt found inside) inUse
  · exact List.mem_singleton.1 inside ▸ inUse

section Unions

variable [DecidableEq κ]

/-- The distinct members of some types, sketched. -/
theorem map_withoutRepeats (keys : Function.Injective key) (types : List TypeIndex)
    {members : TypeIndex → List TypeIndex} {parts : Sketch (Leaf κ) → List (Sketch (Leaf κ))}
    (sketched : ∀ type, (members type).map (pool.sketchBy key) = parts (pool.sketchBy key type)) :
    (withoutRepeats (types.flatMap members)).map (pool.sketchBy key) =
      firsts ((types.map (pool.sketchBy key)).flatMap parts) := by
  have injective : Function.Injective (pool.sketchBy key) := sketchBy_injective key keys
  have distinct := map_firsts injective (types.flatMap members)
  refine (congrArg _ (by rfl)).trans (distinct.trans (congrArg firsts ?_))
  rw [List.map_flatMap, List.flatMap_map]
  exact congrArg (List.flatMap · types) (funext sketched)

theorem mem_of_mem_withoutRepeats {types : List TypeIndex} {type : TypeIndex}
    (inside : type ∈ withoutRepeats types) : type ∈ types := mem_firsts.1 inside

/-- **What a recipe makes of types in use is sketched by the recipe.** -/
theorem makes_build (keys : Function.Injective key) {recipe : Recipe} {types : List TypeIndex}
    (takes : recipe.Takes types.length) (inUse : ∀ type ∈ types, type.number < pool.size) :
    pool.Makes key (recipe.build types pool) (recipe.sketch (types.map (pool.sketchBy key))) := by
  cases recipe with
  | union =>
      have members := map_withoutRepeats key keys types (map_unionMembers key pool)
      have membersInUse : ∀ member ∈ withoutRepeats (types.flatMap pool.unionMembers),
          member.number < pool.size := by
        intro member inside
        obtain ⟨type, isType, inside⟩ := List.mem_flatMap.1 (mem_of_mem_withoutRepeats inside)
        exact lt_size_of_mem_unionMembers (inUse type isType) inside
      simp only [Recipe.build, Recipe.sketch, union, ← members]
      generalize withoutRepeats (types.flatMap pool.unionMembers) = distinct at membersInUse
      match distinct with
      | [] => exact makes_ofPrimitive key pool .never
      | [single] => exact ⟨.refl pool, membersInUse single List.mem_cons_self, rfl⟩
      | first :: second :: others =>
          exact @makes_intern κ key pool .union _ trivial membersInUse
  | intersection =>
      have members := map_withoutRepeats key keys types (map_intersectionMembers key pool)
      have membersInUse : ∀ member ∈ withoutRepeats (types.flatMap pool.intersectionMembers),
          member.number < pool.size := by
        intro member inside
        obtain ⟨type, isType, inside⟩ := List.mem_flatMap.1 (mem_of_mem_withoutRepeats inside)
        exact lt_size_of_mem_intersectionMembers (inUse type isType) inside
      simp only [Recipe.build, Recipe.sketch, intersection, ← members]
      generalize withoutRepeats (types.flatMap pool.intersectionMembers) = distinct at membersInUse
      match distinct with
      | [] => exact makes_ofPrimitive key pool .unknown
      | [single] => exact ⟨.refl pool, membersInUse single List.mem_cons_self, rfl⟩
      | first :: second :: others =>
          exact @makes_intern κ key pool .intersection _ trivial membersInUse
  | _ => exact makes_intern key takes inUse

end Unions

end Pool

/-! ## How sketches are written -/

/-- How a type is written, depending on what is around it. -/
structure Written where
  /-- The type by itself. -/
  text : String
  /-- The type as a member of a union or intersection, or as the element of an array. -/
  operand : String
  /-- The type behind the name of a method. -/
  signature : String

/-- A type that never mixes with what is around it. -/
def Written.plain (text : String) : Written := ⟨text, text, ": " ++ text⟩

/-- A type that is put in parentheses where it would mix with what is around it. -/
def Written.loose (text : String) : Written := ⟨text, "(" ++ text ++ ")", ": " ++ text⟩

/-- How the parameters of a function type are written. -/
def ParameterLabel.written (labels : List ParameterLabel) (parts : List Written) : String :=
  "(" ++ ", ".intercalate (List.zipWith (fun label part =>
    Pool.optionalName label.name label.optional ++ ": " ++ part.text) labels parts) ++ ")"

/-- How what a recipe makes is written. -/
def Recipe.written (parts : List Written) : Recipe → Written
  | .unresolved name => .plain name
  | .stringLiteral content => .plain ("\"" ++ content ++ "\"")
  | .array => .plain ((parts.map Written.operand).headD "" ++ "[]")
  | .tuple => .plain ("[" ++ ", ".intercalate (parts.map Written.text) ++ "]")
  | .union => .loose (" | ".intercalate (parts.map Written.operand))
  | .intersection => .loose (" & ".intercalate (parts.map Written.operand))
  | .function labels =>
    let parameters := ParameterLabel.written labels parts
    let result := (parts.map Written.text).getLastD ""
    { Written.loose (parameters ++ " => " ++ result) with
      signature := parameters ++ ": " ++ result }
  | .object labels =>
    .plain (Pool.bracedMembers (List.zipWith (fun label part =>
      Pool.optionalName label.name label.optional ++
        if label.isMethod then part.signature else ": " ++ part.text) labels parts))

/-- How a type is written that is not made of others. -/
def Leaf.written {κ : Type} : Leaf κ → Written
  | .number _ => .plain "<reserved>"
  | .named _ name => .plain name

/-- How a type with a sketch is written. -/
def Sketch.written {κ : Type} : Sketch (Leaf κ) → Written :=
  fold (fun primitive => .plain primitive.text) Leaf.written fun recipe parts =>
    recipe.written parts

@[simp]
theorem Sketch.written_make {κ : Type} (recipe : Recipe) (parts : List (Sketch (Leaf κ))) :
    written (.make recipe parts) = recipe.written (parts.map written) :=
  fold_make ..

namespace Pool

variable {κ : Type} (key : Nat → κ) {pool : Pool}

theorem written_of_recipe {type : TypeIndex} {recipe : Recipe} {pieces : List TypeIndex}
    (made : (pool.entry type).recipe? = some (recipe, pieces)) :
    (pool.sketchBy key type).written =
      recipe.written (pieces.map fun piece => (pool.sketchBy key piece).written) := by
  rw [sketchBy_of_recipe key (primitive?_eq_none (entry_ne_reserved made)) made,
    Sketch.written_make, List.map_map]
  rfl

/-- A type inside others is put in parentheses if it is a union, an intersection or a function. -/
theorem operandText_written (pool : Pool) (type : TypeIndex) :
    pool.operandText type (pool.sketchBy key type).written.text =
      (pool.sketchBy key type).written.operand := by
  unfold operandText
  split
  · next members found =>
      rw [@written_of_recipe _ key pool _ .union members (by rw [found]; rfl)]
      rfl
  · next members found =>
      rw [@written_of_recipe _ key pool _ .intersection members (by rw [found]; rfl)]
      rfl
  · next signature found =>
      rw [written_of_recipe key (congrArg PoolEntry.recipe? found)]
      rfl
  · next notUnion notIntersection notFunction =>
      rcases sketchBy_cases key pool type with ⟨_, _, sketched⟩ | ⟨recipe, pieces, made, sketched⟩ |
        ⟨_, _, _, sketched⟩ | ⟨_, sketched⟩
      · rw [sketched]; rfl
      · rw [written_of_recipe key made]
        have isEntry := (PoolEntry.entry_of_recipe? made).symm
        cases recipe with
        | union => exact absurd isEntry (notUnion _)
        | intersection => exact absurd isEntry (notIntersection _)
        | function labels => exact absurd isEntry (notFunction _)
        | _ => rfl
      · rw [sketched]; rfl
      · rw [sketched]; rfl

/-- The parameters of a function type, written. -/
theorem written_parameters (signature : Signature) :
    ParameterLabel.written (signature.parameters.map TypeParameter.label)
        ((signature.parameters.map TypeParameter.type ++ [signature.result]).map fun piece =>
          (pool.sketchBy key piece).written) =
      "(" ++ ", ".intercalate (signature.parameters.map fun parameter =>
        optionalName parameter.name parameter.optional ++ ": " ++
          (pool.sketchBy key parameter.type).written.text) ++ ")" := by
  rw [ParameterLabel.written, List.map_append, List.map_singleton, zipWith_concat (by simp),
    List.map_map, List.zipWith_map, List.zipWith_self]
  rfl

/-- The result of a function type, written. -/
theorem written_result (signature : Signature) :
    (((signature.parameters.map TypeParameter.type ++ [signature.result]).map fun piece =>
      (pool.sketchBy key piece).written).map Written.text).getLastD "" =
        (pool.sketchBy key signature.result).written.text := by
  simp

/-- A method is written as the parameters and the result of its type. -/
theorem signature_written {type : TypeIndex} {signature : Signature}
    (found : pool.entry type = .function signature) :
    (pool.sketchBy key type).written.signature =
      "(" ++ ", ".intercalate (signature.parameters.map fun parameter =>
        optionalName parameter.name parameter.optional ++ ": " ++
          (pool.sketchBy key parameter.type).written.text) ++
        "): " ++ (pool.sketchBy key signature.result).written.text := by
  rw [written_of_recipe key (congrArg PoolEntry.recipe? found)]
  simp only [Recipe.written, written_parameters, written_result, String.append_assoc]
  rfl

/-- Behind the name of a member, a type that is no function stands as it is. -/
theorem signature_written_of_not_function {type : TypeIndex}
    (notFunction : ∀ signature, pool.entry type ≠ .function signature) :
    (pool.sketchBy key type).written.signature =
      ": " ++ (pool.sketchBy key type).written.text := by
  rcases sketchBy_cases key pool type with ⟨_, _, sketched⟩ | ⟨recipe, pieces, made, sketched⟩ |
    ⟨_, _, _, sketched⟩ | ⟨_, sketched⟩
  · rw [sketched]; rfl
  · rw [written_of_recipe key made]
    cases recipe with
    | function labels => exact absurd (PoolEntry.entry_of_recipe? made).symm (notFunction _)
    | _ => rfl
  · rw [sketched]; rfl
  · rw [sketched]; rfl

/-! ### From the texts of the parts to the text of the whole -/

section Parts

variable {parts : List TypeIndex}
  (agrees : ∀ part ∈ parts, pool.format part = (pool.sketchBy key part).written.text)

include agrees

/-- Parts that stand by themselves. -/
theorem map_format_written :
    parts.map pool.format = parts.map fun part => (pool.sketchBy key part).written.text :=
  List.map_congr_left agrees

/-- Parts that stand inside others. -/
theorem map_operandText_written :
    (parts.map fun part => pool.operandText part (pool.format part)) =
      parts.map fun part => (pool.sketchBy key part).written.operand :=
  List.map_congr_left fun part inside => by rw [agrees part inside, operandText_written]

end Parts

section Signatures

variable {signature : Signature}
  (agrees : ∀ part ∈ (PoolEntry.function signature).parts,
    pool.format part = (pool.sketchBy key part).written.text)

include agrees

/-- The parameters of a function type. -/
theorem map_parameters_written :
    (signature.parameters.map fun parameter =>
        optionalName parameter.name parameter.optional ++ ": " ++ pool.format parameter.type) =
      signature.parameters.map fun parameter =>
        optionalName parameter.name parameter.optional ++ ": " ++
          (pool.sketchBy key parameter.type).written.text :=
  List.map_congr_left fun parameter inside => by
    rw [agrees parameter.type (PoolEntry.parameter_mem_parts inside)]

/-- The parameters and the result behind the name of a method. -/
theorem signature_written_of_agrees {type : TypeIndex}
    (found : pool.entry type = .function signature) :
    (pool.sketchBy key type).written.signature =
      "(" ++ ", ".intercalate (signature.parameters.map fun parameter =>
        optionalName parameter.name parameter.optional ++ ": " ++ pool.format parameter.type) ++
        "): " ++ pool.format signature.result := by
  rw [signature_written key found, map_parameters_written key agrees,
    agrees signature.result (PoolEntry.result_mem_parts signature)]

/-- A function type by itself. -/
theorem function_written {type : TypeIndex} (found : pool.entry type = .function signature) :
    (pool.sketchBy key type).written.text =
      "(" ++ ", ".intercalate (signature.parameters.map fun parameter =>
        optionalName parameter.name parameter.optional ++ ": " ++ pool.format parameter.type) ++
        ") => " ++ pool.format signature.result := by
  rw [written_of_recipe key (congrArg PoolEntry.recipe? found), map_parameters_written key agrees,
    agrees signature.result (PoolEntry.result_mem_parts signature)]
  simp only [Recipe.written, Written.loose, written_parameters, written_result,
    String.append_assoc]
  rfl

end Signatures

/-- **A type is written as its sketch tells**, whatever the keys are. -/
theorem format_eq (pool : Pool) (type : TypeIndex) :
    pool.format type = (pool.sketchBy key type).written.text := by
  -- The parts of a type have smaller numbers, and so have the parts of its methods.
  induction number : type.number using Nat.strongRecOn generalizing type with
  | _ number ih =>
      subst number
      have agrees {entry : PoolEntry} (found : pool.entry type = entry) (part : TypeIndex)
          (inside : part ∈ entry.parts) :
          pool.format part = (pool.sketchBy key part).written.text :=
        ih part.number (part_lt found inside) part rfl
      rw [format]
      cases isPrimitive : type.primitive? with
      | some primitive => rw [sketchBy_of_primitive key isPrimitive]; rfl
      | none =>
          dsimp only
          split
          · next found =>
              rw [sketchBy_of_leaf key isPrimitive (by rw [found]; rfl), found]
              rfl
          · next declaration name found =>
              rw [sketchBy_of_leaf key isPrimitive (by rw [found]; rfl), found]
              rfl
          · next name found => rw [written_of_recipe key (congrArg PoolEntry.recipe? found)]; rfl
          · next content found => rw [written_of_recipe key (congrArg PoolEntry.recipe? found)]; rfl
          · next element found =>
              rw [written_of_recipe key (congrArg PoolEntry.recipe? found),
                agrees found element (List.mem_singleton.2 rfl), operandText_written]
              rfl
          · next elements found =>
              rw [written_of_recipe key (congrArg PoolEntry.recipe? found)]
              simp only [List.attach_map_val, @map_format_written κ key pool elements (agrees found),
                Recipe.written, Written.plain, List.map_map]
              rfl
          · next members found =>
              rw [written_of_recipe key (congrArg PoolEntry.recipe? found)]
              simp only [List.map_attach_eq_pmap, List.pmap_eq_map,
                @map_operandText_written κ key pool members (agrees found), Recipe.written,
                Written.loose, List.map_map]
              rfl
          · next members found =>
              rw [written_of_recipe key (congrArg PoolEntry.recipe? found)]
              simp only [List.map_attach_eq_pmap, List.pmap_eq_map,
                @map_operandText_written κ key pool members (agrees found), Recipe.written,
                Written.loose, List.map_map]
              rfl
          · next signature found =>
              rw [function_written key (agrees found) found]
              simp only [List.map_attach_eq_pmap, List.pmap_eq_map]
          · next members found =>
              rw [written_of_recipe key (congrArg PoolEntry.recipe? found)]
              simp only [Recipe.written, Written.plain, List.map_map, List.zipWith_map,
                List.zipWith_self]
              conv_rhs => rw [← List.attach_map_subtype_val members, List.map_map]
              refine congrArg bracedMembers (List.map_congr_left fun member _ => ?_)
              have isPart := PoolEntry.member_mem_parts member.property
              have plain := agrees found _ isPart
              refine congrArg (optionalName member.val.name member.val.optional ++ ·) ?_
              cases isMethod : member.val.isMethod with
              | false => rw [plain]; simp [Function.comp, Member.label, isMethod]
              | true =>
                  simp only [Function.comp, Member.label, isMethod, if_true]
                  split
                  · next signature _ isFunction =>
                      have deeper (part : TypeIndex)
                          (inside : part ∈ (PoolEntry.function signature).parts) :
                          pool.format part = (pool.sketchBy key part).written.text :=
                        ih part.number
                          (Nat.lt_trans (part_lt isFunction inside) (part_lt found isPart)) part rfl
                      rw [signature_written_of_agrees key deeper isFunction]
                      simp only [List.map_attach_eq_pmap, List.pmap_eq_map]
                  · next notFunction =>
                      rw [signature_written_of_not_function key fun signature =>
                        notFunction signature rfl, plain]

end Pool

end InjectionCheck
