import InjectionCheck.Proofs.ReadBack
import InjectionCheck.Proofs.TidyPools

/-!
# Types are lowered to themselves

A type of a program is written as its sketch tells, and an annotation that is read back has this
sketch. To lower the sketch of a type gives the type itself and adds nothing to the pool
(`Linkage.Tidy.lower_sketchBy`): its parts are lowered to themselves, and the pool has the entry
that the recipe makes of them already. So what is written for a type means the type in every file
in which its names mean what they say (`Program.FromFiles.lowerType_format`).
-/

set_option autoImplicit false

namespace InjectionCheck

/-! ## Recipes of known entries -/

namespace Linkage

variable {linkage : Linkage} {table : TypeTable} {type : TypeIndex}

/-- What a recipe makes of the parts of an entry is the entry. -/
theorem Tidy.build_eq (tidy : linkage.Tidy table) {recipe : Recipe} {pieces : List TypeIndex}
    (made : (table.pool.entry type).recipe? = some (recipe, pieces)) :
    recipe.build pieces table.pool = (type, table.pool) := by
  have isEntry := (PoolEntry.entry_of_recipe? made).symm
  have interned : table.pool.intern (recipe.entry pieces) = (type, table.pool) :=
    Pool.intern_of_entry isEntry (isEntry ▸ Pool.entry_ne_reserved made)
  rw [← interned]
  cases recipe with
  | union => exact Connective.join_of_flat (tidy.flat .union type pieces isEntry)
  | intersection => exact Connective.join_of_flat (tidy.flat .intersection type pieces isEntry)
  | _ => rfl

/-- A step of lowering gives a type that the pool has, and adds nothing to the pool. -/
structure Finds (linkage : Linkage) (table : TypeTable) (type : TypeIndex)
    (made : TypeIndex × TypeTable) : Prop where
  type : made.1 = type
  pool : made.2.pool = table.pool
  tidy : linkage.Tidy made.2

/-- A class or an interface has the type of its instances. -/
theorem Tidy.lowerDeclaration_named (tidy : linkage.Tidy table) {number : Nat} {name : String}
    (found : table.pool.entry type = .named number name) :
    linkage.Finds table type (linkage.lowerDeclaration [] table number) := by
  have declares := tidy.entries type
  rw [found] at declares
  have lowered := tidy.lowerDeclaration [] number
  have isEntry : (linkage.lowerDeclaration [] table number).2.pool.entry
      (linkage.lowerDeclaration [] table number).1 = .named number name :=
    linkage.entry_lowerDeclaration tidy.remembers declares []
  have samePool : (linkage.lowerDeclaration [] table number).2.pool = table.pool := by
    obtain ⟨declaration, declared, isObject, rfl⟩ := declares
    rw [lowerDeclaration_eq]
    cases known : table.known? number with
    | some remembered => rfl
    | none =>
        rw [declared]
        dsimp only
        rw [contents?_eq_none.2 isObject]
        exact congrArg Prod.snd (Pool.intern_of_entry found PoolEntry.noConfusion)
  refine ⟨?_, samePool, lowered.tidy⟩
  rw [samePool] at isEntry
  exact Pool.eq_of_entry_eq (by rw [isEntry]; exact PoolEntry.noConfusion) (isEntry.trans found.symm)

/-- Types are lowered to themselves one after another if each of them is. -/
theorem Tidy.lowerAll_sketchBy {pool : Pool} {types : List TypeIndex}
    (each : ∀ type ∈ types, ∀ table : TypeTable, linkage.Tidy table → table.pool = pool →
      linkage.Finds table type
        (((pool.sketchBy id type).map Leaf.target).lower (linkage.lowerDeclaration []) table))
    (tidy : linkage.Tidy table) (samePool : table.pool = pool) :
    let made := Sketch.lowerAll (linkage.lowerDeclaration [])
      (types.map (Sketch.map Leaf.target ∘ pool.sketchBy id)) table
    made.1 = types ∧ made.2.pool = pool ∧ linkage.Tidy made.2 := by
  induction types generalizing table with
  | nil => exact ⟨rfl, samePool, tidy⟩
  | cons type others ih =>
      obtain ⟨eachFirst, eachOther⟩ := List.forall_mem_cons.1 each
      have first := eachFirst table tidy samePool
      obtain ⟨sameTypes, rest⟩ := ih eachOther first.tidy (first.pool.trans samePool)
      rw [List.map_cons, Sketch.lowerAll_cons]
      exact ⟨congrArg₂ List.cons first.type sameTypes, rest⟩

/-- **To lower the sketch of a type gives the type.** -/
theorem Tidy.lower_sketchBy {file : Nat} (tidy : linkage.Tidy table)
    (legible : linkage.Legible file (table.pool.sketchBy id type)) :
    linkage.Finds table type
      (((table.pool.sketchBy id type).map Leaf.target).lower (linkage.lowerDeclaration []) table) := by
  induction number : type.number using Nat.strongRecOn generalizing type table with
  | _ number ih =>
      subst number
      rcases Pool.sketchBy_cases id table.pool type with ⟨primitive, isPrimitive, sketched⟩ |
        ⟨recipe, pieces, made, sketched⟩ | ⟨declaration, name, found, sketched⟩ |
        ⟨_, sketched⟩ <;> rw [sketched] at legible ⊢
      · have same : TypeIndex.ofPrimitive primitive = type :=
          TypeIndex.eq_of_primitive? (Pool.primitive?_ofPrimitive primitive) isPrimitive
        exact ⟨same, rfl, tidy⟩
      · have legible : ∀ piece ∈ pieces,
            linkage.Legible file (table.pool.sketchBy id piece) := by
          cases legible with
          | make _ _ _ _ all => exact List.forall_mem_map.1 all
        have each : ∀ piece ∈ pieces, ∀ other : TypeTable, linkage.Tidy other →
            other.pool = table.pool → linkage.Finds other piece
              (((table.pool.sketchBy id piece).map Leaf.target).lower
                (linkage.lowerDeclaration []) other) := by
          intro piece inside other tidy samePool
          have less := Pool.part_lt rfl ((PoolEntry.mem_parts_iff_of_recipe? made).2 inside)
          rw [← samePool] at legible ⊢
          exact ih piece.number less tidy (legible piece inside) rfl
        have lowered := tidy.lowerAll_sketchBy each rfl
        rw [Sketch.map_make, Sketch.lower_make, List.map_map]
        generalize Sketch.lowerAll (linkage.lowerDeclaration []) _ table = all at lowered ⊢
        obtain ⟨types, pool, after⟩ := lowered
        have found := after.build_eq (pool.symm ▸ made)
        rw [types, TypeTable.make, found]
        exact ⟨rfl, pool, after⟩
      · exact tidy.lowerDeclaration_named found
      · cases legible with | use _ legible => exact legible.elim

end Linkage

/-! ## Types that can be read back -/

/-- A type is another one, or a part of it, or a part of its parts. -/
def Pool.Contains (pool : Pool) : TypeIndex → TypeIndex → Prop :=
  Relation.ReflTransGen fun whole part => part ∈ (pool.entry whole).parts

namespace Linkage

variable (linkage : Linkage) (file : Nat)

/-- What an entry says besides its parts can be read back in a file: names of types refer to what
they stand for, and all names and texts can be written. -/
def Readable : PoolEntry → Prop
  | .named declaration name => isTypeName name = true ∧
    linkage.resolve? file name = some declaration
  | .unresolved name => isTypeName name = true ∧ linkage.resolve? file name = none
  | .stringLiteral content => Scanner.isPlainText content = true
  | .function signature => ∀ parameter ∈ signature.parameters, Scanner.isName parameter.name = true
  | .object members => ∀ member ∈ members, Scanner.isName member.name = true
  | _ => True

variable {linkage file} {table : TypeTable} {type : TypeIndex}

/-- A recipe of a readable entry says what can be told from what is written. -/
theorem Tidy.legibleRecipe (tidy : linkage.Tidy table) {recipe : Recipe}
    {pieces : List TypeIndex} (made : (table.pool.entry type).recipe? = some (recipe, pieces))
    (readable : linkage.Readable file (table.pool.entry type)) :
    linkage.LegibleRecipe file (pieces.map (table.pool.sketchBy id)) recipe := by
  have admits := tidy.entries type
  cases found : table.pool.entry type with
  | reserved => rw [found] at made; cases made
  | named declaration name => rw [found] at made; cases made
  | unresolved name =>
      rw [found] at made readable
      cases made
      exact ⟨readable.1, by rw [find?, readable.2]; rfl⟩
  | stringLiteral content => rw [found] at made readable; cases made; exact readable
  | array element => rw [found] at made; cases made; trivial
  | tuple elements => rw [found] at made; cases made; trivial
  | union members =>
      rw [found] at made admits
      cases made
      rw [LegibleRecipe, List.length_map]
      exact admits.1
  | intersection members =>
      rw [found] at made admits
      cases made
      rw [LegibleRecipe, List.length_map]
      exact admits.1
  | function signature =>
      rw [found] at made readable
      cases made
      exact List.forall_mem_map.2 readable
  | object members =>
      rw [found] at made admits readable
      cases made
      refine ⟨by rw [List.map_map]; exact admits.1, List.forall_mem_map.2 fun member inside =>
        ⟨readable member inside, (admits.2 member inside).1⟩, ?_⟩
      rw [List.map_map, List.zip_map']
      refine List.forall_mem_map.2 fun member inside isMethod => ?_
      obtain ⟨signature, isFunction⟩ := (admits.2 member inside).2 isMethod
      exact ⟨_, _, Pool.sketchBy_of_recipe id
        (Pool.primitive?_eq_none (by rw [isFunction]; exact PoolEntry.noConfusion))
        (congrArg PoolEntry.recipe? isFunction)⟩

/-- The sketch of a type can be read back if all of the type can. -/
theorem Tidy.legible (tidy : linkage.Tidy table) (has : table.pool.Has type)
    (readable : ∀ part, table.pool.Contains type part →
      part ≠ .error ∧ linkage.Readable file (table.pool.entry part)) :
    linkage.Legible file (table.pool.sketchBy id type) := by
  induction number : type.number using Nat.strongRecOn generalizing type with
  | _ number ih =>
      subst number
      obtain ⟨notError, readableType⟩ := readable type .refl
      rcases Pool.sketchBy_cases id table.pool type with ⟨primitive, isPrimitive, sketched⟩ |
        ⟨recipe, pieces, made, sketched⟩ | ⟨declaration, name, found, sketched⟩ |
        ⟨reserved, sketched⟩
      · refine sketched ▸ .known primitive ?_
        rintro rfl
        exact notError (TypeIndex.eq_of_primitive? isPrimitive rfl)
      · have takes : recipe.Takes (pieces.map (table.pool.sketchBy id)).length :=
          (List.length_map _).symm ▸ PoolEntry.takes_of_recipe? made
        refine sketched ▸ .make recipe _ takes (tidy.legibleRecipe made readableType) ?_
        refine List.forall_mem_map.2 fun piece inside => ?_
        have isPart := (PoolEntry.mem_parts_iff_of_recipe? made).2 inside
        exact ih piece.number (Pool.part_lt rfl isPart) (tidy.parts type piece isPart)
          (fun part within => readable part (.head isPart within)) rfl
      · have admits := tidy.entries type
        rw [found] at admits readableType
        obtain ⟨declaration, declared, isObject, _⟩ := admits
        refine sketched ▸ .use _ ⟨readableType.1, declaration, ?_, ?_⟩
        · rw [find?, readableType.2, Option.bind_some, id, declared]
          rfl
        · intro isBinding
          rw [isBinding] at isObject
          cases isObject <;> contradiction
      · refine absurd reserved (has.resolve_left fun isPrimitive => ?_)
        obtain ⟨primitive, isPrimitive⟩ := Option.isSome_iff_exists.1 isPrimitive
        rw [Pool.sketchBy_of_primitive id isPrimitive] at sketched
        cases sketched

end Linkage

namespace Program

variable {program : Program}

/-- **Reading back what is written for a type gives the type**: in a file in which the names of the
type mean what they say, the declaration of a name for the written type has no faults and no errors,
and the annotation in it is lowered to the type itself. -/
theorem FromFiles.lowerType_format (made : program.FromFiles) {type : TypeIndex} {file : Nat}
    (has : program.table.pool.Has type)
    (readable : ∀ part, program.table.pool.Contains type part →
      part ≠ .error ∧ program.linkage.Readable file (program.table.pool.entry part)) :
    let list := TokenList.ofText (aliasText (program.format type)).toList
    list.faults = [] ∧ (SourceUnit.ofTokens list).Declares fun written =>
      (program.lowerType file written).1 = type := by
  have legible := made.tidy.legible has readable
  rw [format, Pool.format_eq id]
  obtain ⟨faults, declaration, span, items, errors, isX, means⟩ := legible.declares
  refine ⟨faults, declaration, span, items, errors, isX, ?_⟩
  change (program.linkage.lower [] program.table.types file declaration.type).1 = type
  rw [Linkage.lower_eq, means]
  exact (made.tidy.lower_sketchBy legible).type

/-- The arrays of a class, in a file that declares the class. -/
theorem lowerType_format_classes :
    let program := ofFiles [⟨"a.ts", "class A \x7b \x7d".toList⟩]
    let made := program.lowerType 0 ⟨.array ⟨.named "A" [], ⟨0, 1⟩⟩, ⟨0, 3⟩⟩
    made.2.table.pool.entry made.1 = .array (program.declarationType 0) ∧
      let list := TokenList.ofText (aliasText (made.2.format made.1)).toList
      list.faults = [] ∧ (SourceUnit.ofTokens list).Declares fun written =>
        (made.2.lowerType 0 written).1 = made.1 := by
  intro program made
  have start : program.FromFiles := .ofFiles _
  have after : made.2.FromFiles := .lowerType 0 _ start
  have isClass : program.linkage.DeclaresObject 0 "A" :=
    ⟨_, Array.getElem?_eq_getElem (by decide +kernel), by decide +kernel, by decide +kernel⟩
  have isElement := start.entry_declarationType isClass
  have isArray : made.2.table.pool.entry made.1 = .array (program.declarationType 0) := by
    have sketched : program.linkage.sketch 0 ⟨.array ⟨.named "A" [], ⟨0, 1⟩⟩, ⟨0, 3⟩⟩ =
        .make .array [.use 0] := by decide +kernel
    have element := start.tidy.lowerDeclaration_named isElement
    change (program.linkage.lower [] program.table.types 0 _).2.pool.entry
      (program.linkage.lower [] program.table.types 0 _).1 = _
    rw [Linkage.lower_eq, sketched, Sketch.lower_make, Sketch.lowerAll_cons, Sketch.lower_use,
      Sketch.lowerAll_nil, element.type]
    refine Pool.entry_intern fun part inside => ?_
    rw [List.mem_singleton.1 inside]
    refine Nat.lt_of_lt_of_eq ?_ (congrArg Pool.size element.pool.symm)
    exact Pool.lt_size (isElement ▸ PoolEntry.noConfusion)
  have isElement' : made.2.table.pool.entry (program.declarationType 0) = .named 0 "A" :=
    after.entry_declarationType isClass
  refine ⟨isArray, after.lowerType_format (.inr (isArray ▸ PoolEntry.noConfusion)) ?_⟩
  intro part within
  obtain rfl | ⟨element, inside, within⟩ := Relation.ReflTransGen.cases_head within
  · refine ⟨fun same => ?_, isArray ▸ trivial⟩
    rw [same] at isArray
    cases isArray
  · rw [isArray] at inside
    obtain rfl := List.mem_singleton.1 inside
    obtain rfl | ⟨_, inside, _⟩ := Relation.ReflTransGen.cases_head within
    · refine ⟨fun same => ?_, isElement'.symm ▸ ⟨by decide +kernel, by decide +kernel⟩⟩
      rw [same] at isElement'
      cases isElement'
    · rw [isElement'] at inside
      cases inside

end Program

end InjectionCheck
