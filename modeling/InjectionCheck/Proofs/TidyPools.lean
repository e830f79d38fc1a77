import InjectionCheck.Proofs.ClassBases
import InjectionCheck.Proofs.Connectives
import InjectionCheck.Proofs.Meanings

/-!
# What holds of every type of a program

Every step of lowering keeps the pool tidy (`Linkage.Tidy`): a union has several different members,
and none of them is a union; the members of an object type are public and have different names, and
its methods are functions; and the types with declarations are those of classes and interfaces. So
this holds of every type of a program, however many annotations are lowered in it
(`Program.FromFiles.tidy`).
-/

set_option autoImplicit false

namespace InjectionCheck

/-! ## Entries -/

namespace Linkage

variable (linkage : Linkage)

/-- What an entry says is in order. -/
def Admits (pool : Pool) : PoolEntry → Prop
  | .named declaration name => linkage.DeclaresObject declaration name
  | .union members => 2 ≤ members.length ∧ members.Nodup ∧
    ∀ member ∈ members, ∀ others, pool.entry member ≠ .union others
  | .intersection members => 2 ≤ members.length ∧ members.Nodup ∧
    ∀ member ∈ members, ∀ others, pool.entry member ≠ .intersection others
  | .object members => (members.map Member.name).Nodup ∧ ∀ member ∈ members,
    member.access = .public_ ∧
      (member.isMethod = true → ∃ signature, pool.entry member.type = .function signature)
  | _ => True

variable {linkage} {pool grown : Pool} {entry : PoolEntry}

/-- What is in order stays so in a pool that grows. -/
theorem Admits.grow (admits : linkage.Admits pool entry) (grows : pool.Grows grown)
    (inUse : ∀ part ∈ entry.parts, part.number < pool.size) : linkage.Admits grown entry := by
  cases entry with
  | union members =>
      refine ⟨admits.1, admits.2.1, fun member inside => ?_⟩
      rw [grows.entry_eq_of_lt (inUse member inside)]
      exact admits.2.2 member inside
  | intersection members =>
      refine ⟨admits.1, admits.2.1, fun member inside => ?_⟩
      rw [grows.entry_eq_of_lt (inUse member inside)]
      exact admits.2.2 member inside
  | object members =>
      refine ⟨admits.1, fun member inside => ?_⟩
      rw [grows.entry_eq_of_lt (inUse _ (PoolEntry.member_mem_parts inside))]
      exact admits.2 member inside
  | _ => exact admits

end Linkage

/-! ## Steps of lowering -/

namespace Linkage

variable (linkage : Linkage)

/-- All entries of a table are in order and made of types, and so is what it remembers. -/
structure Tidy (table : TypeTable) : Prop where
  known : ∀ number type, table.known? number = some type → table.pool.Has type
  remembers : linkage.Remembers table
  parts : ∀ type, ∀ part ∈ (table.pool.entry type).parts, table.pool.Has part
  entries : ∀ type, linkage.Admits table.pool (table.pool.entry type)

/-- A step of lowering gives a type, and a table that has grown and is tidy. -/
structure Tidies (table : TypeTable) (made : TypeIndex × TypeTable) : Prop where
  grows : table.pool.Grows made.2.pool
  tidy : linkage.Tidy made.2
  has : made.2.pool.Has made.1

/-- Lowering a sketch gives a type, a function for a function, and a table that has grown and is
tidy. -/
structure TidiesOne {α : Type} (table : TypeTable) (part : Sketch α)
    (made : TypeIndex × TypeTable) : Prop extends linkage.Tidies table made where
  function : part.IsFunction → ∃ signature, made.2.pool.entry made.1 = .function signature

/-- Lowering some sketches gives types, functions for functions, and a table that has grown and is
tidy. -/
structure TidiesAll {α : Type} (table : TypeTable) (parts : List (Sketch α))
    (made : List TypeIndex × TypeTable) : Prop where
  grows : table.pool.Grows made.2.pool
  tidy : linkage.Tidy made.2
  has : ∀ type ∈ made.1, made.2.pool.Has type
  functions : List.Forall₂ (fun part type => part.IsFunction →
    ∃ signature, made.2.pool.entry type = .function signature) parts made.1

variable {linkage} {table : TypeTable}

/-- A tidy table stays so when an entry is added that is in order. -/
theorem Tidy.make (tidy : linkage.Tidy table) {constructor : Pool → TypeIndex × Pool}
    (grows : table.pool.Grows (constructor table.pool).2)
    (entries : ∀ type, let made := (constructor table.pool).2
      made.entry type = table.pool.entry type ∨
        linkage.Admits made (made.entry type) ∧ ∀ part ∈ (made.entry type).parts, made.Has part) :
    linkage.Tidy (table.make constructor).2 where
  known number type known := (tidy.known number type known).grow grows
  remembers number name type declares known :=
    grows.entry_eq (tidy.remembers number name type declares known) PoolEntry.noConfusion
  parts type part inside := by
    obtain same | ⟨_, has⟩ := entries type
    · exact (tidy.parts type part (same ▸ inside)).grow grows
    · exact has part inside
  entries type := by
    obtain same | ⟨admits, _⟩ := entries type
    · exact same.symm ▸ (tidy.entries type).grow grows fun part inside =>
        Pool.lt_size_of_mem_parts rfl inside
    · exact admits

/-- An entry in order is added. -/
theorem Tidy.intern (tidy : linkage.Tidy table) {entry : PoolEntry}
    (admits : linkage.Admits table.pool entry) (notReserved : entry ≠ .reserved)
    (has : ∀ part ∈ entry.parts, table.pool.Has part) :
    linkage.Tidies table (table.make (·.intern entry)) ∧
      (table.make (·.intern entry)).2.pool.entry (table.make (·.intern entry)).1 = entry := by
  have grows := table.pool.grows_intern entry
  have isEntry := Pool.entry_intern fun part inside => (has part inside).lt_size
  refine ⟨⟨grows, tidy.make grows fun type => ?_, .inr (isEntry.symm ▸ notReserved)⟩, isEntry⟩
  refine (table.pool.entry_of_intern entry type).imp_right fun added => ?_
  rw [added]
  exact ⟨admits.grow grows fun part inside => (has part inside).lt_size,
    fun part inside => (has part inside).grow grows⟩

/-- A type may be remembered for a declaration if it stands for the instances of the declaration,
should it have any. -/
theorem Tidy.learn (tidy : linkage.Tidy table) {number : Nat} {type : TypeIndex}
    (has : table.pool.Has type)
    (right : ∀ name, linkage.DeclaresObject number name →
      table.pool.entry type = .named number name) :
    linkage.Tidy (table.learn number type) where
  known other remembered known := by
    obtain ⟨rfl, rfl⟩ | before := known?_learn known
    · exact has
    · exact tidy.known other remembered before
  remembers := ((Grows.refl table).learn right).remembers tidy.remembers
  parts := tidy.parts
  entries := tidy.entries

/-! ## Lowering a sketch -/

section Sketches

variable {α : Type} {parts : List (Sketch α)} {made : List TypeIndex × TypeTable}

/-- The members that a recipe is given for an object type are in order. -/
theorem admits_object {labels : List MemberLabel} (takes : parts.length = labels.length)
    (members : Sketch.OrderlyMembers parts (.object labels))
    (all : linkage.TidiesAll table parts made) :
    linkage.Admits made.2.pool (.object (List.zipWith MemberLabel.member labels made.1)) := by
  have same : made.1.length = labels.length := all.functions.length_eq.symm.trans takes
  refine ⟨?_, fun member inside => ?_⟩
  · have names := (PoolEntry.map_member same).1
    have distinct := members.1
    rw [← names, List.map_map] at distinct
    exact distinct
  · obtain ⟨place, isPlace, rfl⟩ := List.getElem_of_mem inside
    rw [List.getElem_zipWith]
    rw [List.length_zipWith, same, Nat.min_self] at isPlace
    have isPart : place < parts.length := takes.symm ▸ isPlace
    have isType : place < made.1.length := same.symm ▸ isPlace
    obtain ⟨isPublic, isFunction⟩ := members.2 (labels[place], parts[place])
      (List.mem_iff_getElem.2 ⟨place, by rw [List.length_zip]; omega, by simp⟩)
    exact ⟨isPublic, fun isMethod => (List.forall₂_iff_get.1 all.functions).2 place isPart isType
      (isFunction isMethod)⟩

/-- A type of the pool is there already. -/
theorem Tidy.kept (tidy : linkage.Tidy table) {type : TypeIndex} (has : table.pool.Has type) :
    linkage.Tidies table (type, table) :=
  ⟨.refl _, tidy, has⟩

theorem Tidy.primitive (tidy : linkage.Tidy table) (primitive : Primitive) :
    linkage.Tidies table (.ofPrimitive primitive, table) :=
  tidy.kept (.inl (by cases primitive <;> rfl))

/-- The pool of a tidy table is flat. -/
theorem Tidy.flat (tidy : linkage.Tidy table) : table.pool.Flat := by
  intro connective type members found
  have admits := tidy.entries type
  rw [found] at admits
  cases connective <;> exact ⟨admits.1, admits.2.1, admits.2.2⟩

/-- The different members of intersections are no intersections. -/
theorem Tidy.entry_ne_intersection (tidy : linkage.Tidy table) {types : List TypeIndex} :
    ∀ member ∈ Pool.withoutRepeats (types.flatMap table.pool.intersectionMembers),
      ∀ others, table.pool.entry member ≠ .intersection others :=
  tidy.flat.entry_ne_of_mem_operands .intersection types

/-- Several different types are in order as the members of what joins them. -/
theorem admits_entry {connective : Connective} {pool : Pool} {members : List TypeIndex}
    (flat : connective.Flat pool members) : linkage.Admits pool (connective.entry members) := by
  cases connective <;> exact ⟨flat.several, flat.distinct, flat.flat⟩

/-- Joining types keeps a table tidy. -/
theorem Tidy.join (tidy : linkage.Tidy table) (connective : Connective) {types : List TypeIndex}
    (has : ∀ type ∈ types, table.pool.Has type) :
    linkage.Tidies table (table.make (connective.join · types)) := by
  have distinct : (connective.operands table.pool types).Nodup := nodup_firsts _
  have flat := tidy.flat.entry_ne_of_mem_operands connective types
  have hasMembers : ∀ member ∈ connective.operands table.pool types, table.pool.Has member := by
    intro member inside
    obtain ⟨type, isType, inside⟩ := List.mem_flatMap.1 (mem_firsts.1 inside)
    rcases connective.members_cases table.pool type with found | ⟨_, isOne⟩
    · refine tidy.parts type member ?_
      rw [found, Connective.parts_entry]
      exact inside
    · rw [isOne] at inside
      exact List.mem_singleton.1 inside ▸ has type isType
  simp only [TypeTable.make, Connective.join_eq]
  generalize connective.operands table.pool types = members at *
  rcases members with _ | ⟨single, _ | ⟨second, others⟩⟩
  · exact tidy.primitive connective.unit
  · exact tidy.kept (hasMembers _ List.mem_cons_self)
  · have several : 2 ≤ (single :: second :: others).length := by simp
    refine (tidy.intern (admits_entry ⟨several, distinct, flat⟩) Connective.entry_ne_reserved ?_).1
    rw [Connective.parts_entry]
    exact hasMembers

/-- What a recipe makes of types keeps a table tidy. -/
theorem TidiesAll.build {recipe : Recipe} (all : linkage.TidiesAll table parts made)
    (takes : recipe.Takes parts.length) (members : Sketch.OrderlyMembers parts recipe) :
    linkage.TidiesOne made.2 (.make recipe parts) (made.2.make (recipe.build made.1)) := by
  rw [all.functions.length_eq] at takes
  have isMade := PoolEntry.recipe?_entry takes
  have has : ∀ part ∈ (recipe.entry made.1).parts, made.2.pool.Has part :=
    fun part inside => all.has part ((PoolEntry.mem_parts_iff_of_recipe? isMade).1 inside)
  have notReserved : recipe.entry made.1 ≠ .reserved := fun same => by
    rw [same] at isMade
    cases isMade
  have interned : linkage.Admits made.2.pool (recipe.entry made.1) → _ := fun admits =>
    all.tidy.intern admits notReserved has
  cases recipe with
  | union => exact ⟨all.tidy.join .union all.has, fun ⟨_, _, same⟩ => nomatch same⟩
  | intersection => exact ⟨all.tidy.join .intersection all.has, fun ⟨_, _, same⟩ => nomatch same⟩
  | function labels => exact ⟨(interned trivial).1, fun _ => ⟨_, (interned trivial).2⟩⟩
  | object labels =>
      refine ⟨(interned (admits_object (all.functions.length_eq.trans takes) members all)).1, ?_⟩
      rintro ⟨_, _, ⟨⟩⟩
  | _ => exact ⟨(interned trivial).1, fun ⟨_, _, same⟩ => nomatch same⟩

variable {lowerUse : TypeTable → α → TypeIndex × TypeTable}

/-- Lowering sketches one after another keeps a table tidy if lowering each of them does. -/
theorem Tidy.lowerAll_sketches (each : ∀ part ∈ parts, ∀ table, linkage.Tidy table →
      linkage.TidiesOne table part (part.lower lowerUse table)) (tidy : linkage.Tidy table) :
    linkage.TidiesAll table parts (Sketch.lowerAll lowerUse parts table) := by
  induction parts generalizing table with
  | nil => exact ⟨.refl _, tidy, nofun, .nil⟩
  | cons part others ih =>
      obtain ⟨eachFirst, eachOther⟩ := List.forall_mem_cons.1 each
      have first := eachFirst table tidy
      have rest := ih eachOther first.tidy
      rw [Sketch.lowerAll_cons]
      refine ⟨first.grows.trans rest.grows, rest.tidy,
        List.forall_mem_cons.2 ⟨first.has.grow rest.grows, rest.has⟩,
        .cons (fun isFunction => ?_) rest.functions⟩
      obtain ⟨signature, found⟩ := first.function isFunction
      exact ⟨signature, (rest.grows.entry_eq_of_lt first.has.lt_size).trans found⟩

/-- **Lowering a sketch that is in order keeps a table tidy**, if lowering what it uses does. -/
theorem Tidy.lower_sketch
    (uses : ∀ target table, linkage.Tidy table → linkage.Tidies table (lowerUse table target))
    {sketch : Sketch α} (orderly : sketch.Orderly) (tidy : linkage.Tidy table) :
    linkage.TidiesOne table sketch (sketch.lower lowerUse table) := by
  induction orderly generalizing table with
  | known primitive => exact { tidy.primitive primitive with function := fun ⟨_, _, same⟩ => nomatch same }
  | use target => exact { uses target table tidy with function := fun ⟨_, _, same⟩ => nomatch same }
  | make takes members _ ih =>
      have lowered := tidy.lowerAll_sketches fun part inside table tidy => ih part inside tidy
      rw [Sketch.lower_make]
      have made := lowered.build takes members
      exact { made with grows := lowered.grows.trans made.grows }

end Sketches

/-! ## Lowering a declaration -/

section Declarations

variable {declaration : Declaration} {contents : Sketch Nat} {number : Nat}

theorem orderly_contents? (found : linkage.contents? declaration = some contents) :
    contents.Orderly := by
  unfold contents? at found
  split at found
  · cases found
  · cases found
  · cases found
    exact linkage.orderly_sketch _ _
  · split at found
    · cases found
      exact linkage.orderly_sketch _ _
    · split at found
      · cases found
        exact .known _
      · cases found
        exact .use _
    · cases found
      exact .known _

/-- The declarations without contents are classes and interfaces. -/
theorem contents?_eq_none : linkage.contents? declaration = none ↔
    declaration.kind = .class_ ∨ declaration.kind = .interface_ := by
  obtain ⟨file, item, exported, form⟩ := declaration
  cases form with
  | binding form =>
      obtain ⟨name, span, type, initial⟩ := form
      cases type <;> cases initial
      case none.some initial =>
        simp only [contents?]
        cases linkage.inferred file initial <;> simp [Declaration.kind, DeclarationForm.kind]
      all_goals simp [contents?, Declaration.kind, DeclarationForm.kind]
  | _ => simp [contents?, Declaration.kind, DeclarationForm.kind]

/-- The type that a declaration gets is remembered. -/
theorem Tidies.learn {made : TypeIndex × TypeTable} (tidies : linkage.Tidies table made)
    (right : ∀ name, linkage.DeclaresObject number name →
      made.2.pool.entry made.1 = .named number name) :
    linkage.Tidies table (made.1, made.2.learn number made.1) :=
  ⟨tidies.grows, tidies.tidy.learn tidies.has right, tidies.has⟩

/-- A class or an interface gets the type of its instances. -/
theorem Tidy.instances (tidy : linkage.Tidy table)
    (declared : linkage.declarations[number]? = some declaration)
    (none : linkage.contents? declaration = none) :
    linkage.Tidies table (table.make (·.named number declaration.name)) :=
  (@Tidy.intern _ _ tidy (.named number declaration.name)
    ⟨declaration, declared, contents?_eq_none.1 none, rfl⟩ PoolEntry.noConfusion nofun).1

/-- **Lowering a declaration keeps a table tidy.** -/
theorem Tidy.lowerDeclaration (tidy : linkage.Tidy table) (path : List Nat) (number : Nat) :
    linkage.Tidies table (linkage.lowerDeclaration path table number) := by
  induction left : unvisited linkage.numbers path using Nat.strongRecOn
    generalizing path table number with
  | _ left ih =>
      subst left
      have error : linkage.Tidies table (.error, table) := tidy.primitive .error
      rw [lowerDeclaration_eq]
      cases known : table.known? number with
      | some type => exact tidy.kept (tidy.known number type known)
      | none =>
          cases declared : linkage.declarations[number]? with
          | none => exact error
          | some declaration =>
              dsimp only
              cases found : linkage.contents? declaration with
              | none =>
                  exact (tidy.instances declared found).learn fun name =>
                    entry_make_named declared
              | some contents =>
                  dsimp only
                  split
                  · exact error
                  · next fresh =>
                      have less : unvisited linkage.numbers (number :: path) < _ :=
                        unvisited_cons_lt
                          (List.mem_range.2 (Array.getElem?_eq_some_iff.1 declared).1) fresh
                      have lowered := (tidy.lower_sketch (fun target table tidy =>
                        ih _ less tidy (number :: path) target rfl) (orderly_contents? found)).toTidies
                      refine lowered.learn fun name declares => ?_
                      -- an alias or a binding has no instances
                      refine absurd declares (not_declaresObject declared ?_ name)
                      refine not_or.1 fun isObject => ?_
                      rw [contents?_eq_none.2 isObject] at found
                      cases found

end Declarations

/-! ## Lowering members -/

/-- Lowering an annotation keeps a table tidy. -/
theorem Tidy.lower (tidy : linkage.Tidy table) (path : List Nat) (file : Nat)
    (type : TypeExpression) : linkage.Tidies table (linkage.lower path table file type) := by
  rw [lower_eq]
  exact (tidy.lower_sketch (fun target table tidy => tidy.lowerDeclaration path target)
    (linkage.orderly_sketch file type)).toTidies

theorem Tidy.lowerIfAny (tidy : linkage.Tidy table) (path : List Nat) (file : Nat)
    (type : Option TypeExpression) :
    linkage.Tidies table (linkage.lowerIfAny path table file type) := by
  rw [lowerIfAny_eq]
  exact (tidy.lower_sketch (fun target table tidy => tidy.lowerDeclaration path target)
    (linkage.orderly_sketchIfAny file type)).toTidies

theorem Tidy.lowerMethod (tidy : linkage.Tidy table) (path : List Nat) (file : Nat)
    (parameters : List Parameter) (result : Option TypeExpression) :
    linkage.Tidies table (linkage.lowerMethod path table file parameters result) := by
  rw [lowerMethod_eq]
  exact (tidy.lower_sketch (fun target table tidy => tidy.lowerDeclaration path target)
    (linkage.orderly_method file (linkage.orderly_sketchIfAny file result)
      (linkage.orderly_sketchParameters file parameters))).toTidies

theorem Tidy.lowerMembers (tidy : linkage.Tidy table) (path : List Nat) (file : Nat)
    (members : List TypeMember) :
    linkage.Tidy (linkage.lowerMembers path table file [] members).2 := by
  rw [lowerMembers_eq]
  refine (tidy.lowerAll_sketches fun part inside table tidy => ?_).tidy
  exact tidy.lower_sketch (fun target table tidy => tidy.lowerDeclaration path target)
    (linkage.orderly_sketchMembers file [] members part inside)

theorem Tidy.addParameterProperties {state : List Member × TypeTable}
    (tidy : linkage.Tidy state.2) (file : Nat) (parameters : List Parameter) :
    linkage.Tidy (linkage.addParameterProperties file state parameters).2 := by
  induction parameters generalizing state with
  | nil => exact tidy
  | cons parameter others ih =>
      rw [Linkage.addParameterProperties]
      split
      · exact ih (tidy.lowerIfAny [] file parameter.type).tidy
      · exact ih tidy

theorem Tidy.addClassMember {state : List Member × TypeTable} (tidy : linkage.Tidy state.2)
    (file : Nat) (member : ClassMember) :
    linkage.Tidy (linkage.addClassMember file state member).2 := by
  cases member with
  | property property =>
      rw [Linkage.addClassMember]
      split
      · exact tidy
      · exact (tidy.lowerIfAny [] file property.type).tidy
  | method method =>
      rw [Linkage.addClassMember]
      split
      · exact tidy
      · exact (tidy.lowerMethod [] file method.parameters method.result).tidy
  | constructor member => exact tidy.addParameterProperties file member.parameters

/-- Lowering the members of a class or an interface keeps a table tidy. -/
theorem Tidy.ownMembers (tidy : linkage.Tidy table) (declaration : Declaration) :
    linkage.Tidy (linkage.ownMembers table declaration).2 := by
  unfold Linkage.ownMembers
  split
  · refine List.foldlRecOn (motive := fun state : List Member × TypeTable => linkage.Tidy state.2)
      _ _ tidy fun state tidy member _ => ?_
    exact tidy.addClassMember _ member
  · exact tidy.lowerMembers [] _ _
  · exact tidy
  · exact tidy

variable (linkage)

mutual

theorem tidy_computeShape (path : List Nat) {table : ShapeTable} (tidy : linkage.Tidy table.types)
    (number : Nat) : linkage.Tidy (linkage.computeShape path table number).types := by
  rw [computeShape]
  split
  · exact tidy
  · split
    · next inside =>
        split
        · next fresh =>
            have := unvisited_cons_lt (List.mem_range.2 inside) fresh
            exact tidy_inherit (number :: path) (tidy.ownMembers _) _ _
        · exact tidy
    · exact tidy
termination_by (unvisited linkage.numbers path, 0)

theorem tidy_inherit (path : List Nat) {table : ShapeTable} (tidy : linkage.Tidy table.types)
    (members : List Member) (parents : List Nat) :
    linkage.Tidy (linkage.inherit path table members parents).2.types := by
  cases parents with
  | nil =>
      rw [inherit]
      exact tidy
  | cons parent others =>
      rw [inherit]
      exact tidy_inherit path (tidy_computeShape path tidy parent) _ others
termination_by (unvisited linkage.numbers path, parents.length + 1)

end

theorem tidy_empty : linkage.Tidy (.empty linkage) where
  known number type known := by
    simp only [TypeTable.known?, TypeTable.empty, Array.getElem?_replicate] at known
    split at known <;> cases known
  remembers := linkage.remembers_empty
  parts type := Pool.entry_empty type ▸ nofun
  entries type := Pool.entry_empty type ▸ trivial

theorem tidy_declarationTypes : linkage.Tidy (linkage.declarationTypes (.empty linkage)).2 := by
  unfold declarationTypes
  refine List.foldlRecOn (motive := fun state : Array TypeIndex × TypeTable =>
    linkage.Tidy state.2) _ _ linkage.tidy_empty fun state tidy number _ => ?_
  exact (tidy.lowerDeclaration [] number).tidy

/-- The types of all declarations, and the shapes of classes and interfaces, are tidy. -/
theorem tidy_shapes {types : TypeTable} (tidy : linkage.Tidy types) :
    linkage.Tidy (linkage.shapes types).types := by
  unfold shapes
  refine List.foldlRecOn (motive := fun table : ShapeTable => linkage.Tidy table.types) _ _ tidy
    fun table tidy number _ => ?_
  exact linkage.tidy_computeShape [] tidy number

end Linkage

namespace Program

variable {program : Program}

/-- **The types of a program are in order.** -/
theorem FromFiles.tidy (made : program.FromFiles) :
    program.linkage.Tidy program.table.types := by
  induction made with
  | ofFiles sources =>
      rw [table_ofFiles]
      exact Linkage.tidy_shapes _ (Linkage.tidy_declarationTypes _)
  | lowerType file type _ ih => exact (ih.lower [] file type).tidy

end Program

end InjectionCheck
