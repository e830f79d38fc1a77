import InjectionCheck.Proofs.TidyPools

/-!
# Types of a settled table

Before shapes are computed, every declaration is lowered once. From then on the types of all
declarations are known (`Linkage.Settled`), nothing new is learned of them, and lowering only adds
to the pool (`TypeTable.Widens`). So what an annotation means no longer depends on what was lowered
before: its type is sketched by the value of its sketch (`Settled.draws_sketch`), and lowering it
again, however much later, gives the same type and adds nothing (`Settled.lower_recalls`).
-/

set_option autoImplicit false

namespace InjectionCheck

/-! ## Tables that only gain types -/

namespace TypeTable

/-- A later table knows the same of declarations, and has at least as many types. -/
structure Widens (table later : TypeTable) : Prop where
  known : later.known = table.known
  pool : table.pool.Grows later.pool

variable {table later latest : TypeTable}

theorem Widens.refl (table : TypeTable) : table.Widens table := ⟨rfl, .refl _⟩

theorem Widens.trans (first : table.Widens later) (second : later.Widens latest) :
    table.Widens latest :=
  ⟨second.known.trans first.known, first.pool.trans second.pool⟩

theorem Widens.known?_eq (widens : table.Widens later) (number : Nat) :
    later.known? number = table.known? number := by
  rw [known?, known?, widens.known]

/-- The type of a declaration, an error if there is none. -/
def typeOf (table : TypeTable) (number : Nat) : TypeIndex := (table.known? number).getD .error

/-- The sketch of the type of a declaration. -/
def sketchOf (table : TypeTable) (number : Nat) : Sketch (Leaf Nat) :=
  table.pool.sketchBy id (table.typeOf number)

end TypeTable

/-! ## What lowering learns -/

namespace Sketch

/-- Lowering a sketch keeps what making a type and lowering each of its uses keep. -/
theorem lower_induction {α : Type} {motive : TypeTable → Prop}
    {lowerUse : TypeTable → α → TypeIndex × TypeTable}
    (make : ∀ table constructor, motive table → motive (table.make constructor).2)
    (use : ∀ target table, motive table → motive (lowerUse table target).2)
    (sketch : Sketch α) {table : TypeTable} (holds : motive table) :
    motive (sketch.lower lowerUse table).2 := by
  induction sketch using induction_on generalizing table with
  | known primitive => exact holds
  | use target => exact use target table holds
  | make recipe parts ih =>
    rw [lower_make]
    apply make
    induction parts generalizing table with
    | nil => exact holds
    | cons part others ihOthers =>
      obtain ⟨first, others⟩ := List.forall_mem_cons.1 ih
      exact ihOthers others (first holds)

end Sketch

namespace Linkage

variable (linkage : Linkage)

/-- A table has a place for each declaration, and knows the types of certain ones. -/
structure HasLearned (numbers : List Nat) (table : TypeTable) : Prop where
  size : table.known.size = linkage.declarations.size
  known : ∀ number ∈ numbers, (table.known? number).isSome = true

variable {linkage} {table : TypeTable} {numbers : List Nat} {number : Nat}

theorem isSome_known?_learn (inside : number < table.known.size) (type : TypeIndex) :
    ((table.learn number type).known? number).isSome = true := by
  rw [TypeTable.known?, TypeTable.learn, Array.getElem?_setIfInBounds_self_of_lt inside]
  rfl

/-- Learning a type forgets no other. -/
theorem HasLearned.learn (learned : linkage.HasLearned numbers table) (type : TypeIndex) :
    linkage.HasLearned numbers (table.learn number type) where
  size := Array.size_setIfInBounds.trans learned.size
  known other isOther := by
    have before := learned.known other isOther
    by_cases same : number = other
    · subst same
      apply isSome_known?_learn
      obtain ⟨type, known⟩ := Option.isSome_iff_exists.1 before
      exact (Array.getElem?_eq_some_iff.1 (Option.join_eq_some_iff.1 known)).1
    · rwa [known?_learn_of_ne same]

/-- Lowering a sketch forgets no types unless lowering what it uses does. -/
theorem HasLearned.lower {lowerUse : TypeTable → Nat → TypeIndex × TypeTable}
    (uses : ∀ target table, linkage.HasLearned numbers table →
      linkage.HasLearned numbers (lowerUse table target).2)
    (learned : linkage.HasLearned numbers table) (sketch : Sketch Nat) :
    linkage.HasLearned numbers (sketch.lower lowerUse table).2 := by
  refine Sketch.lower_induction ?_ uses sketch learned
  intro table constructor learned
  exact ⟨learned.size, learned.known⟩

/-- Lowering a declaration forgets no types. -/
theorem HasLearned.lowerDeclaration (learned : linkage.HasLearned numbers table) (path : List Nat)
    (number : Nat) :
    linkage.HasLearned numbers (linkage.lowerDeclaration path table number).2 := by
  induction left : unvisited linkage.numbers path using Nat.strongRecOn
    generalizing path table number with
  | _ left ih =>
    subst left
    rw [lowerDeclaration_eq]
    cases table.known? number with
    | some type => exact learned
    | none =>
      cases declared : linkage.declarations[number]? with
      | none => exact learned
      | some declaration =>
        dsimp only
        cases linkage.contents? declaration with
        | none =>
          apply HasLearned.learn
          exact ⟨learned.size, learned.known⟩
        | some contents =>
          dsimp only
          split
          · exact learned
          · next fresh =>
            have less : unvisited linkage.numbers (number :: path) < _ :=
              unvisited_cons_lt (List.mem_range.2 (Array.getElem?_eq_some_iff.1 declared).1) fresh
            exact (learned.lower (fun target table learned =>
              ih _ less learned (number :: path) target rfl) contents).learn _

/-- A declaration that is lowered by itself is known afterwards. -/
theorem HasLearned.isSome_known?_lowerDeclaration (learned : linkage.HasLearned numbers table)
    (inside : number < linkage.declarations.size) :
    ((linkage.lowerDeclaration [] table number).2.known? number).isSome = true := by
  rw [lowerDeclaration_eq]
  cases known : table.known? number with
  | some type =>
    rw [known]
    rfl
  | none =>
    rw [Array.getElem?_eq_getElem inside]
    dsimp only
    cases linkage.contents? linkage.declarations[number] with
    | none =>
      apply isSome_known?_learn
      exact Nat.lt_of_lt_of_eq inside learned.size.symm
    | some contents =>
      dsimp only
      rw [if_neg List.not_mem_nil]
      apply isSome_known?_learn
      have lowered := learned.lower
        (fun target table learned => learned.lowerDeclaration [number] target) contents
      exact Nat.lt_of_lt_of_eq inside lowered.size.symm

/-- Declarations that are lowered one after another are known in the end. -/
theorem HasLearned.foldl_lowerDeclaration {state : Array TypeIndex × TypeTable}
    (learned : linkage.HasLearned numbers state.2) (further : List Nat)
    (inside : ∀ number ∈ further, number < linkage.declarations.size) :
    linkage.HasLearned (numbers ++ further) (further.foldl (fun (types, table) number =>
      let (type, table) := linkage.lowerDeclaration [] table number
      (types.push type, table)) state).2 := by
  induction further generalizing numbers state with
  | nil => rwa [List.append_nil]
  | cons number others ih =>
    obtain ⟨insideFirst, insideOthers⟩ := List.forall_mem_cons.1 inside
    have lowered := learned.lowerDeclaration [] number
    rw [List.append_cons]
    refine ih ⟨lowered.size, ?_⟩ insideOthers
    rw [List.forall_mem_append, List.forall_mem_singleton]
    exact ⟨lowered.known, learned.isSome_known?_lowerDeclaration insideFirst⟩

/-! ## Settled tables -/

variable (linkage)

/-- The types of all declarations are known, and are types of the pool. -/
structure Settled (table : TypeTable) : Prop where
  known : ∀ number < linkage.declarations.size, (table.known? number).isSome = true
  inUse : ∀ number type, table.known? number = some type → type.number < table.pool.size

/-- **Lowering all declarations settles the table.** -/
theorem settled_declarationTypes :
    linkage.Settled (linkage.declarationTypes (.empty linkage)).2 := by
  have nothing : linkage.HasLearned [] (.empty linkage) :=
    ⟨Array.size_replicate, List.forall_mem_nil _⟩
  have all := @HasLearned.foldl_lowerDeclaration linkage [] (#[], .empty linkage) nothing
    linkage.numbers fun number => List.mem_range.1
  refine ⟨fun number inside => all.known number (List.mem_range.2 inside), ?_⟩
  intro number type known
  exact (linkage.tidy_declarationTypes.known number type known).lt_size

variable {linkage} {later : TypeTable}

theorem Settled.widen (settled : linkage.Settled table) (widens : table.Widens later) :
    linkage.Settled later where
  known number inside := by
    rw [widens.known?_eq]
    exact settled.known number inside
  inUse number type known := by
    rw [widens.known?_eq] at known
    exact Nat.lt_of_lt_of_le (settled.inUse number type known) widens.pool.size_le

theorem Settled.typeOf_lt (settled : linkage.Settled table) (number : Nat) :
    (table.typeOf number).number < table.pool.size := by
  rw [TypeTable.typeOf]
  cases known : table.known? number with
  | some type => exact settled.inUse number type known
  | none => exact (table.pool.makes_ofPrimitive id .error).inUse

theorem Settled.sketchOf_eq (settled : linkage.Settled table) (widens : table.Widens later) :
    later.sketchOf = table.sketchOf := by
  funext number
  rw [TypeTable.sketchOf, TypeTable.sketchOf, TypeTable.typeOf, widens.known?_eq]
  exact widens.pool.sketchBy_eq id _ (settled.typeOf_lt number)

/-- In a settled table a declaration has its type already. -/
theorem Settled.lowerDeclaration_eq (settled : linkage.Settled table) (path : List Nat)
    (number : Nat) :
    linkage.lowerDeclaration path table number = (table.typeOf number, table) := by
  rw [Linkage.lowerDeclaration_eq, TypeTable.typeOf]
  cases known : table.known? number with
  | some type => rfl
  | none =>
    have outside : linkage.declarations[number]? = none := by
      rw [Array.getElem?_eq_none_iff, ← Nat.not_lt]
      intro inside
      have isKnown := settled.known number inside
      rw [known] at isKnown
      cases isKnown
    rw [outside]
    rfl

/-! ## Lowering in a settled table -/

/-- Lowering gives a type with some sketch, and only adds types. -/
structure Draws (table : TypeTable) (made : TypeIndex × TypeTable) (sketch : Sketch (Leaf Nat)) :
    Prop extends table.Widens made.2 where
  inUse : made.1.number < made.2.pool.size
  sketched : made.2.pool.sketchBy id made.1 = sketch

/-- Lowering gives types with some sketches, one after another, and only adds types. -/
structure DrawsAll (table : TypeTable) (made : List TypeIndex × TypeTable)
    (sketches : List (Sketch (Leaf Nat))) : Prop extends table.Widens made.2 where
  inUse : ∀ type ∈ made.1, type.number < made.2.pool.size
  sketched : made.1.map (made.2.pool.sketchBy id) = sketches

/-- Sketches are lowered one after another as each of them is. -/
theorem Settled.drawsAll {parts : List (Sketch Nat)} {meaning : Nat → Sketch (Leaf Nat)}
    (each : ∀ part ∈ parts, ∀ table, linkage.Settled table → table.sketchOf = meaning →
      Draws table (part.lower (linkage.lowerDeclaration []) table) (part.value meaning))
    (settled : linkage.Settled table) (means : table.sketchOf = meaning) :
    DrawsAll table (Sketch.lowerAll (linkage.lowerDeclaration []) parts table)
      (parts.map (Sketch.value meaning)) := by
  induction parts generalizing table with
  | nil => exact ⟨.refl table, List.forall_mem_nil _, rfl⟩
  | cons part others ih =>
    obtain ⟨eachFirst, eachOther⟩ := List.forall_mem_cons.1 each
    have first := eachFirst table settled means
    have rest := ih eachOther (settled.widen first.toWidens)
      ((settled.sketchOf_eq first.toWidens).trans means)
    rw [Sketch.lowerAll_cons]
    refine ⟨first.toWidens.trans rest.toWidens, ?_, ?_⟩
    · exact List.forall_mem_cons.2
        ⟨Nat.lt_of_lt_of_le first.inUse rest.pool.size_le, rest.inUse⟩
    · rw [List.map_cons, List.map_cons, rest.sketched, rest.pool.sketchBy_eq id _ first.inUse,
        first.sketched]

/-- **In a settled table a sketch gives a type of its value.** -/
theorem Settled.draws_sketch {sketch : Sketch Nat} (fits : sketch.Fits)
    (settled : linkage.Settled table) :
    Draws table (sketch.lower (linkage.lowerDeclaration []) table)
      (sketch.value table.sketchOf) := by
  -- the table changes from part to part, and what declarations mean in it does not
  generalize means : table.sketchOf = meaning
  induction sketch using Sketch.induction_on generalizing table with
  | known primitive =>
    have made := table.pool.makes_ofPrimitive id primitive
    exact ⟨.refl table, made.inUse, made.sketch_eq⟩
  | use target =>
    rw [Sketch.lower_use, settled.lowerDeclaration_eq]
    exact ⟨.refl table, settled.typeOf_lt target, congrFun means target⟩
  | make recipe parts ih =>
    obtain ⟨takes, fitParts⟩ := Sketch.fits_make.1 fits
    have lowered := settled.drawsAll (fun part isPart table settled means =>
      ih part isPart (fitParts part isPart) settled means) means
    rw [← Sketch.length_lowerAll] at takes
    have made := Pool.makes_build id Function.injective_id takes lowered.inUse
    rw [Sketch.lower_make]
    refine ⟨lowered.toWidens.trans ⟨rfl, made.grows⟩, made.inUse, ?_⟩
    rw [Sketch.value_make, ← lowered.sketched]
    exact made.sketch_eq

/-- Sketches that are lowered one after another only add types. -/
theorem Settled.drawsAll_sketches {parts : List (Sketch Nat)} (fits : ∀ part ∈ parts, part.Fits)
    (settled : linkage.Settled table) :
    DrawsAll table (Sketch.lowerAll (linkage.lowerDeclaration []) parts table)
      (parts.map (Sketch.value table.sketchOf)) := by
  apply settled.drawsAll _ rfl
  intro part isPart other settled means
  rw [← means]
  exact settled.draws_sketch (fits part isPart)

/-- Sketches are recalled one after another as each of them is. -/
theorem Settled.lowerAll_recalls {parts : List (Sketch Nat)} (fits : ∀ part ∈ parts, part.Fits)
    (each : ∀ part ∈ parts, ∀ table later, linkage.Settled table →
      (part.lower (linkage.lowerDeclaration []) table).2.Widens later →
        part.lower (linkage.lowerDeclaration []) later =
          ((part.lower (linkage.lowerDeclaration []) table).1, later))
    (settled : linkage.Settled table)
    (widens : (Sketch.lowerAll (linkage.lowerDeclaration []) parts table).2.Widens later) :
    Sketch.lowerAll (linkage.lowerDeclaration []) parts later =
      ((Sketch.lowerAll (linkage.lowerDeclaration []) parts table).1, later) := by
  induction parts generalizing table with
  | nil => rfl
  | cons part others ih =>
    obtain ⟨fitsFirst, fitsOthers⟩ := List.forall_mem_cons.1 fits
    obtain ⟨eachFirst, eachOther⟩ := List.forall_mem_cons.1 each
    have settledFirst := settled.widen (settled.draws_sketch fitsFirst).toWidens
    have rest := (settledFirst.drawsAll_sketches fitsOthers).toWidens
    rw [Sketch.lowerAll_cons] at widens
    rw [Sketch.lowerAll_cons, Sketch.lowerAll_cons,
      eachFirst table later settled (rest.trans widens),
      ih fitsOthers eachOther settledFirst widens]

/-- **Lowering is remembered:** what a sketch gave it gives again, however many types were added
meanwhile, and nothing is added. -/
theorem Settled.lower_recalls {sketch : Sketch Nat} (fits : sketch.Fits)
    (settled : linkage.Settled table)
    (widens : (sketch.lower (linkage.lowerDeclaration []) table).2.Widens later) :
    sketch.lower (linkage.lowerDeclaration []) later =
      ((sketch.lower (linkage.lowerDeclaration []) table).1, later) := by
  induction sketch using Sketch.induction_on generalizing table later with
  | known primitive => rfl
  | use target =>
    rw [Sketch.lower_use, settled.lowerDeclaration_eq] at widens
    rw [Sketch.lower_use, Sketch.lower_use, settled.lowerDeclaration_eq,
      (settled.widen widens).lowerDeclaration_eq, TypeTable.typeOf, widens.known?_eq]
    rfl
  | make recipe parts ih =>
    obtain ⟨takes, fitParts⟩ := Sketch.fits_make.1 fits
    have lowered := settled.drawsAll_sketches fitParts
    rw [← Sketch.length_lowerAll] at takes
    rw [Sketch.lower_make] at widens
    -- the parts are there already, and then the recipe finds what it made of them
    have added := Pool.makes_build id Function.injective_id takes lowered.inUse
    have parts_recalled := settled.lowerAll_recalls fitParts
      (fun part isPart table later => ih part isPart (fitParts part isPart))
      ⟨widens.known, added.grows.trans widens.pool⟩
    rw [Sketch.lower_make, Sketch.lower_make, parts_recalled, TypeTable.make, TypeTable.make,
      Recipe.build_again takes lowered.inUse widens.pool]

/-- **Lowering a sketch again gives the same type,** however many types were added meanwhile. -/
theorem Settled.lower_again {sketch : Sketch Nat} (fits : sketch.Fits)
    (settled : linkage.Settled table)
    (widens : (sketch.lower (linkage.lowerDeclaration []) table).2.Widens later) :
    (sketch.lower (linkage.lowerDeclaration []) later).1 =
      (sketch.lower (linkage.lowerDeclaration []) table).1 := by
  rw [settled.lower_recalls fits widens]

end Linkage

end InjectionCheck
