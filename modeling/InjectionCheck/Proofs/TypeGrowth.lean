import InjectionCheck.Program.Basic

/-!
# Lowering only adds types

While types are lowered and shapes are computed, the pool of types grows at its end and
nothing else happens to it, so a number that stands for a type keeps standing for it. What is
remembered of a class or an interface is the type of its own instances. Both are kept by every
step (`Grows`), and so by every function that lowers something.

So every class and interface of a program is given the type of its instances, whatever is
lowered before and after it (`entry_declarationTypes`).
-/

set_option autoImplicit false

namespace InjectionCheck

/-! ## Pools -/

namespace Pool

/-- A pool grows: entries are added at its end only. -/
def Grows (pool grown : Pool) : Prop := pool.entries.toList <+: grown.entries.toList

theorem Grows.refl (pool : Pool) : pool.Grows pool := List.prefix_refl _

theorem Grows.trans {pool between grown : Pool} (first : pool.Grows between)
    (second : between.Grows grown) : pool.Grows grown := List.IsPrefix.trans first second

/-- **In a pool that grows, numbers keep what they stand for.** -/
theorem Grows.entry_eq {pool grown : Pool} (grows : pool.Grows grown) {type : TypeIndex}
    {entry : PoolEntry} (found : pool.entry type = entry) (inUse : entry ≠ .reserved) :
    grown.entry type = entry := by
  subst found
  unfold Pool.entry at inUse ⊢
  split
  · next reserved => simp [reserved] at inUse
  · next dynamic =>
      rw [if_neg dynamic] at inUse
      cases found : pool.entries[type.number - TypeIndex.reservedCount]? with
      | none => simp [found] at inUse
      | some entry =>
          obtain ⟨inside, same⟩ := Array.getElem?_eq_some_iff.1 found
          rw [← Array.getElem?_toList, List.prefix_iff_getElem?.1 grows _ inside]
          simp [same]

theorem grows_intern (pool : Pool) (entry : PoolEntry) : pool.Grows (pool.intern entry).2 := by
  unfold intern
  split
  · exact .refl pool
  · split
    · simp only [Grows, push, Array.toList_push]
      exact List.prefix_append _ _
    · exact .refl pool

/-- The number of an entry whose parts are in use stands for the entry. -/
theorem entry_intern {pool : Pool} {entry : PoolEntry}
    (closed : ∀ part ∈ entry.parts, part.number < pool.size) :
    (pool.intern entry).2.entry (pool.intern entry).1 = entry := by
  have dynamic : ∀ place, ¬TypeIndex.isReserved ⟨TypeIndex.reservedCount + place⟩ = true := by
    intro place
    simp [TypeIndex.isReserved]
  unfold intern
  split
  · next place known =>
      rw [← @Array.toArray_toList _ pool.entries, List.idxOf?_toArray,
        List.idxOf?_eq_some_iff] at known
      obtain ⟨inside, same, _⟩ := known
      simp only [Pool.entry, if_neg (dynamic place), Nat.add_sub_cancel_left,
        ← Array.getElem?_toList, List.getElem?_eq_getElem inside, Option.getD_some, same]
  · rw [dif_pos closed]
    simp only [Pool.entry, size, if_neg (dynamic _), Nat.add_sub_cancel_left, push,
      Array.getElem?_push_size, Option.getD_some]

theorem grows_union (pool : Pool) (types : List TypeIndex) :
    pool.Grows (pool.union types).2 := by
  unfold union
  split
  · exact .refl pool
  · exact .refl pool
  · exact pool.grows_intern _

theorem grows_intersection (pool : Pool) (types : List TypeIndex) :
    pool.Grows (pool.intersection types).2 := by
  unfold intersection
  split
  · exact .refl pool
  · exact .refl pool
  · exact pool.grows_intern _

end Pool

namespace Linkage

variable (linkage : Linkage)

/-- A declaration declares a class or an interface of some name. -/
def DeclaresObject (number : Nat) (name : String) : Prop :=
  ∃ declaration, linkage.declarations[number]? = some declaration ∧
    (declaration.kind = .class_ ∨ declaration.kind = .interface_) ∧ declaration.name = name

/-- What is remembered of classes and interfaces is the type of their own instances. -/
def Remembers (table : TypeTable) : Prop :=
  ∀ number name type, linkage.DeclaresObject number name → table.known? number = some type →
    table.pool.entry type = .named number name

/-- What every step of lowering does: it adds types, and it remembers the right ones. -/
structure Grows (table grown : TypeTable) : Prop where
  pool : table.pool.Grows grown.pool
  remembers : linkage.Remembers table → linkage.Remembers grown

variable {linkage}

theorem Grows.refl (table : TypeTable) : linkage.Grows table table := ⟨.refl _, id⟩

theorem Grows.trans {table between grown : TypeTable} (first : linkage.Grows table between)
    (second : linkage.Grows between grown) : linkage.Grows table grown :=
  ⟨first.pool.trans second.pool, fun remembers => second.remembers (first.remembers remembers)⟩

/-- Making a type only adds to the pool. -/
theorem Grows.make {table grown : TypeTable} (before : linkage.Grows table grown)
    {constructor : Pool → TypeIndex × Pool}
    (adds : ∀ pool : Pool, pool.Grows (constructor pool).2) :
    linkage.Grows table (grown.make constructor).2 := by
  refine before.trans ⟨adds _, fun remembers number name type declares known => ?_⟩
  exact (adds _).entry_eq (remembers number name type declares known) PoolEntry.noConfusion

theorem known?_learn_of_ne {table : TypeTable} {number other : Nat} (differs : number ≠ other)
    (type : TypeIndex) : (table.learn number type).known? other = table.known? other := by
  simp only [TypeTable.known?, TypeTable.learn, Array.getElem?_setIfInBounds_ne differs]

/-- Remembering the type of a declaration is right if the declaration has no instances, or
if the type is that of its instances. -/
theorem Grows.learn {table grown : TypeTable} (before : linkage.Grows table grown)
    {number : Nat} {type : TypeIndex}
    (right : ∀ name, linkage.DeclaresObject number name →
      grown.pool.entry type = .named number name) :
    linkage.Grows table (grown.learn number type) := by
  refine before.trans ⟨.refl _, fun remembers other name remembered declares known => ?_⟩
  by_cases same : number = other
  · subst same
    have sameType : type = remembered := by
      simp only [TypeTable.known?, TypeTable.learn, Array.getElem?_setIfInBounds_self] at known
      split at known
      · exact Option.some.inj known
      · cases known
    exact sameType ▸ right name declares
  · rw [known?_learn_of_ne same] at known
    exact remembers other name remembered declares known

/-! ## Lowering -/

theorem not_declaresObject {number : Nat} {declaration : Declaration}
    (declared : linkage.declarations[number]? = some declaration)
    (other : declaration.kind ≠ .class_ ∧ declaration.kind ≠ .interface_) (name : String) :
    ¬linkage.DeclaresObject number name := by
  rintro ⟨_, found, isObject, _⟩
  rw [declared] at found
  cases found
  exact isObject.elim other.1 other.2

/-- A class or interface is given the type of its instances. -/
theorem entry_make_named {table : TypeTable} {number : Nat} {declaration : Declaration}
    {name : String} (declared : linkage.declarations[number]? = some declaration)
    (declares : linkage.DeclaresObject number name) :
    let made := table.make (·.named number declaration.name)
    made.2.pool.entry made.1 = .named number name := by
  obtain ⟨other, found, _, rfl⟩ := declares
  rw [declared] at found
  cases found
  exact Pool.entry_intern fun part isPart => absurd isPart List.not_mem_nil

variable (linkage)

-- The functions that lower types call each other, so these are proved together, by the same
-- recursion. Every case is a chain of calls, and at its end a type is made or remembered.
mutual

theorem grows_lowerDeclaration (path : List Nat) (table : TypeTable) (number : Nat) :
    linkage.Grows table (linkage.lowerDeclaration path table number).2 := by
  rw [lowerDeclaration]
  split
  · exact .refl table
  · split
    · next inside =>
        have declared := Array.getElem?_eq_getElem inside
        dsimp only
        cases isForm : linkage.declarations[number].form with
        | classType form =>
            exact ((Grows.refl table).make fun pool => pool.grows_intern _).learn
              fun name declares => entry_make_named declared declares
        | interfaceType form =>
            exact ((Grows.refl table).make fun pool => pool.grows_intern _).learn
              fun name declares => entry_make_named declared declares
        | typeAlias form =>
            dsimp only
            split
            · next fresh =>
                have := unvisited_cons_lt (List.mem_range.2 inside) fresh
                refine (grows_lower (number :: path) table _ form.type).learn fun name declares =>
                  absurd declares (not_declaresObject declared ?_ name)
                simp [Declaration.kind, DeclarationForm.kind, isForm]
            · exact .refl table
        | binding form =>
            dsimp only
            split
            · next fresh =>
                have := unvisited_cons_lt (List.mem_range.2 inside) fresh
                refine Grows.learn ?_ fun name declares =>
                  absurd declares (not_declaresObject declared ?_ name)
                · split
                  · exact grows_lower (number :: path) table _ _
                  · split
                    · exact .refl table
                    · exact grows_lowerDeclaration (number :: path) table _
                  · exact .refl table
                · simp [Declaration.kind, DeclarationForm.kind, isForm]
            · exact .refl table
    · exact .refl table
termination_by (unvisited linkage.numbers path, 0)

theorem grows_lower (path : List Nat) (table : TypeTable) (file : Nat) (type : TypeExpression) :
    linkage.Grows table (linkage.lower path table file type).2 := by
  rw [lower.eq_def]
  split
  · next name arguments _ =>
    split
    · exact .refl table
    · split
      · split
        · exact .refl table
        · exact grows_lowerDeclaration path table _
      · split
        · next element _ =>
          split
          · exact (grows_lower path table file element).make fun pool => pool.grows_intern _
          · exact (Grows.refl table).make fun pool => pool.grows_intern _
        · exact (Grows.refl table).make fun pool => pool.grows_intern _
  · next element _ =>
    exact (grows_lower path table file element).make fun pool => pool.grows_intern _
  · next members _ =>
    exact (grows_lowerAll path table file members).make fun pool => pool.grows_union _
  · next members _ =>
    exact (grows_lowerAll path table file members).make fun pool => pool.grows_intersection _
  · next members _ =>
    exact (grows_lowerMembers path table file [] members).make fun pool => pool.grows_intern _
  · next parameters result _ =>
    exact ((grows_lowerParameters path table file parameters).trans
      (grows_lower path _ file result)).make fun pool => pool.grows_intern _
  · next elements _ =>
    exact (grows_lowerAll path table file elements).make fun pool => pool.grows_intern _
  · exact (Grows.refl table).make fun pool => pool.grows_intern _
  · split
    · split
      · exact grows_lowerDeclaration path table _
      · exact .refl table
    · exact .refl table
  · exact .refl table
  · exact .refl table
termination_by (unvisited linkage.numbers path, sizeOf type)

theorem grows_lowerAll (path : List Nat) (table : TypeTable) (file : Nat)
    (types : List TypeExpression) :
    linkage.Grows table (linkage.lowerAll path table file types).2 := by
  cases types with
  | nil =>
      rw [lowerAll]
      exact .refl table
  | cons type others =>
      rw [lowerAll]
      exact (grows_lower path table file type).trans (grows_lowerAll path _ file others)
termination_by (unvisited linkage.numbers path, sizeOf types)

theorem grows_lowerIfAny (path : List Nat) (table : TypeTable) (file : Nat)
    (type : Option TypeExpression) :
    linkage.Grows table (linkage.lowerIfAny path table file type).2 := by
  cases type with
  | none =>
      rw [lowerIfAny]
      exact .refl table
  | some type =>
      rw [lowerIfAny]
      exact grows_lower path table file type
termination_by (unvisited linkage.numbers path, sizeOf type)

theorem grows_lowerParameters (path : List Nat) (table : TypeTable) (file : Nat)
    (parameters : List Parameter) :
    linkage.Grows table (linkage.lowerParameters path table file parameters).2 := by
  cases parameters with
  | nil =>
      rw [lowerParameters]
      exact .refl table
  | cons parameter others =>
      have := parameter.sizeOf_type_lt
      rw [lowerParameters]
      exact (grows_lowerIfAny path table file parameter.type).trans
        (grows_lowerParameters path _ file others)
termination_by (unvisited linkage.numbers path, sizeOf parameters)

theorem grows_lowerMembers (path : List Nat) (table : TypeTable) (file : Nat)
    (before : List Member) (members : List TypeMember) :
    linkage.Grows table (linkage.lowerMembers path table file before members).2 := by
  cases members with
  | nil =>
      rw [lowerMembers]
      exact .refl table
  | cons member others =>
      rw [lowerMembers.eq_def]
      dsimp only
      split
      · exact grows_lowerMembers path table file before others
      · obtain ⟨_, _, _, form, _⟩ := member
        cases form with
        | property type =>
            exact (grows_lowerIfAny path table file type).trans
              (grows_lowerMembers path _ file _ others)
        | method parameters result =>
            exact (grows_lowerMethod path table file parameters result).trans
              (grows_lowerMembers path _ file _ others)
termination_by (unvisited linkage.numbers path, sizeOf members)

theorem grows_lowerMethod (path : List Nat) (table : TypeTable) (file : Nat)
    (parameters : List Parameter) (result : Option TypeExpression) :
    linkage.Grows table (linkage.lowerMethod path table file parameters result).2 := by
  rw [lowerMethod]
  exact ((grows_lowerParameters path table file parameters).trans
    (grows_lowerIfAny path _ file result)).make fun pool => pool.grows_intern _
termination_by (unvisited linkage.numbers path, sizeOf parameters + sizeOf result + 1)

end

/-! ## The members and the types of declarations -/

theorem grows_addParameterProperties (file : Nat) (state : List Member × TypeTable)
    (parameters : List Parameter) :
    linkage.Grows state.2 (linkage.addParameterProperties file state parameters).2 := by
  induction parameters generalizing state with
  | nil => exact .refl state.2
  | cons parameter others ih =>
      rw [addParameterProperties]
      split
      · refine Grows.trans ?_ (ih _)
        exact linkage.grows_lowerIfAny [] state.2 file parameter.type
      · exact ih state

theorem grows_addClassMember (file : Nat) (state : List Member × TypeTable)
    (member : ClassMember) :
    linkage.Grows state.2 (linkage.addClassMember file state member).2 := by
  cases member with
  | property property =>
      rw [addClassMember]
      split
      · exact .refl state.2
      · exact linkage.grows_lowerIfAny [] state.2 file property.type
  | method method =>
      rw [addClassMember]
      split
      · exact .refl state.2
      · exact linkage.grows_lowerMethod [] state.2 file method.parameters method.result
  | constructor member => exact linkage.grows_addParameterProperties file state member.parameters

theorem grows_foldl_addClassMember (file : Nat) (members : List ClassMember)
    (state : List Member × TypeTable) :
    linkage.Grows state.2 (members.foldl (linkage.addClassMember file) state).2 := by
  induction members generalizing state with
  | nil => exact .refl state.2
  | cons member others ih => exact (linkage.grows_addClassMember file state member).trans (ih _)

/-- The members of a class or an interface are lowered into the same pool. -/
theorem grows_ownMembers (table : TypeTable) (declaration : Declaration) :
    linkage.Grows table (linkage.ownMembers table declaration).2 := by
  unfold ownMembers
  split
  · exact linkage.grows_foldl_addClassMember _ _ ([], table)
  · exact linkage.grows_lowerMembers [] table _ [] _
  · exact .refl table
  · exact .refl table

/-- The type of a class or an interface is that of its instances, whether it is remembered
or made. -/
theorem entry_lowerDeclaration {table : TypeTable} (remembers : linkage.Remembers table)
    {number : Nat} {name : String} (declares : linkage.DeclaresObject number name)
    (path : List Nat) :
    let lowered := linkage.lowerDeclaration path table number
    lowered.2.pool.entry lowered.1 = .named number name := by
  obtain ⟨declaration, declared, isObject, rfl⟩ := declares
  obtain ⟨inside, same⟩ := Array.getElem?_eq_some_iff.1 declared
  rw [lowerDeclaration]
  cases known : table.known? number with
  | some type => exact remembers number _ type ⟨_, declared, isObject, rfl⟩ known
  | none =>
      dsimp only
      rw [dif_pos inside, same]
      cases isForm : declaration.form with
      | classType form => exact entry_make_named declared ⟨_, declared, isObject, rfl⟩
      | interfaceType form => exact entry_make_named declared ⟨_, declared, isObject, rfl⟩
      | typeAlias form => simp [Declaration.kind, DeclarationForm.kind, isForm] at isObject
      | binding form => simp [Declaration.kind, DeclarationForm.kind, isForm] at isObject

theorem remembers_empty : linkage.Remembers (.empty linkage) := by
  intro number name type declares known
  simp only [TypeTable.known?, TypeTable.empty, Array.getElem?_replicate] at known
  split at known <;> cases known

/-- What is known when the first declarations have been lowered. -/
theorem entry_foldl_lowerDeclaration (count : Nat) :
    let lowered := (List.range count).foldl
      (fun (types, table) number =>
        let (type, table) := linkage.lowerDeclaration [] table number
        (types.push type, table))
      ((#[], .empty linkage) : Array TypeIndex × TypeTable)
    lowered.1.size = count ∧ linkage.Remembers lowered.2 ∧
      ∀ number name, number < count → linkage.DeclaresObject number name →
        lowered.2.pool.entry ((lowered.1[number]?).getD .error) = .named number name := by
  induction count with
  | zero =>
      exact ⟨rfl, linkage.remembers_empty, fun _ _ impossible => absurd impossible (by simp)⟩
  | succ count ih =>
      rw [List.range_succ, List.foldl_append]
      generalize (List.range count).foldl _ _ = before at ih ⊢
      obtain ⟨size, remembers, right⟩ := ih
      have grows := linkage.grows_lowerDeclaration [] before.2 count
      refine ⟨by simp [size], grows.remembers remembers, fun number name inside declares => ?_⟩
      simp only [List.foldl_cons, List.foldl_nil]
      rcases Nat.lt_succ_iff_lt_or_eq.1 inside with earlier | rfl
      · have same : (before.1.push (linkage.lowerDeclaration [] before.2 count).1)[number]? =
            before.1[number]? := by
          rw [Array.getElem?_push, if_neg (Nat.ne_of_lt (size ▸ earlier))]
        rw [same]
        exact grows.pool.entry_eq (right number name earlier declares) PoolEntry.noConfusion
      · subst size
        rw [Array.getElem?_push_size, Option.getD_some]
        exact linkage.entry_lowerDeclaration remembers declares []

/-- **Every class and interface gets the type of its instances.** -/
theorem entry_declarationTypes {number : Nat} {name : String}
    (declares : linkage.DeclaresObject number name) :
    let (types, table) := linkage.declarationTypes (.empty linkage)
    table.pool.entry ((types[number]?).getD .error) = .named number name := by
  obtain ⟨declaration, declared, _⟩ := id declares
  obtain ⟨inside, _⟩ := Array.getElem?_eq_some_iff.1 declared
  exact (linkage.entry_foldl_lowerDeclaration _).2.2 number name inside declares

end Linkage

end InjectionCheck
