import InjectionCheck.Proofs.NominalClasses
import InjectionCheck.Proofs.TidyPools

/-!
# What fits a union, and what an intersection fits

A union of types is above each of them, and nothing smaller would do: it fits a type if and only
if each of them does (`union_fits_iff`). This is so however the union is put together. Unions
among the types give their members, repetitions are dropped, and what is left may be one type
only, or none.

An intersection of types is not always below each of them. Where a union is compared with, one of
its alternatives is chosen before the intersection is taken apart, and that the union itself is
among the types does not count. So the intersection fits one of its types if and only if, for each
part of the type that is a union, it fits one alternative (`union_above_intersection_below`).
-/

set_option autoImplicit false

namespace InjectionCheck

/-! ## What is made of some types -/

namespace Pool

variable {pool : Pool} {types : List TypeIndex}

theorem mem_withoutRepeats {type : TypeIndex} : type ∈ withoutRepeats types ↔ type ∈ types :=
  mem_firsts

/-- What the union of types in use is, depending on their different members. -/
theorem union_cases (inUse : ∀ type ∈ types, type.number < pool.size) :
    (withoutRepeats (types.flatMap pool.unionMembers) = [] ∧
        (pool.union types).1 = .ofPrimitive .never) ∨
      withoutRepeats (types.flatMap pool.unionMembers) = [(pool.union types).1] ∨
      (pool.union types).2.entry (pool.union types).1 =
        .union (withoutRepeats (types.flatMap pool.unionMembers)) :=
  Connective.union.join_cases inUse

/-- What the intersection of types in use is, depending on their different members. -/
theorem intersection_cases (inUse : ∀ type ∈ types, type.number < pool.size) :
    (withoutRepeats (types.flatMap pool.intersectionMembers) = [] ∧
        (pool.intersection types).1 = .ofPrimitive .unknown) ∨
      withoutRepeats (types.flatMap pool.intersectionMembers) = [(pool.intersection types).1] ∨
      (pool.intersection types).2.entry (pool.intersection types).1 =
        .intersection (withoutRepeats (types.flatMap pool.intersectionMembers)) :=
  Connective.intersection.join_cases inUse

end Pool

namespace ShapeTable

variable {table : ShapeTable} {source target : TypeIndex} {members : List TypeIndex}

/-! ## Types that fit anyway -/

/-- A type that is made up by the pool and declared if it has a name: it is not everything or
nothing, and something is known of it. -/
def IsProper (table : ShapeTable) (type : TypeIndex) : Prop :=
  table.pool.entry type ≠ .reserved ∧ ∀ name, table.pool.entry type ≠ .unresolved name

theorem IsProper.of_union (isUnion : table.pool.entry source = .union members) :
    table.IsProper source := by
  simp [IsProper, isUnion]

theorem IsProper.of_intersection
    (isIntersection : table.pool.entry source = .intersection members) :
    table.IsProper source := by
  simp [IsProper, isIntersection]

theorem IsProper.isIndeterminate (proper : table.IsProper source) :
    table.pool.isIndeterminate source = false := by
  have notError : source ≠ .error := Pool.ne_ofPrimitive proper.1 .error
  simp only [Pool.isIndeterminate, notError, decide_false, Bool.false_or]
  cases found : table.pool.entry source with
  | unresolved name => exact absurd found (proper.2 name)
  | _ => rfl

/-- A proper type fits anyway if it is the same as the other one, or everything fits the other
one. -/
theorem IsProper.fitsAnyway (proper : table.IsProper source)
    (anyway : table.fitsAnyway source target = true) :
    source = target ∨ ∀ other, table.fitsAnyway other target = true := by
  have notPrimitive := Pool.ne_ofPrimitive proper.1
  simp only [ShapeTable.fitsAnyway, proper.isIndeterminate, Bool.or_eq_true, decide_eq_true_eq,
    TypeIndex.any, notPrimitive .any, notPrimitive .never, or_false, Bool.false_eq_true]
    at anyway ⊢
  tauto

/-- A proper type fits another one anyway only if they are the same. -/
theorem IsProper.fitsAnyway_eq (proper : table.IsProper source) (proper' : table.IsProper target) :
    table.fitsAnyway source target = decide (source = target) := by
  have notPrimitive := Pool.ne_ofPrimitive proper.1
  have notPrimitive' := Pool.ne_ofPrimitive proper'.1
  simp [ShapeTable.fitsAnyway, proper.isIndeterminate, proper'.isIndeterminate, TypeIndex.any,
    notPrimitive .any, notPrimitive .never, notPrimitive' .any, notPrimitive' .unknown]

/-! ## Unions -/

/-- The rule for a union and another type that does not fit anyway. -/
theorem isAssignable_of_union (isUnion : table.pool.entry source = .union members)
    (different : table.fitsAnyway source target = false) :
    table.isAssignable source target =
      members.all fun member => table.isAssignable member target := by
  rw [isAssignable_eq_eval, rule, different, isUnion]
  exact Formula.eval_all _ _

/-- The rule for a type that is no union and does not fit anyway, and a union. -/
theorem isAssignable_to_union (isUnion : table.pool.entry target = .union members)
    (noUnion : ∀ others, table.pool.entry source ≠ .union others)
    (different : table.fitsAnyway source target = false) :
    table.isAssignable source target =
      members.any fun member => table.isAssignable source member := by
  rw [isAssignable_eq_eval, rule, different, isUnion]
  cases found : table.pool.entry source with
  | union others => exact absurd found (noUnion others)
  | _ => exact Formula.eval_any _ _

/-- **What fits one alternative fits the union.** The proof follows the members of the type, which
have smaller numbers. -/
theorem isAssignable_union_of_mem (isUnion : table.pool.entry target = .union members)
    {member : TypeIndex} (inside : member ∈ members)
    (fits : table.isAssignable source member = true) :
    table.isAssignable source target = true := by
  induction smaller : source.number using Nat.strongRecOn generalizing source target members member
    with
  | _ _ ih =>
    subst smaller
    by_cases anyway : table.fitsAnyway source target = true
    · exact table.fits_of_fitsAnyway anyway []
    rw [Bool.not_eq_true] at anyway
    by_cases noUnion : ∀ others, table.pool.entry source ≠ .union others
    · rw [isAssignable_to_union isUnion noUnion anyway]
      exact List.any_eq_true.2 ⟨member, inside, fits⟩
    push Not at noUnion
    obtain ⟨parts, isParts⟩ := noUnion
    rw [isAssignable_of_union isParts anyway, List.all_eq_true]
    intro part isPart
    have less : part.number < source.number := Pool.part_lt isParts isPart
    refine ih part.number less isUnion inside ?_ rfl
    by_cases anyway' : table.fitsAnyway source member = true
    · obtain rfl | everything := (IsProper.of_union isParts).fitsAnyway anyway'
      · exact ih part.number less isParts isPart (table.fits_refl [] part) rfl
      · exact table.fits_of_fitsAnyway (everything part) []
    · rw [isAssignable_of_union isParts (Bool.not_eq_true _ ▸ anyway'), List.all_eq_true] at fits
      exact fits part isPart

/-- **A union fits what all its members fit,** and nothing else. -/
theorem isAssignable_union_iff (isUnion : table.pool.entry source = .union members) :
    table.isAssignable source target = true ↔
      ∀ member ∈ members, table.isAssignable member target = true := by
  by_cases anyway : table.fitsAnyway source target = true
  · refine iff_of_true (table.fits_of_fitsAnyway anyway []) fun member inside => ?_
    obtain rfl | everything := (IsProper.of_union isUnion).fitsAnyway anyway
    · exact isAssignable_union_of_mem isUnion inside (table.fits_refl [] member)
    · exact table.fits_of_fitsAnyway (everything member) []
  · rw [isAssignable_of_union isUnion (Bool.not_eq_true _ ▸ anyway), List.all_eq_true]

/-- A type fits what its members as a union fit. -/
theorem isAssignable_iff_unionMembers :
    table.isAssignable source target = true ↔
      ∀ member ∈ table.pool.unionMembers source, table.isAssignable member target = true := by
  unfold Pool.unionMembers
  split
  · next members isUnion => exact isAssignable_union_iff isUnion
  · simp

/-! ## Intersections -/

/-- The rule for a type that is no union and does not fit anyway, and an intersection. -/
theorem isAssignable_to_intersection
    (isIntersection : table.pool.entry target = .intersection members)
    (noUnion : ∀ others, table.pool.entry source ≠ .union others)
    (different : table.fitsAnyway source target = false) :
    table.isAssignable source target =
      members.all fun member => table.isAssignable source member := by
  rw [isAssignable_eq_eval, rule, different, isIntersection]
  cases found : table.pool.entry source with
  | union others => exact absurd found (noUnion others)
  | _ => exact Formula.eval_all _ _

/-- The rule for an intersection and a type that is neither a union nor an intersection. -/
theorem isAssignable_of_intersection
    (isIntersection : table.pool.entry source = .intersection members)
    (noUnion : ∀ others, table.pool.entry target ≠ .union others)
    (noIntersection : ∀ others, table.pool.entry target ≠ .intersection others)
    (different : table.fitsAnyway source target = false) :
    table.isAssignable source target =
      ((members.any fun member => table.isAssignable member target) ||
        table.fitsByMembers [] source target) := by
  rw [isAssignable_eq_eval, rule, different, isIntersection]
  cases found : table.pool.entry target with
  | union others => exact absurd found (noUnion others)
  | intersection others => exact absurd found (noIntersection others)
  | _ => exact congrArg (· || _) (Formula.eval_any _ _)

/-- **When an intersection fits one of its members:** a union among them is fitted only through
one of its alternatives. -/
theorem intersection_fits_member_iff
    (isIntersection : table.pool.entry source = .intersection members) {member : TypeIndex}
    (inside : member ∈ members) (flat : ∀ others, table.pool.entry member ≠ .intersection others) :
    table.isAssignable source member = true ↔
      ∀ alternatives, table.pool.entry member = .union alternatives →
        ∃ alternative ∈ alternatives, table.isAssignable source alternative = true := by
  have proper := IsProper.of_intersection isIntersection
  by_cases noUnion : ∀ others, table.pool.entry member ≠ .union others
  · refine iff_of_true ?_ fun alternatives isUnion => absurd isUnion (noUnion alternatives)
    by_cases anyway : table.fitsAnyway source member = true
    · exact table.fits_of_fitsAnyway anyway []
    · rw [isAssignable_of_intersection isIntersection noUnion flat (Bool.not_eq_true _ ▸ anyway),
        Bool.or_eq_true, List.any_eq_true]
      exact .inl ⟨member, inside, table.fits_refl [] member⟩
  · push Not at noUnion
    obtain ⟨alternatives, isUnion⟩ := noUnion
    have different : table.fitsAnyway source member = false := by
      rw [proper.fitsAnyway_eq (.of_union isUnion), decide_eq_false]
      rintro rfl
      exact flat members isIntersection
    rw [isAssignable_to_union isUnion (by simp [isIntersection]) different, List.any_eq_true]
    refine ⟨fun chosen others isUnion' => ?_, fun chosen => chosen alternatives isUnion⟩
    rw [isUnion] at isUnion'
    cases isUnion'
    exact chosen

/-- **When an intersection fits a type whose parts are among its members:** it is that type, or
fits each part. -/
theorem intersection_fits_iff
    (isIntersection : table.pool.entry source = .intersection members)
    (inside : ∀ part ∈ table.pool.intersectionMembers target, part ∈ members)
    (flat : ∀ member ∈ members, ∀ others, table.pool.entry member ≠ .intersection others) :
    table.isAssignable source target = true ↔ source = target ∨
      ∀ part ∈ table.pool.intersectionMembers target,
        ∀ alternatives, table.pool.entry part = .union alternatives →
          ∃ alternative ∈ alternatives, table.isAssignable source alternative = true := by
  by_cases same : source = target
  · exact iff_of_true (same ▸ table.fits_refl [] source) (.inl same)
  have each : ∀ part ∈ table.pool.intersectionMembers target,
      table.isAssignable source part = true ↔
        ∀ alternatives, table.pool.entry part = .union alternatives →
          ∃ alternative ∈ alternatives, table.isAssignable source alternative = true :=
    fun part isPart => intersection_fits_member_iff isIntersection (inside part isPart)
      (flat part (inside part isPart))
  rw [or_iff_right same, ← forall₂_congr each]
  unfold Pool.intersectionMembers
  split
  · next parts isParts =>
      have different : table.fitsAnyway source target = false := by
        rw [(IsProper.of_intersection isIntersection).fitsAnyway_eq (.of_intersection isParts),
          decide_eq_false same]
      rw [isAssignable_to_intersection isParts (by simp [isIntersection]) different,
        List.all_eq_true]
  · simp

/-! ## Texts -/

/-- What fits the type of one text, and does not fit anyway. -/
theorem isAssignable_to_text {content : String}
    (isText : table.pool.entry target = .stringLiteral content)
    (different : table.fitsAnyway source target = false) :
    table.isAssignable source target =
      match table.pool.entry source with
      | .union members => members.all fun member => table.isAssignable member target
      | .intersection members => members.any fun member => table.isAssignable member target
      | _ => false := by
  have noMembers : table.members? target = none := by
    rw [members?]
    split <;> simp_all
  have noFit : table.fitsByMembers [] source target = false := by
    rw [fitsByMembers, noMembers]
  rw [isAssignable_eq_eval, rule, different, isText]
  cases table.pool.entry source <;>
    simp [Formula.eval, Formula.eval_all, Formula.eval_any, answer,
      hasNoRequiredMember, noMembers, noFit, isAssignable]

/-- Neither all strings nor an alternative of a union fit another text. -/
theorem intersection_misfits_text {union text other : TypeIndex} {alternatives : List TypeIndex}
    {content content' : String}
    (isIntersection : table.pool.entry source = .intersection [union, .ofPrimitive .string])
    (isUnion : table.pool.entry union = .union alternatives) (inside : other ∈ alternatives)
    (isText : table.pool.entry text = .stringLiteral content)
    (isOther : table.pool.entry other = .stringLiteral content') (different : other ≠ text) :
    table.isAssignable source text = false := by
  have proper : table.IsProper text := by simp [IsProper, isText]
  have properOther : table.IsProper other := by simp [IsProper, isOther]
  have otherMisfits : table.isAssignable other text = false := by
    rw [isAssignable_to_text isText (by rw [properOther.fitsAnyway_eq proper]; simp [different]),
      isOther]
  have unionMisfits : table.isAssignable union text = false := by
    rw [Bool.eq_false_iff, ne_eq, isAssignable_union_iff isUnion]
    exact fun each => Bool.false_ne_true (otherMisfits.symm.trans (each other inside))
  have stringsMisfit : table.isAssignable (.ofPrimitive .string) text = false := by
    obtain ⟨notAny, notNever, known⟩ := table.pool.definite_string _ (.self _)
    have notText := (Pool.ne_ofPrimitive proper.1 .string).symm
    have textNotAny : text ≠ .any := Pool.ne_ofPrimitive proper.1 .any
    have textNotUnknown := Pool.ne_ofPrimitive proper.1 .unknown
    rw [isAssignable_to_text isText ?_, Pool.entry_ofPrimitive]
    simp [fitsAnyway, notAny, notNever, known, notText, textNotAny, textNotUnknown,
      proper.isIndeterminate]
  have notSame : source ≠ text := by
    rintro rfl
    rw [isIntersection] at isText
    cases isText
  rw [isAssignable_to_text isText ?_, isIntersection]
  · simp [unionMisfits, stringsMisfit]
  · rw [(IsProper.of_intersection isIntersection).fitsAnyway_eq proper,
      decide_eq_false notSame]

/-- A text is a string. -/
theorem text_fits_string {content : String}
    (isText : table.pool.entry source = .stringLiteral content) :
    table.isAssignable source (.ofPrimitive .string) = true := by
  by_cases anyway : table.fitsAnyway source (.ofPrimitive .string) = true
  · exact table.fits_of_fitsAnyway anyway []
  · rw [isAssignable_eq_eval, rule, if_neg anyway, isText, Pool.entry_ofPrimitive]
    simp only [Formula.eval, fitsPrimitive, isText]
    rfl

/-! ## Types that are made -/

variable (table)

/-- A type that the pool of a program makes, and the tables with the pool that holds it. -/
def make (constructor : Pool → TypeIndex × Pool) : TypeIndex × ShapeTable :=
  let (type, types) := table.types.make constructor
  (type, { table with types })

variable {table}

/-- Types that are in use keep what they stand for. -/
theorem entry_make {type : TypeIndex} (inUse : type.number < table.pool.size)
    {constructor : Pool → TypeIndex × Pool}
    (grows : table.pool.Grows (constructor table.pool).2) :
    (table.make constructor).2.pool.entry type = table.pool.entry type :=
  grows.entry_eq_of_lt inUse

end ShapeTable

namespace Program

/-! ## Two texts and their union -/

/-- A program with the texts `red` and `green` as types, and their union. -/
def lights : Program :=
  ((ofFiles []).lowerType 0
    ⟨.union [⟨.stringLiteral "red", .origin⟩, ⟨.stringLiteral "green", .origin⟩], .origin⟩).2

theorem fromFiles_lights : lights.FromFiles := .lowerType _ _ (.ofFiles [])

theorem entries_lights : lights.table.pool.entries =
    #[.stringLiteral "red", .stringLiteral "green", .union [⟨64⟩, ⟨65⟩]] := by
  simp only [lights, lowerType, ShapeTable.pool, Linkage.lower, Linkage.lowerAll]
  decide +kernel

/-- What the three types stand for. -/
theorem entry_lights : lights.table.pool.entry ⟨64⟩ = .stringLiteral "red" ∧
    lights.table.pool.entry ⟨65⟩ = .stringLiteral "green" ∧
    lights.table.pool.entry ⟨66⟩ = .union [⟨64⟩, ⟨65⟩] := by
  simp [Pool.entry, entries_lights, TypeIndex.isReserved, TypeIndex.reservedCount]

/-- The union of the two texts, and all strings. -/
def lightTypes : List TypeIndex := [⟨66⟩, .ofPrimitive .string]

theorem has_lightTypes : ∀ type ∈ lightTypes, lights.table.pool.Has type := by
  simp only [lightTypes, List.mem_cons, List.not_mem_nil, or_false, forall_eq_or_imp, forall_eq]
  exact ⟨.inr (by simp [entry_lights]), .inl (by decide)⟩

/-- All these types fit all strings, whatever else the pool holds. -/
theorem lightTypes_fit_strings {table : ShapeTable}
    (grows : lights.table.pool.Grows table.pool) :
    ∀ type ∈ ⟨64⟩ :: lightTypes, table.isAssignable type (.ofPrimitive .string) = true := by
  have red : table.isAssignable ⟨64⟩ (.ofPrimitive .string) = true :=
    ShapeTable.text_fits_string (grows.entry_eq entry_lights.1 PoolEntry.noConfusion)
  have green : table.isAssignable ⟨65⟩ (.ofPrimitive .string) = true :=
    ShapeTable.text_fits_string (grows.entry_eq entry_lights.2.1 PoolEntry.noConfusion)
  have both : table.isAssignable ⟨66⟩ (.ofPrimitive .string) = true := by
    refine (ShapeTable.isAssignable_union_iff
      (grows.entry_eq entry_lights.2.2 PoolEntry.noConfusion)).2 ?_
    simp only [List.mem_cons, List.not_mem_nil, or_false, forall_eq_or_imp, forall_eq]
    exact ⟨red, green⟩
  simp only [lightTypes, List.mem_cons, List.not_mem_nil, or_false, forall_eq_or_imp, forall_eq]
  exact ⟨red, both, ShapeTable.fits_refl _ [] _⟩

end Program

/-! ## Unions of types -/

namespace ShapeTable

variable {table : ShapeTable} {types : List TypeIndex}

/-- Types fit where the members that they give to their union do. -/
theorem all_fit_iff_unionMembers (inUse : ∀ type ∈ types, type.number < table.pool.size)
    (target : TypeIndex) :
    (∀ type ∈ types, (table.make (·.union types)).2.isAssignable type target = true) ↔
      ∀ member ∈ Pool.withoutRepeats (types.flatMap table.pool.unionMembers),
        (table.make (·.union types)).2.isAssignable member target = true := by
  simp only [Pool.mem_withoutRepeats, List.forall_mem_flatMap]
  refine forall₂_congr fun type inside => ?_
  rw [isAssignable_iff_unionMembers, Pool.unionMembers,
    entry_make (inUse type inside) (table.pool.grows_union types)]
  exact Iff.rfl

/-- The union of types fits where the members that they give to it do. -/
theorem make_union_fits_iff (inUse : ∀ type ∈ types, type.number < table.pool.size)
    (target : TypeIndex) :
    (table.make (·.union types)).2.isAssignable (table.make (·.union types)).1 target = true ↔
      ∀ member ∈ Pool.withoutRepeats (types.flatMap table.pool.unionMembers),
        (table.make (·.union types)).2.isAssignable member target = true := by
  obtain ⟨none, isNever⟩ | single | isUnion := Pool.union_cases inUse
  · rw [none, show (table.make (·.union types)).1 = .ofPrimitive .never from isNever]
    exact iff_of_true (fits_of_fitsAnyway _ (by simp [fitsAnyway]) []) nofun
  · rw [single]
    simp only [List.mem_singleton, forall_eq]
    exact Iff.rfl
  · exact isAssignable_union_iff isUnion

/-- **A union of types fits a type if and only if each of them does,** whether or not it is one of
the types that are compared, and whatever is left of the types when unions among them have given
their members and repetitions have been dropped. -/
theorem union_fits_iff (inUse : ∀ type ∈ types, type.number < table.pool.size)
    (target : TypeIndex) :
    let (union, after) := table.make (·.union types)
    after.isAssignable union target = true ↔
      ∀ type ∈ types, after.isAssignable type target = true :=
  (make_union_fits_iff inUse target).trans (all_fit_iff_unionMembers inUse target).symm

end ShapeTable

namespace Program

/-- The union of a text, of a union with the same text, and of all strings, fits all strings. -/
theorem union_fits_iff_lights :
    (∀ type ∈ ⟨64⟩ :: lightTypes, type.number < lights.table.pool.size) ∧
      let (union, after) := lights.table.make (·.union (⟨64⟩ :: lightTypes))
      after.isAssignable union (.ofPrimitive .string) = true := by
  have inUse : ∀ type ∈ ⟨64⟩ :: lightTypes, type.number < lights.table.pool.size :=
    List.forall_mem_cons.2 ⟨Pool.lt_size (by simp [entry_lights]),
      fun type inside => (has_lightTypes type inside).lt_size⟩
  refine ⟨inUse, (ShapeTable.union_fits_iff inUse _).2 ?_⟩
  exact lightTypes_fit_strings (lights.table.pool.grows_union (⟨64⟩ :: lightTypes))

end Program

/-! ## Intersections of types -/

namespace Linkage

variable {linkage : Linkage} {table : TypeTable} {type part : TypeIndex}

/-- The members of a tidy type as an intersection are no intersections, and there are no others if
there is only one. -/
theorem Tidy.intersectionMembers (tidy : linkage.Tidy table) (type : TypeIndex) :
    table.pool.intersectionMembers type = [type] ∧
        (∀ others, table.pool.entry type ≠ .intersection others) ∨
      ∃ members, table.pool.entry type = .intersection members ∧
        table.pool.intersectionMembers type = members ∧ 2 ≤ members.length ∧ members.Nodup := by
  unfold Pool.intersectionMembers
  split
  · next members found =>
      have admits := tidy.entries type
      rw [found] at admits
      exact .inr ⟨members, found, rfl, admits.1, admits.2.1⟩
  · next other => exact .inl ⟨rfl, other⟩

/-- A tidy type that consists of one member only, as an intersection, is this member. -/
theorem Tidy.eq_of_intersectionMembers (tidy : linkage.Tidy table)
    (single : ∀ member ∈ table.pool.intersectionMembers type, member = part) : type = part := by
  obtain ⟨isOne, _⟩ | ⟨members, _, same, several, distinct⟩ := tidy.intersectionMembers type
  · exact single type (isOne ▸ List.mem_singleton_self type)
  · rw [same] at single
    have repeated := List.eq_replicate_of_mem single
    have := List.nodup_replicate.1 (repeated ▸ distinct)
    omega

end Linkage

namespace Program

/-- **A union is above its types, and when an intersection is below one of its types.** Each type
fits the union. The intersection fits a type that it is itself, and a type whose parts it fits one
by one, where a part that is a union counts as fitted only if one of its alternatives is. -/
theorem union_above_intersection_below {program : Program} {types : List TypeIndex}
    (made : program.FromFiles)
    (has : ∀ type ∈ types, program.table.pool.Has type) :
    (let (union, after) := program.table.make (·.union types)
     ∀ type ∈ types, after.isAssignable type union = true) ∧
    let (intersection, after) := program.table.make (·.intersection types)
    ∀ type ∈ types, (after.isAssignable intersection type = true ↔ intersection = type ∨
      ∀ part ∈ program.table.pool.intersectionMembers type,
        ∀ alternatives, program.table.pool.entry part = .union alternatives →
          ∃ alternative ∈ alternatives, after.isAssignable intersection alternative = true) := by
  have inUse : ∀ type ∈ types, type.number < program.table.pool.size :=
    fun type inside => (has type inside).lt_size
  refine ⟨(ShapeTable.all_fit_iff_unionMembers inUse _).2
    ((ShapeTable.make_union_fits_iff inUse _).1 (ShapeTable.fits_refl _ [] _)), ?_⟩
  have tidy := made.tidy
  dsimp only
  intro type isType
  have parts : ∀ part ∈ program.table.pool.intersectionMembers type,
      part ∈ Pool.withoutRepeats (types.flatMap program.table.pool.intersectionMembers) :=
    fun part inside => Pool.mem_withoutRepeats.2 (List.mem_flatMap.2 ⟨type, isType, inside⟩)
  obtain ⟨none, _⟩ | single | isIntersection := Pool.intersection_cases inUse
  · -- there is a type, so there is a member
    have isNext : type = ⟨type.number + 1⟩ := tidy.eq_of_intersectionMembers
      fun part inside => absurd (none ▸ parts part inside) List.not_mem_nil
    exact absurd (congrArg TypeIndex.number isNext) (Nat.ne_of_lt (Nat.lt_succ_self _))
  · obtain rfl := tidy.eq_of_intersectionMembers fun part inside =>
      List.mem_singleton.1 (single ▸ parts part inside)
    exact iff_of_true (ShapeTable.fits_refl _ [] _) (.inl rfl)
  · have kept : ∀ {part : TypeIndex}, part.number < program.table.pool.size →
        (program.table.make (·.intersection types)).2.pool.entry part =
          program.table.pool.entry part :=
      fun isUsed => ShapeTable.entry_make isUsed (program.table.pool.grows_intersection types)
    have same : (program.table.make (·.intersection types)).2.pool.intersectionMembers type =
        program.table.pool.intersectionMembers type := by
      rw [Pool.intersectionMembers, kept (inUse type isType)]
      rfl
    have membersInUse : ∀ member ∈ Pool.withoutRepeats
        (types.flatMap program.table.pool.intersectionMembers),
        member.number < program.table.pool.size := by
      intro member inside
      obtain ⟨type, isType, inside⟩ := List.mem_flatMap.1 (Pool.mem_withoutRepeats.1 inside)
      exact Pool.lt_size_of_mem_intersectionMembers (inUse type isType) inside
    have isMade : (program.table.make (·.intersection types)).2.pool.entry
        (program.table.make (·.intersection types)).1 = .intersection _ := isIntersection
    refine (ShapeTable.intersection_fits_iff isMade (same ▸ parts)
      fun member inside others => ?_).trans ?_
    · rw [kept (membersInUse member inside)]
      exact tidy.entry_ne_intersection member inside others
    · rw [same]
      refine or_congr Iff.rfl (forall₂_congr fun part inside => ?_)
      rw [kept (membersInUse part (parts part inside))]

/-- What the intersection of `red | green` with `string` stands for. -/
theorem entry_intersection_lights :
    let made := lights.table.make (·.intersection lightTypes)
    made.2.pool.entry made.1 = .intersection lightTypes := by
  have inUse : ∀ type ∈ lightTypes, type.number < lights.table.pool.size :=
    fun type inside => (has_lightTypes type inside).lt_size
  have members : Pool.withoutRepeats
      (lightTypes.flatMap lights.table.pool.intersectionMembers) = lightTypes := by
    simp only [lightTypes, List.flatMap_cons, List.flatMap_nil, Pool.intersectionMembers,
      entry_lights, Pool.entry_ofPrimitive]
    decide
  obtain ⟨none, _⟩ | single | isMade := Pool.intersection_cases inUse
  · exact absurd (congrArg List.length (members.symm.trans none)) (by decide)
  · exact absurd (congrArg List.length (members.symm.trans single)) (by decide)
  · exact isMade.trans (congrArg PoolEntry.intersection members)

/-- The texts are below their union with all strings, and so is the intersection with all strings
below all strings. -/
theorem union_above_intersection_below_lights :
    lights.FromFiles ∧ (∀ type ∈ lightTypes, lights.table.pool.Has type) ∧
      (let (union, after) := lights.table.make (·.union lightTypes)
       after.isAssignable ⟨66⟩ union = true) ∧
      let (intersection, after) := lights.table.make (·.intersection lightTypes)
      after.isAssignable intersection (.ofPrimitive .string) = true := by
  have bounds := union_above_intersection_below fromFiles_lights has_lightTypes
  refine ⟨fromFiles_lights, has_lightTypes, bounds.1 _ List.mem_cons_self, ?_⟩
  refine (bounds.2 (.ofPrimitive .string) (List.mem_cons_of_mem _ List.mem_cons_self)).2 (.inr ?_)
  simp [Pool.intersectionMembers, Pool.entry_ofPrimitive]

/-- Not every intersection fits all of its types: `(red | green) & string` does not fit
`red | green`. -/
theorem intersection_not_below : ¬∀ (program : Program) (types : List TypeIndex),
    program.FromFiles → (∀ type ∈ types, program.table.pool.Has type) →
      let (intersection, after) := program.table.make (·.intersection types)
      ∀ type ∈ types, after.isAssignable intersection type = true := by
  intro claimed
  have fits := claimed lights lightTypes fromFiles_lights has_lightTypes ⟨66⟩ List.mem_cons_self
  have isIntersection := entry_intersection_lights
  have grows := lights.table.pool.grows_intersection lightTypes
  have red := grows.entry_eq entry_lights.1 PoolEntry.noConfusion
  have green := grows.entry_eq entry_lights.2.1 PoolEntry.noConfusion
  have isUnion := grows.entry_eq entry_lights.2.2 PoolEntry.noConfusion
  -- the intersection would have to fit one of the two texts
  have chosen := (ShapeTable.intersection_fits_member_iff isIntersection List.mem_cons_self
    (fun others same => by cases isUnion.symm.trans same)).1 fits _ isUnion
  simp only [List.mem_cons, List.not_mem_nil, or_false, exists_eq_or_imp, exists_eq_left] at chosen
  rcases chosen with chosen | chosen
  · have misfits := ShapeTable.intersection_misfits_text isIntersection isUnion
      (List.mem_cons_of_mem _ List.mem_cons_self) red green (by decide)
    exact Bool.false_ne_true (misfits.symm.trans chosen)
  · have misfits := ShapeTable.intersection_misfits_text isIntersection isUnion
      List.mem_cons_self green red (by decide)
    exact Bool.false_ne_true (misfits.symm.trans chosen)

end Program

end InjectionCheck
