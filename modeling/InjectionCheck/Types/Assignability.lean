import InjectionCheck.Types.Shape

/-!
# Which types fit which

A value of one type can be used where another type is expected if the first type
fits the second. Types are compared by structure: a type fits an object, a class or
an interface if it has the members that are asked for, with types that fit. A class
with members that are not public is the exception; only the class itself and the
classes that derive from it fit. Where nothing is known of a type, it fits.

Types may refer to each other in a circle. While two types are compared by their
members, `assumed` lists the pairs under comparison, and a pair that comes up again
fits. A comparison of members makes the list longer, and every other step goes from
a type to its parts.
-/

set_option autoImplicit false

namespace InjectionCheck

namespace Pool

/-- All types of a pool. -/
def all (pool : Pool) : List TypeIndex := (List.range pool.size).map TypeIndex.mk

/-- All pairs of types of a pool. -/
def pairs (pool : Pool) : List (TypeIndex × TypeIndex) :=
  pool.all.flatMap fun first => pool.all.map fun second => (first, second)

theorem mem_pairs {pool : Pool} {first second : TypeIndex} (firstInside : first.number < pool.size)
    (secondInside : second.number < pool.size) : (first, second) ∈ pool.pairs := by
  simp only [pairs, all, List.mem_flatMap, List.mem_map, List.mem_range]
  exact ⟨first, ⟨first.number, firstInside, rfl⟩, second, ⟨second.number, secondInside, rfl⟩, rfl⟩

end Pool

namespace ShapeTable

variable (table : ShapeTable)

/-- The pool of a program. -/
def pool : Pool := table.types.pool

/-- Whether the shape of a declaration is marked as nominal. -/
def isNominal (number : Nat) : Bool := (table.shape? number).any Shape.isNominal

/-- The members of a type that is made of members. -/
def members? (type : TypeIndex) : Option (List Member) :=
  match _ : table.pool.entry type with
  | .named number _ => some (((table.shape? number).map Shape.members).getD [])
  | .object members => some members
  | .intersection parts =>
    some ((parts.attach.flatMap fun ⟨part, _⟩ => (members? part).getD []).foldl addMember [])
  | _ => none
termination_by type.number
decreasing_by exact Pool.part_lt ‹_› ‹_›

/-- Whether all members of a type may be left out. -/
def hasNoRequiredMember (type : TypeIndex) : Bool :=
  (table.members? type).any fun members => members.all Member.optional

/-- Whether a class is another class or derives from it. -/
def derivesFrom (number base : Nat) : Bool := go [] number
where
  /-- Follows the bases of a class, none of them twice. -/
  go (visited : List Nat) (current : Nat) : Bool :=
    if current = base then true
    else if inside : current < table.bases.size then
      if fresh : current ∉ visited then
        have := unvisited_cons_lt (List.mem_range.2 inside) fresh
        match table.bases[current] with
        | some next => go (current :: visited) next
        | none => false
      else false
    else false
  termination_by unvisited (List.range table.bases.size) visited

/-- Whether a type that is not primitive fits a primitive type. -/
def fitsPrimitive (source : TypeIndex) (target : TypeIndex) : Bool :=
  match target.primitive?, table.pool.entry source with
  | some .string, .stringLiteral _ => true
  | some .void, _ => source = .ofPrimitive .undefined
  | some .object, .stringLiteral _ => false
  | some .object, _ => !source.isReserved
  | _, _ => false

/-- Whether a primitive type has no members at all. -/
def isNothing (type : TypeIndex) : Bool :=
  type = .ofPrimitive .null || type = .ofPrimitive .undefined || type = .ofPrimitive .void

/-- Whether two types fit for the reason that one of them is everything, nothing or
unknown, or that they are the same. -/
def fitsAnyway (source target : TypeIndex) : Bool :=
  source = target || source = .any || source = .ofPrimitive .never || target = .any ||
    target = .ofPrimitive .unknown || table.pool.isIndeterminate source ||
    table.pool.isIndeterminate target

mutual

/-- Whether a type fits another one, if the assumed pairs do. -/
def fits (assumed : List (TypeIndex × TypeIndex)) (source target : TypeIndex) : Bool :=
  if table.fitsAnyway source target then true
  else
    match _ : table.pool.entry source, _ : table.pool.entry target with
    | .union members, _ => members.attach.all fun ⟨member, _⟩ => fits assumed member target
    | _, .union members => members.attach.any fun ⟨member, _⟩ => fits assumed source member
    | _, .intersection members =>
      members.attach.all fun ⟨member, _⟩ => fits assumed source member
    | .intersection members, _ =>
      (members.attach.any fun ⟨member, _⟩ => fits assumed member target) ||
        fitsByMembers assumed source target
    | _, .reserved => table.fitsPrimitive source target
    | .reserved, _ => !isNothing source && table.hasNoRequiredMember target
    | .array sourceElement, .array targetElement => fits assumed sourceElement targetElement
    | .tuple elements, .array targetElement =>
      elements.attach.all fun ⟨element, _⟩ => fits assumed element targetElement
    | .tuple sourceElements, .tuple targetElements =>
      sourceElements.length = targetElements.length &&
        (sourceElements.zip targetElements).attach.all fun ⟨(sourceElement, targetElement), _⟩ =>
          fits assumed sourceElement targetElement
    | .function sourceSignature, .function targetSignature =>
      sourceSignature.requiredCount ≤ targetSignature.parameters.length &&
        (sourceSignature.parameters.zip targetSignature.parameters).attach.all
          (fun ⟨(sourceParameter, targetParameter), _⟩ =>
            fits assumed targetParameter.type sourceParameter.type ||
              fits assumed sourceParameter.type targetParameter.type) &&
        (targetSignature.result = .ofPrimitive .void ||
          fits assumed sourceSignature.result targetSignature.result)
    | .named number _, .named base _ =>
      table.derivesFrom number base ||
        (!table.isNominal base && fitsByMembers assumed source target)
    | _, .named base _ => !table.isNominal base && fitsByMembers assumed source target
    | _, .object _ => fitsByMembers assumed source target
    | _, _ => false
termination_by (unvisited table.pool.pairs assumed, source.number + target.number, 1)
decreasing_by
  · have := Pool.part_lt ‹table.pool.entry source = _› ‹member ∈ members›
    exact .right _ (.left _ _ (by omega))
  · have := Pool.part_lt ‹table.pool.entry target = _› ‹member ∈ members›
    exact .right _ (.left _ _ (by omega))
  · have := Pool.part_lt ‹table.pool.entry target = _› ‹member ∈ members›
    exact .right _ (.left _ _ (by omega))
  · have := Pool.part_lt ‹table.pool.entry source = _› ‹member ∈ members›
    exact .right _ (.left _ _ (by omega))
  · exact .right _ (.right _ Nat.zero_lt_one)
  · have := Pool.part_lt ‹table.pool.entry source = _› (List.mem_singleton.2 rfl)
    have := Pool.part_lt ‹table.pool.entry target = _› (List.mem_singleton.2 rfl)
    exact .right _ (.left _ _ (by omega))
  · have := Pool.part_lt ‹table.pool.entry source = _› ‹element ∈ elements›
    have := Pool.part_lt ‹table.pool.entry target = _› (List.mem_singleton.2 rfl)
    exact .right _ (.left _ _ (by omega))
  · have both := List.of_mem_zip ‹_›
    have := Pool.part_lt ‹table.pool.entry source = _› both.1
    have := Pool.part_lt ‹table.pool.entry target = _› both.2
    exact .right _ (.left _ _ (by omega))
  · have both := List.of_mem_zip ‹_›
    have := Pool.part_lt ‹table.pool.entry source = _› (PoolEntry.parameter_mem_parts both.1)
    have := Pool.part_lt ‹table.pool.entry target = _› (PoolEntry.parameter_mem_parts both.2)
    exact .right _ (.left _ _ (by omega))
  · have both := List.of_mem_zip ‹_›
    have := Pool.part_lt ‹table.pool.entry source = _› (PoolEntry.parameter_mem_parts both.1)
    have := Pool.part_lt ‹table.pool.entry target = _› (PoolEntry.parameter_mem_parts both.2)
    exact .right _ (.left _ _ (by omega))
  · have := Pool.part_lt ‹table.pool.entry source = _› (PoolEntry.result_mem_parts _)
    have := Pool.part_lt ‹table.pool.entry target = _› (PoolEntry.result_mem_parts _)
    exact .right _ (.left _ _ (by omega))
  · exact .right _ (.right _ Nat.zero_lt_one)
  · exact .right _ (.right _ Nat.zero_lt_one)
  · exact .right _ (.right _ Nat.zero_lt_one)

/-- Whether a type has the public members of another one, with types that fit. -/
def fitsByMembers (assumed : List (TypeIndex × TypeIndex)) (source target : TypeIndex) : Bool :=
  match table.members? target with
  | none => false
  | some wanted =>
    if fresh : (source, target) ∉ assumed then
      if inside : source.number < table.pool.size ∧ target.number < table.pool.size then
        have := unvisited_cons_lt (Pool.mem_pairs inside.1 inside.2) fresh
        let offered := (table.members? source).getD []
        wanted.all fun member =>
          member.access ≠ .public_ ||
            match offered.find? (·.name = member.name) with
            | some found =>
              (member.optional || !found.optional) && found.access = .public_ &&
                fits ((source, target) :: assumed) found.type member.type
            | none => member.optional
      else false
    else true
termination_by (unvisited table.pool.pairs assumed, source.number + target.number, 0)
decreasing_by exact .left _ _ ‹_›

end

/-- Whether a value of one type can be used where another type is expected. -/
def isAssignable (source target : TypeIndex) : Bool := table.fits [] source target

end ShapeTable

end InjectionCheck
