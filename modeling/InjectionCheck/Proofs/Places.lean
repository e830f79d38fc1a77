import InjectionCheck.Proofs.ProblemOutlines
import Mathlib.Data.List.Basic
import Mathlib.Data.List.Nodup

/-!
# Where things stand

In a file, object literals start at different places, and so do the parameters of the
constructors of its classes (`SourceUnit.Apart`). So no two registrations, listeners or
dependencies of a program have one location (`Wiring.located_ofFiles`): each of them stands
where its object literal or its parameter stands.
-/

set_option autoImplicit false

namespace InjectionCheck

/-! ## Object literals and parameters -/

mutual

/-- The object literals in an expression that are data of it: the expression itself, and those
in the properties of objects, the elements of arrays and the arguments of calls. -/
def Expression.objects : Expression → List Expression
  | ⟨.object properties, span⟩ => ⟨.object properties, span⟩ :: Property.objectsIn properties
  | ⟨.array elements, _⟩ => Expression.objectsIn elements
  | ⟨.call _ _ arguments, _⟩ => Expression.objectsIn arguments
  | _ => []

/-- The object literals in the expressions of a list. -/
def Expression.objectsIn : List Expression → List Expression
  | [] => []
  | expression :: others => expression.objects ++ Expression.objectsIn others

/-- The object literals in the values of properties. -/
def Property.objectsIn : List Property → List Expression
  | [] => []
  | ⟨_, value, _⟩ :: others => value.objects ++ Property.objectsIn others

end

theorem Expression.mem_objectsIn {expressions : List Expression} {expression object : Expression}
    (inside : expression ∈ expressions) (isObject : object ∈ expression.objects) :
    object ∈ Expression.objectsIn expressions := by
  induction expressions with
  | nil => cases inside
  | cons first others ih =>
      rw [Expression.objectsIn, List.mem_append]
      rcases List.mem_cons.1 inside with rfl | later
      · exact .inl isObject
      · exact .inr (ih later)

theorem Property.mem_objectsIn {properties : List Property} {property : Property}
    {object : Expression} (inside : property ∈ properties)
    (isObject : object ∈ property.value.objects) : object ∈ Property.objectsIn properties := by
  induction properties with
  | nil => cases inside
  | cons first others ih =>
      obtain ⟨key, value, span⟩ := first
      rw [Property.objectsIn, List.mem_append]
      rcases List.mem_cons.1 inside with rfl | later
      · exact .inl isObject
      · exact .inr (ih later)

/-- The object literals in what a declaration declares. -/
def DeclarationForm.objects : DeclarationForm → List Expression
  | .binding declaration => declaration.initial.toList.flatMap Expression.objects
  | _ => []

/-- The parameters of the constructor that a declaration declares. -/
def DeclarationForm.parameters : DeclarationForm → List Parameter
  | .classType declaration => declaration.constructor?.toList.flatMap Constructor.parameters
  | _ => []

/-- The object literals in an item. -/
def Item.objects (item : Item) : List Expression :=
  item.form.declaration?.toList.flatMap DeclarationForm.objects

/-- The constructor parameters in an item. -/
def Item.parameters (item : Item) : List Parameter :=
  item.form.declaration?.toList.flatMap DeclarationForm.parameters

/-- In a file no two object literals start at one place, and no two constructor parameters. -/
structure SourceUnit.Apart (unit : SourceUnit) : Prop where
  objects : ((unit.items.flatMap Item.objects).map (·.span.start)).Nodup
  parameters : ((unit.items.flatMap Item.parameters).map (·.span.start)).Nodup

/-- In each file of a program no two object literals start at one place, and no two constructor
parameters. -/
structure Linkage.Apart (linkage : Linkage) : Prop where
  objects : ∀ declaration ∈ linkage.declarations.toList,
    ∀ declaration' ∈ linkage.declarations.toList, declaration.file = declaration'.file →
      ∀ object ∈ declaration.form.objects, ∀ object' ∈ declaration'.form.objects,
        object.span.start = object'.span.start → object = object'
  parameters : linkage.declarations.toList.Pairwise fun declaration declaration' =>
    declaration.file = declaration'.file →
      ∀ parameter ∈ declaration.form.parameters, ∀ parameter' ∈ declaration'.form.parameters,
        parameter.span.start ≠ parameter'.span.start
  ownParameters : ∀ declaration ∈ linkage.declarations.toList,
    (declaration.form.parameters.map (·.span.start)).Nodup

/-- A parameter is one of one declaration. -/
theorem Linkage.Apart.number_eq {linkage : Linkage} (apart : linkage.Apart) {number number' : Nat}
    {declaration declaration' : Declaration}
    (isDeclared : linkage.declarations.toList[number]? = some declaration)
    (isDeclared' : linkage.declarations.toList[number']? = some declaration')
    (file : declaration.file = declaration'.file) {parameter parameter' : Parameter}
    (inside : parameter ∈ declaration.form.parameters)
    (inside' : parameter' ∈ declaration'.form.parameters)
    (same : parameter.span.start = parameter'.span.start) : number = number' := by
  have pairwise := List.pairwise_iff_getElem.1 apart.parameters
  obtain ⟨isLess, rfl⟩ := List.getElem?_eq_some_iff.1 isDeclared
  obtain ⟨isLess', rfl⟩ := List.getElem?_eq_some_iff.1 isDeclared'
  rcases Nat.lt_trichotomy number number' with before | same' | after
  · exact absurd same (pairwise _ _ isLess isLess' before file _ inside _ inside')
  · exact same'
  · exact absurd same.symm (pairwise _ _ isLess' isLess after file.symm _ inside' _ inside)

/-! ## Registrations and listeners -/

theorem Except.exists_of_bind_eq_ok {ε α β : Type} {first : Except ε α} {step : α → Except ε β}
    {value : β} (succeeds : first >>= step = .ok value) :
    ∃ found, first = .ok found ∧ step found = .ok value := by
  cases first with
  | error reason => cases succeeds
  | ok found => exact ⟨found, rfl, succeeds⟩

/-- What a list of results holds comes from one of the steps. -/
theorem Except.exists_of_mem_mapM {ε α β : Type} {step : α → Except ε β} {items : List α}
    {values : List β} (all : items.mapM step = .ok values) {value : β} (inside : value ∈ values) :
    ∃ item ∈ items, step item = .ok value := by
  induction items generalizing values with
  | nil =>
      cases all
      cases inside
  | cons item others ih =>
      rw [List.mapM_cons] at all
      obtain ⟨found, first, all⟩ := exists_of_bind_eq_ok all
      obtain ⟨further, rest, all⟩ := exists_of_bind_eq_ok all
      cases all
      rcases List.mem_cons.1 inside with rfl | later
      · exact ⟨item, List.mem_cons_self, first⟩
      · obtain ⟨other, isOther, gives⟩ := ih rest later
        exact ⟨other, List.mem_cons_of_mem _ isOther, gives⟩

namespace Configuration

variable {program : Program} {file : Nat}

/-- An object literal in a list that a field of a literal holds is one in the literal. -/
theorem mem_objects_of_mem_entries {literal entry object : Expression}
    {properties : List Property} {field : ListField} {elements : List Expression}
    (ofLiteral : properties? literal = some properties)
    (read : entries properties field = .ok elements) (inside : entry ∈ elements)
    (isObject : object ∈ entry.objects) : object ∈ literal.objects := by
  obtain ⟨form, span⟩ := literal
  cases form with
  | object properties' =>
      cases ofLiteral
      rw [Expression.objects]
      refine List.mem_cons_of_mem _ ?_
      unfold entries field? at read
      cases found : properties.find? (·.name? = some field.text) with
      | none =>
          rw [found] at read
          cases read
          cases inside
      | some property =>
          rw [found] at read
          obtain ⟨key, ⟨form, span⟩, _⟩ := property
          cases form with
          | array members =>
              dsimp only [Option.map_some] at read
              split at read
              · cases read
              · cases read
                refine Property.mem_objectsIn (List.mem_of_find?_eq_some found) ?_
                rw [Expression.objects]
                exact Expression.mem_objectsIn inside isObject
          | _ => cases read
  | _ => cases ofLiteral

/-- An element of a list whose properties can be read is an object literal. -/
theorem mem_objects_of_entryProperties {field : ListField} {index : Nat} {entry : Expression}
    {properties : List Property} (read : entryProperties field index entry = .ok properties) :
    entry ∈ entry.objects := by
  obtain ⟨form, span⟩ := entry
  cases form with
  | object members =>
      rw [Expression.objects]
      exact List.mem_cons_self
  | _ => cases read

/-- The object literals of a literal that is handed to a function are those of the call. -/
theorem mem_objects_of_literal {initial literal object : Expression}
    (isLiteral : literal? initial = some literal) (inside : object ∈ literal.objects) :
    object ∈ initial.objects := by
  obtain ⟨form, span⟩ := initial
  cases form with
  | call callee typeArguments arguments =>
      have isHead : arguments.head? = some literal := by
        unfold literal? at isLiteral
        dsimp only at isLiteral
        split at isLiteral
        · split at isLiteral
          · exact isLiteral
          · cases isLiteral
        · split at isLiteral
          · exact isLiteral
          · cases isLiteral
        · cases isLiteral
      rw [Expression.objects]
      exact Expression.mem_objectsIn (List.mem_of_mem_head? isHead) inside
  | _ => cases isLiteral

/-! What is read from an element does not depend on its place in the list. -/

section Places

variable {entry : Expression} {properties : List Property} {field : ListField}
  (index index' : Nat)

theorem entryProperties_place (read : entryProperties field index entry = .ok properties) :
    entryProperties field index' entry = .ok properties := by
  revert read
  unfold entryProperties
  cases properties? entry with
  | none => intro read; cases read
  | some members => exact id

theorem entryToken_place {key : String} {token : InjectionToken}
    (read : entryToken program file properties field index key = .ok token) :
    entryToken program file properties field index' key = .ok token := by
  revert read
  unfold entryToken
  cases field? properties key with
  | none => intro read; cases read
  | some expression =>
      dsimp only
      cases program.token file expression with
      | error reason => intro read; cases read
      | ok found => exact id

theorem provision_place {token : InjectionToken} {found : Provision}
    (read : provision program file properties index token = .ok found) :
    provision program file properties index' token = .ok found := by
  revert read
  unfold provision
  cases field? properties "provider" with
  | some provider =>
      dsimp only
      cases classNamed? program file provider with
      | none => intro read; cases read
      | some declaration => exact id
  | none =>
      dsimp only
      split
      · exact id
      split
      · exact id
      split
      · exact id
      · intro read; cases read

theorem registration_place {found : Registration}
    (read : registration program file entry index = .ok found) :
    registration program file entry index' = .ok found := by
  obtain ⟨properties, readProperties, read⟩ := Except.exists_of_bind_eq_ok read
  obtain ⟨token, readToken, read⟩ := Except.exists_of_bind_eq_ok read
  obtain ⟨provision, readProvision, read⟩ := Except.exists_of_bind_eq_ok read
  unfold registration
  rw [entryProperties_place index index' readProperties]
  dsimp only [bind, Except.bind]
  rw [entryToken_place index index' readToken]
  dsimp only
  rw [provision_place index index' readProvision]
  exact read

theorem listenerBinding_place {found : ListenerBinding}
    (read : listenerBinding program file entry index = .ok found) :
    listenerBinding program file entry index' = .ok found := by
  obtain ⟨properties, readProperties, read⟩ := Except.exists_of_bind_eq_ok read
  obtain ⟨event, readEvent, read⟩ := Except.exists_of_bind_eq_ok read
  obtain ⟨listener, readListener, read⟩ := Except.exists_of_bind_eq_ok read
  unfold listenerBinding
  rw [entryProperties_place index index' readProperties]
  dsimp only [bind, Except.bind]
  rw [entryToken_place index index' readEvent]
  dsimp only
  rw [entryToken_place index index' readListener]
  exact read

end Places

/-- A registration stands where the object literal stands from which it is read. -/
theorem registration_stands {entry : Expression} {index : Nat} {found : Registration}
    (read : registration program file entry index = .ok found) :
    entry ∈ entry.objects ∧ found.location = ⟨file, entry.span⟩ := by
  obtain ⟨properties, readProperties, read⟩ := Except.exists_of_bind_eq_ok read
  obtain ⟨token, -, read⟩ := Except.exists_of_bind_eq_ok read
  obtain ⟨provision, -, read⟩ := Except.exists_of_bind_eq_ok read
  cases read
  exact ⟨mem_objects_of_entryProperties readProperties, rfl⟩

/-- A listener stands where the object literal stands from which it is read. -/
theorem listenerBinding_stands {entry : Expression} {index : Nat} {found : ListenerBinding}
    (read : listenerBinding program file entry index = .ok found) :
    entry ∈ entry.objects ∧ found.location = ⟨file, entry.span⟩ := by
  obtain ⟨properties, readProperties, read⟩ := Except.exists_of_bind_eq_ok read
  obtain ⟨event, -, read⟩ := Except.exists_of_bind_eq_ok read
  obtain ⟨listener, -, read⟩ := Except.exists_of_bind_eq_ok read
  cases read
  exact ⟨mem_objects_of_entryProperties readProperties, rfl⟩

/-- What a literal registers and binds is read from object literals in it. -/
theorem ofLiteral_entries {declaration : Nat} {name : String} {literal : Expression}
    {configuration : Configuration}
    (read : ofLiteral program file declaration name literal = .ok configuration) :
    (∀ found ∈ configuration.registrations, ∃ entry ∈ literal.objects, ∃ index,
      registration program file entry index = .ok found) ∧
    ∀ found ∈ configuration.listeners, ∃ entry ∈ literal.objects, ∃ index,
      listenerBinding program file entry index = .ok found := by
  unfold ofLiteral at read
  cases ofLiteral : properties? literal with
  | none => rw [ofLiteral] at read; cases read
  | some properties =>
      rw [ofLiteral] at read
      dsimp only at read
      split at read
      · cases read
      · obtain ⟨entries, readEntries, read⟩ := Except.exists_of_bind_eq_ok read
        obtain ⟨registrations, readRegistrations, read⟩ := Except.exists_of_bind_eq_ok read
        obtain ⟨entries', readEntries', read⟩ := Except.exists_of_bind_eq_ok read
        obtain ⟨listeners, readListeners, read⟩ := Except.exists_of_bind_eq_ok read
        obtain ⟨_, -, read⟩ := Except.exists_of_bind_eq_ok read
        obtain ⟨_, -, read⟩ := Except.exists_of_bind_eq_ok read
        cases read
        refine ⟨fun found inside => ?_, fun found inside => ?_⟩
        · obtain ⟨⟨entry, index⟩, isEntry, gives⟩ := Except.exists_of_mem_mapM readRegistrations inside
          refine ⟨entry, ?_, index, gives⟩
          exact mem_objects_of_mem_entries ofLiteral readEntries (List.fst_mem_of_mem_zipIdx isEntry)
            (registration_stands gives).1
        · obtain ⟨⟨entry, index⟩, isEntry, gives⟩ := Except.exists_of_mem_mapM readListeners inside
          refine ⟨entry, ?_, index, gives⟩
          exact mem_objects_of_mem_entries ofLiteral readEntries' (List.fst_mem_of_mem_zipIdx isEntry)
            (listenerBinding_stands gives).1

end Configuration

/-! ## Dependencies -/

namespace Program

/-- A dependency stands where its parameter stands. -/
theorem exists_of_mem_dependencies {program : Program} {file : Nat}
    {parameters : List (Parameter × Nat)} {dependency : Dependency}
    (inside : dependency ∈ (program.dependencies file parameters).1) :
    ∃ parameter, (parameter, dependency.index) ∈ parameters ∧
      dependency.location = ⟨file, parameter.span⟩ := by
  induction parameters generalizing program with
  | nil => cases inside
  | cons parameter others ih =>
      obtain ⟨parameter, index⟩ := parameter
      rw [dependencies] at inside
      split at inside
      · obtain ⟨other, isOther, stands⟩ := ih inside
        exact ⟨other, List.mem_cons_of_mem _ isOther, stands⟩
      · rcases List.mem_cons.1 inside with rfl | later
        · exact ⟨parameter, List.mem_cons_self, rfl⟩
        · obtain ⟨other, isOther, stands⟩ := ih later
          exact ⟨other, List.mem_cons_of_mem _ isOther, stands⟩

/-- A class depends on parameters of its constructor. -/
theorem exists_of_mem_dependentClasses {program : Program}
    {declarations : List (Declaration × Nat)} {dependent : DependentClass}
    (inside : dependent ∈ (program.dependentClasses declarations).1) :
    ∃ declaration, (declaration, dependent.declaration) ∈ declarations ∧
      ∀ dependency ∈ dependent.dependencies, ∃ parameter,
        (parameter, dependency.index) ∈ declaration.form.parameters.zipIdx ∧
          dependency.location = ⟨declaration.file, parameter.span⟩ := by
  induction declarations generalizing program with
  | nil => cases inside
  | cons declaration others ih =>
      obtain ⟨declaration, number⟩ := declaration
      rw [dependentClasses] at inside
      split at inside
      · obtain ⟨other, isOther, stands⟩ := ih inside
        exact ⟨other, List.mem_cons_of_mem _ isOther, stands⟩
      · next member declares =>
        rcases List.mem_cons.1 inside with rfl | later
        · refine ⟨declaration, List.mem_cons_self, fun dependency asks => ?_⟩
          have parameters : declaration.form.parameters = member.parameters := by
            obtain ⟨form, isClass, isMember⟩ := Option.bind_eq_some_iff.1 declares
            unfold Declaration.class? at isClass
            split at isClass
            · next found =>
              cases isClass
              rw [found, DeclarationForm.parameters, isMember]
              exact List.flatMap_singleton ..
            · cases isClass
          rw [parameters]
          exact exists_of_mem_dependencies asks
        · obtain ⟨other, isOther, stands⟩ := ih later
          exact ⟨other, List.mem_cons_of_mem _ isOther, stands⟩

/-- What a configuration registers and binds is read from object literals of its declaration. -/
theorem exists_of_mem_configurations {program : Program} {configuration : Configuration}
    (inside : configuration ∈ program.configurations) :
    ∃ declaration ∈ program.linkage.declarations.toList,
      (∀ found ∈ configuration.registrations, ∃ entry ∈ declaration.form.objects, ∃ index,
        Configuration.registration program declaration.file entry index = .ok found) ∧
      ∀ found ∈ configuration.listeners, ∃ entry ∈ declaration.form.objects, ∃ index,
        Configuration.listenerBinding program declaration.file entry index = .ok found := by
  obtain ⟨entry, isEntry, isOk⟩ := List.mem_filterMap.1 inside
  obtain ⟨number, -, held⟩ := List.mem_filterMap.1 isEntry
  obtain ⟨declaration, isDeclaration, held⟩ := Option.bind_eq_some_iff.1 held
  obtain ⟨binding, isBinding, held⟩ := Option.bind_eq_some_iff.1 held
  obtain ⟨literal, isLiteral, rfl⟩ := Option.map_eq_some_iff.1 held
  obtain ⟨initial, isInitial, isLiteral⟩ := Option.bind_eq_some_iff.1 isLiteral
  refine ⟨declaration, Array.mem_toList_iff.2 (Array.mem_of_getElem? isDeclaration), ?_⟩
  have objects : ∀ entry ∈ literal.objects, entry ∈ declaration.form.objects := by
    intro entry inside
    unfold Declaration.binding? at isBinding
    split at isBinding
    · next found =>
      cases isBinding
      rw [found, DeclarationForm.objects, isInitial]
      simp only [Option.toList_some, List.flatMap_singleton]
      exact Configuration.mem_objects_of_literal isLiteral inside
    · cases isBinding
  cases read : Configuration.ofLiteral program declaration.file number binding.name literal with
  | error reason => rw [read] at isOk; cases isOk
  | ok found =>
      rw [read] at isOk
      cases isOk
      obtain ⟨registrations, listeners⟩ := Configuration.ofLiteral_entries read
      refine ⟨fun found inside => ?_, fun found inside => ?_⟩
      · obtain ⟨entry, isObject, gives⟩ := registrations found inside
        exact ⟨entry, objects entry isObject, gives⟩
      · obtain ⟨entry, isObject, gives⟩ := listeners found inside
        exact ⟨entry, objects entry isObject, gives⟩

end Program

/-! ## Wirings -/

namespace Wiring

variable {program : Program} (apart : program.linkage.Apart)

include apart

theorem registration_unique {first second : Configuration}
    (isFirst : first ∈ program.configurations) (isSecond : second ∈ program.configurations)
    {found found' : Registration} (inFirst : found ∈ first.registrations)
    (inSecond : found' ∈ second.registrations) (same : found.location = found'.location) :
    found = found' := by
  obtain ⟨declaration, inside, read, -⟩ := Program.exists_of_mem_configurations isFirst
  obtain ⟨declaration', inside', read', -⟩ := Program.exists_of_mem_configurations isSecond
  obtain ⟨entry, isObject, index, gives⟩ := read found inFirst
  obtain ⟨entry', isObject', index', gives'⟩ := read' found' inSecond
  rw [(Configuration.registration_stands gives).2, (Configuration.registration_stands gives').2]
    at same
  obtain ⟨file, span⟩ := Location.mk.inj same
  obtain rfl := apart.objects declaration inside declaration' inside' file entry isObject entry'
    isObject' (congrArg Span.start span)
  rw [← file] at gives'
  have again := Configuration.registration_place index index' gives
  rw [gives'] at again
  cases again
  rfl

theorem listener_unique {first second : Configuration}
    (isFirst : first ∈ program.configurations) (isSecond : second ∈ program.configurations)
    {found found' : ListenerBinding} (inFirst : found ∈ first.listeners)
    (inSecond : found' ∈ second.listeners) (same : found.location = found'.location) :
    found = found' := by
  obtain ⟨declaration, inside, -, read⟩ := Program.exists_of_mem_configurations isFirst
  obtain ⟨declaration', inside', -, read'⟩ := Program.exists_of_mem_configurations isSecond
  obtain ⟨entry, isObject, index, gives⟩ := read found inFirst
  obtain ⟨entry', isObject', index', gives'⟩ := read' found' inSecond
  rw [(Configuration.listenerBinding_stands gives).2,
    (Configuration.listenerBinding_stands gives').2] at same
  obtain ⟨file, span⟩ := Location.mk.inj same
  obtain rfl := apart.objects declaration inside declaration' inside' file entry isObject entry'
    isObject' (congrArg Span.start span)
  rw [← file] at gives'
  have again := Configuration.listenerBinding_place index index' gives
  rw [gives'] at again
  cases again
  rfl

/-- **No two registrations, listeners or dependencies of a program have one location.** -/
theorem located_ofProgram : (ofProgram program).Located where
  registrations := by
    intro found inside found' inside' same
    obtain ⟨first, isFirst, inFirst⟩ := List.mem_flatMap.1 inside
    obtain ⟨second, isSecond, inSecond⟩ := List.mem_flatMap.1 inside'
    exact registration_unique apart isFirst isSecond inFirst inSecond same
  listeners := by
    intro found inside found' inside' same
    obtain ⟨first, isFirst, inFirst⟩ := List.mem_flatMap.1 inside
    obtain ⟨second, isSecond, inSecond⟩ := List.mem_flatMap.1 inside'
    exact listener_unique apart isFirst isSecond inFirst inSecond same
  parameters := by
    intro dependent inside dependency asks dependent' inside' dependency' asks' same
    obtain ⟨declaration, isDeclared, read⟩ := Program.exists_of_mem_dependentClasses inside
    obtain ⟨declaration', isDeclared', read'⟩ := Program.exists_of_mem_dependentClasses inside'
    obtain ⟨parameter, isParameter, stands⟩ := read dependency asks
    obtain ⟨parameter', isParameter', stands'⟩ := read' dependency' asks'
    rw [stands, stands'] at same
    obtain ⟨file, span⟩ := Location.mk.inj same
    rw [List.mk_mem_zipIdx_iff_getElem?] at isDeclared isDeclared' isParameter isParameter'
    have start : parameter.span.start = parameter'.span.start := congrArg Span.start span
    have numbers : dependent.declaration = dependent'.declaration :=
      apart.number_eq isDeclared isDeclared' file (List.mem_of_getElem? isParameter)
        (List.mem_of_getElem? isParameter') start
    obtain rfl :=
      List.inj_on_of_nodup_map (ofProgram program).classes_distinct inside inside' numbers
    refine ⟨rfl, List.inj_on_of_nodup_map dependent.distinct asks asks' ?_⟩
    rw [isDeclared] at isDeclared'
    cases isDeclared'
    have distinct := apart.ownParameters declaration (List.mem_of_getElem? isDeclared)
    have isLess := (List.getElem?_eq_some_iff.1 isParameter).1
    refine (List.getElem?_inj (by rwa [List.length_map]) distinct).1 ?_
    rw [List.getElem?_map, List.getElem?_map, isParameter, isParameter', Option.map_some,
      Option.map_some, start]

end Wiring

/-! ## Files -/

namespace Declaration

/-- A declaration among the items of a file is in one of them. -/
theorem exists_of_mem_ofItems {file : Nat} {items : List Item} {declaration : Declaration}
    (inside : declaration ∈ ofItems file items) :
    declaration.file = file ∧ ∃ item ∈ items, item.form.declaration? = some declaration.form := by
  obtain ⟨⟨item, place⟩, isItem, found⟩ := List.mem_filterMap.1 inside
  obtain ⟨form, isForm, rfl⟩ := Option.map_eq_some_iff.1 found
  exact ⟨rfl, item, List.fst_mem_of_mem_zipIdx isItem, isForm⟩

/-- What holds of any two items with declarations holds of any two declarations. -/
theorem pairwise_ofItems {relation : DeclarationForm → DeclarationForm → Prop} {file : Nat}
    {items : List Item}
    (pairwise : items.Pairwise fun item item' => ∀ form ∈ item.form.declaration?,
      ∀ form' ∈ item'.form.declaration?, relation form form') :
    (ofItems file items).Pairwise fun declaration declaration' =>
      relation declaration.form declaration'.form := by
  rw [← List.zipIdx_map_fst 0 items, List.pairwise_map] at pairwise
  refine List.pairwise_filterMap.2 (pairwise.imp ?_)
  intro first second related declaration isFirst declaration' isSecond
  obtain ⟨form, isForm, rfl⟩ := Option.map_eq_some_iff.1 isFirst
  obtain ⟨form', isForm', rfl⟩ := Option.map_eq_some_iff.1 isSecond
  exact related form isForm form' isForm'

end Declaration

namespace Linkage

/-- A declaration of some files is in one of them. -/
theorem exists_of_mem_collect {files : List ProgramFile} {declaration : Declaration}
    (inside : declaration ∈ collect files) :
    ∃ file, files[declaration.file]? = some file ∧
      ∃ item ∈ file.unit.items, item.form.declaration? = some declaration.form := by
  obtain ⟨⟨file, number⟩, isFile, inside⟩ := List.mem_flatMap.1 inside
  obtain ⟨rfl, declares⟩ := Declaration.exists_of_mem_ofItems inside
  exact ⟨file, List.mk_mem_zipIdx_iff_getElem?.1 isFile, declares⟩

/-- The declarations of files in which things stand apart stand apart. -/
theorem apart_collect {linkage : Linkage} {files : List ProgramFile}
    (collected : linkage.declarations.toList = collect files)
    (apart : ∀ file ∈ files, file.unit.Apart) : linkage.Apart where
  objects := by
    rw [collected]
    intro declaration inside declaration' inside' same object isObject object' isObject' start
    obtain ⟨file, isFile, item, isItem, declares⟩ := exists_of_mem_collect inside
    obtain ⟨file', isFile', item', isItem', declares'⟩ := exists_of_mem_collect inside'
    obtain rfl : file = file' := Option.some.inj (by rw [← isFile, same, isFile'])
    refine List.inj_on_of_nodup_map (apart file (List.mem_of_getElem? isFile)).objects
      (List.mem_flatMap.2 ⟨item, isItem, ?_⟩) (List.mem_flatMap.2 ⟨item', isItem', ?_⟩) start
    · simpa [Item.objects, declares] using isObject
    · simpa [Item.objects, declares'] using isObject'
  parameters := by
    rw [collected, collect, List.pairwise_flatMap]
    constructor
    · rintro ⟨file, number⟩ isFile
      have nodup := (apart file (List.fst_mem_of_mem_zipIdx isFile)).parameters
      rw [List.map_flatMap, List.nodup_flatMap] at nodup
      have apartItems : file.unit.items.Pairwise fun item item' =>
          ∀ form ∈ item.form.declaration?, ∀ form' ∈ item'.form.declaration?,
            ∀ parameter ∈ form.parameters, ∀ parameter' ∈ form'.parameters,
              parameter.span.start ≠ parameter'.span.start := by
        refine nodup.2.imp ?_
        intro item item' disjoint form isForm form' isForm' parameter inside parameter' inside' same
        refine disjoint (List.mem_map.2 ⟨parameter, ?_, rfl⟩)
          (List.mem_map.2 ⟨parameter', ?_, same.symm⟩)
        · simpa [Item.parameters, Option.mem_def.1 isForm] using inside
        · simpa [Item.parameters, Option.mem_def.1 isForm'] using inside'
      have apartDeclarations := @Declaration.pairwise_ofItems
        (fun form form' => ∀ parameter ∈ form.parameters, ∀ parameter' ∈ form'.parameters,
          parameter.span.start ≠ parameter'.span.start) number file.unit.items apartItems
      refine apartDeclarations.imp ?_
      exact fun related _ => related
    · have numbers : (files.zipIdx.map Prod.snd).Pairwise (· < ·) := by
        rw [List.zipIdx_map_snd]
        exact List.pairwise_lt_range'
      refine (List.pairwise_map.1 numbers).imp ?_
      intro first second before declaration inside declaration' inside' same
      rw [(Declaration.exists_of_mem_ofItems inside).1,
        (Declaration.exists_of_mem_ofItems inside').1] at same
      exact absurd same (Nat.ne_of_lt before)
  ownParameters := by
    rw [collected]
    intro declaration inside
    obtain ⟨file, isFile, item, isItem, declares⟩ := exists_of_mem_collect inside
    have nodup := (apart file (List.mem_of_getElem? isFile)).parameters
    rw [List.map_flatMap, List.nodup_flatMap] at nodup
    simpa [Item.parameters, declares] using nodup.1 item isItem

end Linkage

/-- **No two registrations, listeners or dependencies of a program have one location, if things
stand apart in its files.** -/
theorem Wiring.located_ofFiles {sources : List SourceFile}
    (apart : ∀ source ∈ sources, (ProgramFile.ofSource source).1.unit.Apart) :
    (Wiring.ofProgram (Program.ofFiles sources)).Located := by
  have apartFiles : ∀ file ∈ (sources.map ProgramFile.ofSource).map Prod.fst,
      file.unit.Apart := by
    intro file inside
    rw [List.map_map] at inside
    obtain ⟨source, isSource, rfl⟩ := List.mem_map.1 inside
    exact apart source isSource
  exact located_ofProgram (Linkage.apart_collect rfl apartFiles)

end InjectionCheck
