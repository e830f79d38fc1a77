import InjectionCheck.Proofs.Descriptions
import InjectionCheck.Proofs.ParallelClasses

/-!
# Items up to descriptions

Where the descriptions of the symbols stand that items bind (`Item.descriptions`), and what is
read of items from tokens that are alike (`Passed.ItemsReading`): if the tokens that differ are
descriptions, the items agree up to descriptions; and their object literals and constructor
parameters start where passed tokens do.
-/

set_option autoImplicit false

namespace InjectionCheck

open Passed Cursor Outcome

/-! ## Descriptions -/

/-- Where the description stands of a symbol that an expression makes. -/
def Expression.descriptions : Expression → List Span
  | ⟨.call callee _ (⟨.string _, inner⟩ :: _), _⟩ =>
    if Program.symbolMaker? callee = some "Symbol" then [inner] else []
  | _ => []

/-- Where the description stands of a symbol that an item binds. -/
def ItemForm.descriptions : ItemForm → List Span
  | .binding declaration => declaration.initial.toList.flatMap Expression.descriptions
  | _ => []

/-- Where the description stands of a symbol that an item binds. -/
def Item.descriptions (item : Item) : List Span := item.form.descriptions

/-- An expression makes a symbol with a description, or it has no description. -/
theorem Expression.descriptions_cases (expression : Expression) :
    expression.descriptions = [] ∨
      ∃ callee typeArguments content inner others span,
        expression = ⟨.call callee typeArguments (⟨.string content, inner⟩ :: others), span⟩ ∧
        Program.symbolMaker? callee = some "Symbol" ∧ expression.descriptions = [inner] := by
  unfold descriptions
  split
  · next maker =>
    split
    · next maker => exact .inr ⟨_, _, _, _, _, _, rfl, maker, rfl⟩
    · exact .inl rfl
  · exact .inl rfl

theorem Expression.span_bare (expression : Expression) : expression.bare.span = expression.span := by
  rcases expression.bare_eq with same | ⟨callee, typeArguments, content, inner, others, span, rfl, -,
    bare⟩
  · rw [same]
  · rw [bare]

/-- What is left of a call without its text comes from a call. -/
theorem Expression.eq_call_of_textless {expression callee : Expression}
    {typeArguments : List TypeExpression} {others : List Expression} {inner span : Span}
    (textless : expression.textless =
      ⟨.call callee typeArguments (⟨.string "", inner⟩ :: others), span⟩) :
    ∃ content, expression =
      ⟨.call callee typeArguments (⟨.string content, inner⟩ :: others), span⟩ := by
  unfold Expression.textless at textless
  split at textless
  · cases textless
  · cases textless
    exact ⟨_, rfl⟩
  · exact ⟨"", textless⟩

namespace Passed

variable {passed first second : Passed}

namespace Reading

variable {expression expression' : Expression}

theorem descriptions (reading : Reading passed expression expression') {place : Span}
    (isDescription : place ∈ expression.descriptions) : ∃ pair ∈ passed, pair.1.span = place := by
  rcases expression.descriptions_cases with none | ⟨callee, typeArguments, content, inner, others,
    span, rfl, maker, one⟩
  · rw [none] at isDescription
    cases isDescription
  · rw [one] at isDescription
    exact reading.text place isDescription

/-- If the tokens that differ are descriptions, expressions agree up to them. -/
theorem bare (reading : Reading passed expression expression')
    (differ : DifferAt expression.descriptions passed) : expression.bare = expression'.bare := by
  rcases expression.descriptions_cases with none | ⟨callee, typeArguments, content, inner, others,
    span, rfl, maker, one⟩
  · rw [none] at differ
    rw [reading.same differ]
  · rw [one] at differ
    obtain ⟨content', rfl⟩ :=
      Expression.eq_call_of_textless (reading.textless differ).symm
    simp only [Expression.bare, maker, if_true]

end Reading

/-- Items that are read from tokens that are alike. -/
structure ItemsReading (passed : Passed) (items items' : List Item) : Prop where
  bare : DifferAt (items.flatMap Item.descriptions) passed →
    items.map Item.bare = items'.map Item.bare
  descriptions : ∀ place ∈ items.flatMap Item.descriptions, ∃ pair ∈ passed, pair.1.span = place
  objects : ((items.flatMap Item.objects).map (·.span.start)).Sublist (starts passed)
  parameters : ((items.flatMap Item.parameters).map (·.span.start)).Sublist (starts passed)

end Passed

/-- What is neither a binding nor a class. -/
def ItemForm.isPlain : ItemForm → Bool
  | .binding _ | .classType _ => false
  | _ => true

section Plain

variable {items : List Item} (plain : ∀ item ∈ items, item.form.isPlain = true)

include plain

theorem descriptions_of_isPlain : items.flatMap Item.descriptions = [] := by
  refine List.flatMap_eq_nil_iff.2 fun item inside => ?_
  have isPlain := plain item inside
  rw [Item.descriptions]
  cases form : item.form <;> first | rfl | (rw [form] at isPlain; cases isPlain)

theorem objects_of_isPlain : items.flatMap Item.objects = [] := by
  refine List.flatMap_eq_nil_iff.2 fun item inside => ?_
  have isPlain := plain item inside
  rw [Item.objects]
  cases form : item.form <;> first | rfl | (rw [form] at isPlain; cases isPlain)

theorem parameters_of_isPlain : items.flatMap Item.parameters = [] := by
  refine List.flatMap_eq_nil_iff.2 fun item inside => ?_
  have isPlain := plain item inside
  rw [Item.parameters]
  cases form : item.form <;> first | rfl | (rw [form] at isPlain; cases isPlain)

end Plain

namespace Passed.ItemsReading

variable {passed first second : Passed} {items items' further further' : List Item}

theorem none : ItemsReading passed [] [] :=
  ⟨fun _ => rfl, fun _ inside => (nomatch inside), List.nil_sublist _, List.nil_sublist _⟩

/-- What is neither a binding nor a class is read if it is the same. -/
theorem plain (same : Same passed items items') (plain : ∀ item ∈ items, item.form.isPlain = true) :
    ItemsReading passed items items' := by
  constructor
  · rw [descriptions_of_isPlain plain]
    exact fun clear => by rw [same clear]
  · rw [descriptions_of_isPlain plain]
    exact fun _ inside => nomatch inside
  · rw [objects_of_isPlain plain]
    exact List.nil_sublist _
  · rw [parameters_of_isPlain plain]
    exact List.nil_sublist _

theorem append_left (reading : ItemsReading second items items') (first : Passed) :
    ItemsReading (first ++ second) items items' where
  bare differ := reading.bare (differAt_append.1 differ).2
  descriptions place inside := by
    obtain ⟨pair, isPassed, stands⟩ := reading.descriptions place inside
    exact ⟨pair, List.mem_append_right _ isPassed, stands⟩
  objects := by
    rw [starts_append]
    exact reading.objects.trans (List.sublist_append_right _ _)
  parameters := by
    rw [starts_append]
    exact reading.parameters.trans (List.sublist_append_right _ _)

theorem append_right (reading : ItemsReading first items items') (second : Passed) :
    ItemsReading (first ++ second) items items' where
  bare differ := reading.bare (differAt_append.1 differ).1
  descriptions place inside := by
    obtain ⟨pair, isPassed, stands⟩ := reading.descriptions place inside
    exact ⟨pair, List.mem_append_left _ isPassed, stands⟩
  objects := by
    rw [starts_append]
    exact reading.objects.trans (List.sublist_append_left _ _)
  parameters := by
    rw [starts_append]
    exact reading.parameters.trans (List.sublist_append_left _ _)

theorem append (before : ItemsReading first items items') (after : ItemsReading second further further')
    (sorted : (starts (first ++ second)).Pairwise (· < ·)) :
    ItemsReading (first ++ second) (items ++ further) (items' ++ further') where
  bare differ := by
    rw [List.flatMap_append] at differ
    rw [List.map_append, List.map_append, before.bare (differ.left sorted after.descriptions),
      after.bare (differ.right sorted before.descriptions)]
  descriptions place inside := by
    rw [List.flatMap_append] at inside
    rcases List.mem_append.1 inside with earlier | later
    · obtain ⟨pair, isPassed, stands⟩ := before.descriptions place earlier
      exact ⟨pair, List.mem_append_left _ isPassed, stands⟩
    · obtain ⟨pair, isPassed, stands⟩ := after.descriptions place later
      exact ⟨pair, List.mem_append_right _ isPassed, stands⟩
  objects := by
    rw [List.flatMap_append, List.map_append, starts_append]
    exact before.objects.append after.objects
  parameters := by
    rw [List.flatMap_append, List.map_append, starts_append]
    exact before.parameters.append after.parameters

end Passed.ItemsReading

namespace Passed

variable {passed first second : Passed}

/-! ## Bindings and classes -/

section IfAny

variable {value value' : Option Expression} (parts : IfAny Reading passed value value')

include parts

/-- A value that is there is read from some of the tokens. -/
theorem exists_of_ifAny :
    (value = none ∧ value' = none) ∨
      ∃ expression expression', value = some expression ∧ value' = some expression' ∧
        Reading passed expression expression' := by
  cases value with
  | none =>
      cases value' with
      | none => exact .inl ⟨rfl, rfl⟩
      | some expression' => cases parts.length_eq
  | some expression =>
      obtain ⟨gap, here, there, other, others, rfl, isValue, reading, -⟩ := parts.exists_of_cons
      cases value' with
      | none => cases isValue
      | some value' =>
          cases isValue
          exact .inr ⟨_, _, rfl, rfl, (reading.append_right there).append_left gap⟩

theorem descriptions_of_ifAny :
    ∀ place ∈ value.toList.flatMap Expression.descriptions, ∃ pair ∈ passed, pair.1.span = place := by
  intro place inside
  obtain ⟨expression, isValue, isDescription⟩ := List.mem_flatMap.1 inside
  rcases exists_of_ifAny parts with ⟨rfl, -⟩ | ⟨expression, expression', rfl, -, reading⟩
  · cases isValue
  · rw [List.mem_singleton.1 isValue] at isDescription
    exact reading.descriptions isDescription

theorem bare_of_ifAny (differ : DifferAt (value.toList.flatMap Expression.descriptions) passed) :
    value.map Expression.bare = value'.map Expression.bare := by
  rcases exists_of_ifAny parts with ⟨rfl, rfl⟩ | ⟨expression, expression', rfl, rfl, reading⟩
  · rfl
  · rw [Option.toList_some, List.flatMap_singleton] at differ
    rw [Option.map_some, Option.map_some, reading.bare differ]

theorem objects_of_ifAny :
    ((value.toList.flatMap Expression.objects).map (·.span.start)).Sublist (starts passed) := by
  rw [List.map_flatMap]
  exact parts.sublist fun reading => reading.objects

end IfAny

namespace ItemsReading

variable {exported : Bool} {span span' : Span}

/-- A class is read from the tokens of its decorators and its own, and so is what exports it. -/
theorem ofClass {declaration declaration' : ClassDeclaration}
    (reading : ClassReading passed declaration declaration') (sameSpan : span = span')
    {exports exports' : List Item} (sameExports : Same passed exports exports')
    (plain : ∀ item ∈ exports, item.form.isPlain = true) :
    ItemsReading passed (⟨.classType declaration, exported, span⟩ :: exports)
      (⟨.classType declaration', exported, span'⟩ :: exports') := by
  subst sameSpan
  have descriptions : (⟨.classType declaration, exported, span⟩ :: exports).flatMap
      Item.descriptions = [] := (descriptions_of_isPlain plain :)
  have objects : (⟨.classType declaration, exported, span⟩ :: exports).flatMap
      Item.objects = [] := (objects_of_isPlain plain :)
  refine ⟨fun clear => ?_, fun place inside => ?_, ?_, ?_⟩
  · rw [descriptions] at clear
    rw [reading.same clear, sameExports clear]
  · rw [descriptions] at inside
    cases inside
  · rw [objects]
    exact List.nil_sublist _
  · rw [List.flatMap_cons, parameters_of_isPlain plain, List.append_nil]
    change (([DeclarationForm.classType declaration].flatMap
      DeclarationForm.parameters).map _).Sublist _
    rw [List.flatMap_singleton]
    exact (declaration.parameters_sublist.map _).trans reading.parameters

/-- A binding is read from the tokens of its type and then from those of its value. -/
theorem ofBinding {declaration declaration' : BindingDeclaration}
    (ofInitial : IfAny Reading second declaration.initial declaration'.initial)
    (others : Clear first →
      declaration.initial.map Expression.bare = declaration'.initial.map Expression.bare →
        declaration.bare = declaration'.bare)
    (sameSpan : span = span') (sorted : (starts (first ++ second)).Pairwise (· < ·)) :
    ItemsReading (first ++ second) [⟨.binding declaration, exported, span⟩]
      [⟨.binding declaration', exported, span'⟩] := by
  subst sameSpan
  have descriptions : [(⟨.binding declaration, exported, span⟩ : Item)].flatMap Item.descriptions =
      declaration.initial.toList.flatMap Expression.descriptions := List.flatMap_singleton ..
  have objects : [(⟨.binding declaration, exported, span⟩ : Item)].flatMap Item.objects =
      declaration.initial.toList.flatMap Expression.objects := by
    rw [List.flatMap_singleton]
    exact List.flatMap_singleton ..
  refine ⟨fun differ => ?_, fun place inside => ?_, ?_, List.nil_sublist _⟩
  · rw [descriptions] at differ
    have clear : Clear first := DifferAt.left differ sorted (descriptions_of_ifAny ofInitial)
    have initials := bare_of_ifAny ofInitial (differAt_append.1 differ).2
    simp only [List.map_cons, List.map_nil, Item.bare, ItemForm.bare, others clear initials]
  · rw [descriptions] at inside
    obtain ⟨pair, isPassed, stands⟩ := descriptions_of_ifAny ofInitial place inside
    exact ⟨pair, List.mem_append_right _ isPassed, stands⟩
  · rw [objects, starts_append]
    exact (objects_of_ifAny ofInitial).trans (List.sublist_append_right _ _)

end ItemsReading

end Passed

end InjectionCheck
