import InjectionCheck.Proofs.ParallelLookahead
import InjectionCheck.Proofs.Places

/-!
# Types and parameters read in parallel

What is read from tokens that are alike: types that are the same if the tokens are, and
expressions that may differ in one more way (`Passed.Reading`): the text of a string, or of a
string that a call starts its arguments with, is known to be all that differs if nothing else
differs among the tokens.

The rules of the grammar take the recursive rules as an argument. Here it is shown for the
rules for types and parameters that they run in parallel if the recursive rules do
(`Rules.Parallel`).
-/

set_option autoImplicit false

namespace InjectionCheck

open Passed Cursor Outcome

/-! ## What is read -/

/-- Where the text stands that an expression is, or that a call starts its arguments with. -/
def Expression.textPlaces : Expression → List Span
  | ⟨.string _, span⟩ => [span]
  | ⟨.call _ _ (⟨.string _, span⟩ :: _), _⟩ => [span]
  | _ => []

/-- An expression without the text that it is, or that a call starts its arguments with. -/
def Expression.textless : Expression → Expression
  | ⟨.string _, span⟩ => ⟨.string "", span⟩
  | ⟨.call callee typeArguments (⟨.string _, inner⟩ :: others), span⟩ =>
    ⟨.call callee typeArguments (⟨.string "", inner⟩ :: others), span⟩
  | other => other

/-- Whether an expression is neither a string nor a call, object or array. -/
def ExpressionForm.isPlain : ExpressionForm → Bool
  | .string _ | .object _ | .array _ | .call .. => false
  | _ => true

namespace Passed

/-- The places at which the passed tokens start in the first source. -/
def starts (passed : Passed) : List Nat := passed.map (·.1.span.start)

@[simp]
theorem starts_nil : starts [] = [] := rfl

@[simp]
theorem starts_cons (pair : Token × Token) (passed : Passed) :
    starts (pair :: passed) = pair.1.span.start :: starts passed :=
  rfl

@[simp]
theorem starts_append (first second : Passed) :
    starts (first ++ second) = starts first ++ starts second :=
  List.map_append

end Passed

namespace Cursor.Walk

variable {c c' d d' : Cursor} {passed : Passed}

/-- Passed tokens start at increasing places. -/
theorem sorted (walk : Walk c c' passed d d') (alike : c.Alike c') :
    (starts passed).Pairwise (· < ·) := by
  have sorted := alike.sorted
  rw [walk.ahead, List.map_append, List.map_map] at sorted
  exact (List.pairwise_append.1 sorted).1

/-- The first token that is passed is the one at the cursor. -/
theorem span_eq {pair : Token × Token} (walk : Walk c c' (pair :: passed) d d') :
    c.span = pair.1.span := by
  rw [span, walk.ahead]
  rfl

/-- What is read up to a cursor ends with the last token that is passed. -/
theorem exists_previousSpan {pair : Token × Token} (walk : Walk c c' (pair :: passed) d d') :
    ∃ last ∈ pair :: passed, d.previousSpan = last.1.span := by
  have inside := List.getLast_mem (List.cons_ne_nil pair passed)
  refine ⟨_, inside, ?_⟩
  rw [previousSpan, walk.behind, List.head?_append, List.head?_reverse, List.getLast?_map,
    List.getLast?_eq_some_getLast (List.cons_ne_nil _ _)]
  rfl

/-- What is read from a cursor on starts with the first token that is passed. -/
theorem start_spanFrom {pair : Token × Token} (walk : Walk c c' (pair :: passed) d d')
    (alike : c.Alike c') : (d.spanFrom c.span).start = pair.1.span.start := by
  obtain ⟨last, inside, ends⟩ := walk.exists_previousSpan
  have sorted := walk.sorted alike
  rw [starts, List.map_cons, List.pairwise_cons] at sorted
  have atMost : pair.1.span.start ≤ last.1.span.start := by
    rcases List.mem_cons.1 inside with rfl | later
    · exact Nat.le_refl _
    · exact Nat.le_of_lt (sorted.1 _ (List.mem_map_of_mem later))
  rw [spanFrom, ends, walk.span_eq]
  exact Nat.min_eq_left atMost

/-- A rule that leaves fewer tokens has passed one. -/
theorem exists_eq_cons (walk : Walk c c' passed d d') (less : d.remaining < c.remaining) :
    ∃ pair others, passed = pair :: others := by
  cases passed with
  | nil =>
      rw [remaining, remaining, walk.ahead] at less
      exact absurd less (Nat.lt_irrefl _)
  | cons pair others => exact ⟨pair, others, rfl⟩

end Cursor.Walk

namespace Passed

/-- Expressions that are read from tokens that are alike. -/
structure Reading (passed : Passed) (expression expression' : Expression) : Prop where
  same : Same passed expression expression'
  textless : DifferAt expression.textPlaces passed → expression.textless = expression'.textless
  text : ∀ place ∈ expression.textPlaces, ∃ pair ∈ passed, pair.1.span = place
  objects : (expression.objects.map (·.span.start)).Sublist (starts passed)

attribute [grind →] Reading.same Walk.alike Alike.previousSpan Alike.span
attribute [grind =] Cursor.spanFrom Cursor.typeFrom Cursor.expressionFrom

/-- What is neither a string nor a call, nor holds object literals, is read if it is the same. -/
theorem Reading.plain {passed : Passed} {expression expression' : Expression}
    (same : Same passed expression expression') (plain : expression.form.isPlain = true) :
    Reading passed expression expression' := by
  obtain ⟨form, span⟩ := expression
  have places : Expression.textPlaces ⟨form, span⟩ = [] := by
    cases form <;> first | rfl | cases plain
  have objects : Expression.objects ⟨form, span⟩ = [] := by
    cases form <;> first | rfl | cases plain
  refine ⟨same, fun clear => ?_, fun place inside => ?_, ?_⟩
  · rw [places] at clear
    rw [same clear]
  · rw [places] at inside
    cases inside
  · rw [objects]
    exact List.nil_sublist _

/-- Properties that are read from tokens that are alike. -/
structure PropertyReading (passed : Passed) (property property' : Property) : Prop where
  same : Same passed property property'
  objects : (property.value.objects.map (·.span.start)).Sublist (starts passed)

/-- Parameters that are read from tokens that are alike. -/
structure ParameterReading (passed : Passed) (parameter parameter' : Parameter) : Prop where
  same : Same passed parameter parameter'
  start : [parameter.span.start].Sublist (starts passed)

/-- Lists whose elements are read from tokens that follow each other, with others between
them. -/
inductive Parts {α : Type} (relation : Passed → α → α → Prop) : Passed → List α → List α → Prop where
  | nil : Parts relation [] [] []
  | skip (pair : Token × Token) {passed : Passed} {values values' : List α}
    (parts : Parts relation passed values values') : Parts relation (pair :: passed) values values'
  | cons {first others : Passed} {value value' : α} {values values' : List α}
    (related : relation first value value') (parts : Parts relation others values values') :
    Parts relation (first ++ others) (value :: values) (value' :: values')

namespace Parts

variable {α : Type} {relation : Passed → α → α → Prop} {first second : Passed}
  {values values' others others' : List α}

/-- No elements are read from any tokens. -/
theorem skipAll (passed : Passed) : Parts relation passed [] [] := by
  induction passed with
  | nil => exact .nil
  | cons pair passed ih => exact .skip pair ih

theorem append (before : Parts relation first values values')
    (after : Parts relation second others others') :
    Parts relation (first ++ second) (values ++ others) (values' ++ others') := by
  induction before with
  | nil => exact after
  | skip pair _ ih => exact .skip pair ih
  | cons related _ ih =>
      rw [List.append_assoc]
      exact .cons related ih

/-- Tokens that are passed after the last element make no difference. -/
theorem extend (parts : Parts relation first values values') (passed : Passed) :
    Parts relation (first ++ passed) values values' := by
  have extended := parts.append (skipAll passed)
  rwa [List.append_nil, List.append_nil] at extended

theorem snoc (before : Parts relation first values values') {value value' : α}
    (related : relation second value value') :
    Parts relation (first ++ second) (values ++ [value]) (values' ++ [value']) := by
  have last : Parts relation (second ++ []) [value] [value'] := .cons related .nil
  rw [List.append_nil] at last
  exact before.append last

theorem length_eq (parts : Parts relation first values values') :
    values.length = values'.length := by
  induction parts with
  | nil => rfl
  | skip _ _ ih => exact ih
  | cons _ _ ih => exact congrArg Nat.succ ih

theorem same (parts : Parts relation first values values')
    (each : ∀ passed value value', relation passed value value' → Same passed value value') :
    Same first values values' := by
  induction parts with
  | nil => exact fun _ => rfl
  | skip pair _ ih => exact fun clear => ih (differAt_cons.1 clear).2
  | cons related _ ih =>
      intro clear
      obtain ⟨here, there⟩ := differAt_append.1 clear
      rw [each _ _ _ related here, ih there]

end Parts

end Passed

/-! ## Elements -/

namespace Rules

variable {limit limit' : Cursor} {α : Type} {relation : Passed → α → α → Prop}

/-- Elements after some others. -/
theorem parallel_elements_after {opening opening' : Opening} {closing : Mark}
    {missing missing' : ParseError → ParseError}
    {element : (c : Cursor) → c.remaining < limit.remaining → Outcome true c α}
    {element' : (c : Cursor) → c.remaining < limit'.remaining → Outcome true c α}
    (each : ∀ {c c'}, c.Alike c' → ∀ inside inside',
      Outcome.Parallel relation (element c inside) (element' c' inside'))
    {before : Passed} {earlier earlier' : List α}
    (parts : Parts relation before earlier.reverse earlier'.reverse) {c c' : Cursor}
    (alike : c.Alike c') (inside : c.remaining < limit.remaining)
    (inside' : c'.remaining < limit'.remaining) :
    Outcome.Parallel (fun passed => Parts relation (before ++ passed))
      (elements opening closing missing element earlier c inside)
      (elements opening' closing missing' element' earlier' c' inside') := by
  unfold elements
  refine alike.mark_cases ?_ (fun past past' same walk => ?_) closing
  · dsimp only
    rw [alike.atEnd]
    refine .ite (fun _ => .fail alike) fun _ => ?_
    refine (each alike _ _).andThen fun {_ value value' d d'} less less' walk related => ?_
    have further := parts.snoc related
    rw [← List.reverse_cons, ← List.reverse_cons] at further
    refine walk.alike.mark_cases ?_ (fun past past' same comma => ?_) .comma
    · refine .map (.mapError ((parallel_expectMark walk.alike closing).mono ?_))
      intro passed _ _ _
      rw [← List.append_assoc]
      exact further.extend passed
    · have := past.less
      refine .go comma ((parallel_elements_after each
        (further.extend [(past.token, past.token)]) comma.alike _ _).mono ?_)
      intro passed _ _ parts
      rwa [List.append_assoc, List.append_assoc] at parts
  · exact .go walk (.ok walk.alike (parts.extend _))
termination_by c.remaining

theorem parallel_elements {opening opening' : Opening} {closing : Mark}
    {missing missing' : ParseError → ParseError}
    {element : (c : Cursor) → c.remaining < limit.remaining → Outcome true c α}
    {element' : (c : Cursor) → c.remaining < limit'.remaining → Outcome true c α}
    (each : ∀ {c c'}, c.Alike c' → ∀ inside inside',
      Outcome.Parallel relation (element c inside) (element' c' inside'))
    {c c' : Cursor} (alike : c.Alike c') {inside : c.remaining < limit.remaining}
    {inside' : c'.remaining < limit'.remaining} :
    Outcome.Parallel (Parts relation) (elements opening closing missing element [] c inside)
      (elements opening' closing missing' element' [] c' inside') := by
  have none : Parts relation [] ([] : List α).reverse ([] : List α).reverse := .nil
  exact parallel_elements_after each none alike inside inside'

/-! ## Recursive rules -/

/-- The recursive rules run in parallel. -/
protected structure Alike (rules : Rules limit) (rules' : Rules limit') : Prop where
  assignment {c c' : Cursor} (alike : c.Alike c') {inside : c.remaining < limit.remaining}
    {inside' : c'.remaining < limit'.remaining} :
    Parallel Reading (rules.assignment c inside) (rules'.assignment c' inside')
  expression {c c' : Cursor} (alike : c.Alike c') {inside : c.remaining < limit.remaining}
    {inside' : c'.remaining < limit'.remaining} :
    Parallel Reading (rules.expression c inside) (rules'.expression c' inside')
  binary {c c' : Cursor} (alike : c.Alike c') {inside : c.remaining < limit.remaining}
    {inside' : c'.remaining < limit'.remaining} (least : Nat) :
    Parallel Reading (rules.binary least c inside) (rules'.binary least c' inside')
  unary {c c' : Cursor} (alike : c.Alike c') {inside : c.remaining < limit.remaining}
    {inside' : c'.remaining < limit'.remaining} :
    Parallel Reading (rules.unary c inside) (rules'.unary c' inside')
  construction {c c' : Cursor} (alike : c.Alike c') {inside : c.remaining < limit.remaining}
    {inside' : c'.remaining < limit'.remaining} :
    Parallel Reading (rules.construction c inside) (rules'.construction c' inside')
  type {c c' : Cursor} (alike : c.Alike c') {inside : c.remaining < limit.remaining}
    {inside' : c'.remaining < limit'.remaining} :
    Parallel Same (rules.type c inside) (rules'.type c' inside')
  typeOperand {c c' : Cursor} (alike : c.Alike c') {inside : c.remaining < limit.remaining}
    {inside' : c'.remaining < limit'.remaining} :
    Parallel Same (rules.typeOperand c inside) (rules'.typeOperand c' inside')

variable {rules : Rules limit} {rules' : Rules limit'} (run : rules.Alike rules')

include run

variable {c c' : Cursor} (alike : c.Alike c')

include alike

theorem parallel_spreadable {inside : c.remaining < limit.remaining}
    {inside' : c'.remaining < limit'.remaining} :
    Parallel Reading (rules.spreadable c inside) (rules'.spreadable c' inside') := by
  unfold spreadable
  refine alike.mark_cases (run.assignment alike) (fun past past' same walk => ?_) .ellipsis
  dsimp only
  refine .go walk ((run.assignment walk.alike).andThen fun _ _ walk' reading => ?_)
  exact .ok walk'.alike (.plain (by grind) rfl)

theorem parallel_arguments {inside : c.remaining ≤ limit.remaining}
    {inside' : c'.remaining ≤ limit'.remaining} :
    Parallel (Parts Reading) (rules.arguments c inside) (rules'.arguments c' inside') := by
  unfold arguments
  refine (parallel_expectMark alike .lparen).andThen fun _ _ walk opened => ?_
  refine (parallel_elements (fun alike _ _ => parallel_spreadable run alike) walk.alike).mono ?_
  exact fun _ _ _ parts => (Parts.skipAll _).append parts

theorem parallel_optionalArguments {inside : c.remaining ≤ limit.remaining}
    {inside' : c'.remaining ≤ limit'.remaining} :
    Parallel (Parts Reading) (rules.optionalArguments c inside)
      (rules'.optionalArguments c' inside') := by
  unfold optionalArguments
  rw [alike.seesMark]
  exact .ite (fun _ => .lax (parallel_arguments run alike)) fun _ => .ok alike .nil

/-! ## Decorators -/

omit run alike in
theorem parallel_lastPart {before : Passed} {name name' : String} (same : Same before name name')
    {c c' : Cursor} (alike : c.Alike c') :
    Parallel (fun passed => Same (before ++ passed)) (lastPart name c) (lastPart name' c') := by
  unfold lastPart
  refine alike.mark_cases (.ok alike (by grind)) (fun past past' _ walk => ?_) .dot
  have := past.less
  refine .lax (.go walk ((parallel_properName walk.alike).andThen fun _ _ walk' part => ?_))
  have partName : Same _ _ _ := fun clear => congrArg NameUse.name (part clear)
  exact (parallel_lastPart partName walk'.alike).mono (by grind)
termination_by c.remaining

theorem parallel_decoratorAfter (sign : Span) {inside : c.remaining ≤ limit.remaining}
    {inside' : c'.remaining ≤ limit'.remaining} :
    Parallel Same (rules.decoratorAfter sign c inside) (rules'.decoratorAfter sign c' inside') := by
  unfold decoratorAfter
  refine (parallel_expectName alike).andThen fun {_ first _ _ _} _ _ walk₁ same => ?_
  cases same
  refine (parallel_lastPart (.refl [] first.name) walk₁.alike).bind fun _ _ walk₂ name => ?_
  refine (parallel_skipAnglesIfAny walk₂.alike).bind fun _ _ walk₃ _ => ?_
  refine (parallel_optionalArguments run walk₃.alike).bind fun _ _ walk₄ arguments => ?_
  have arguments := arguments.same fun _ _ _ reading => reading.same
  exact .ok walk₄.alike (by grind)

omit alike in
theorem parallel_decorators_after {before : Passed} {earlier earlier' : List Decorator}
    (same : Same before earlier earlier') {c c' : Cursor} (alike : c.Alike c')
    {inside : c.remaining ≤ limit.remaining} {inside' : c'.remaining ≤ limit'.remaining} :
    Parallel (fun passed => Same (before ++ passed)) (rules.decorators earlier c inside)
      (rules'.decorators earlier' c' inside') := by
  unfold decorators
  refine alike.mark_cases (.ok alike (by grind)) (fun past past' token walk => ?_) .at
  have := past.less
  dsimp only
  rw [token]
  refine .lax (.go walk ((parallel_decoratorAfter run walk.alike past.token.span).andThen
    fun {passed decorator decorator' _ _} _ _ walk' read => ?_))
  have further : Same (before ++ (past.token, past.token) :: passed) (decorator :: earlier)
    (decorator' :: earlier') := by grind
  exact (parallel_decorators_after further walk'.alike).mono (by grind)
termination_by c.remaining

/-! ## Parameters -/

omit run alike in
theorem parallel_modifiers {earlier : Modifiers} {c c' : Cursor} (alike : c.Alike c') :
    Parallel Equal (c.modifiers earlier) (c'.modifiers earlier) := by
  unfold modifiers
  refine alike.next_cases (fun _ => .ok alike rfl) (fun past past' same walk => ?_)
    fun past past' content content' kind kind' _ walk => ?_
  · dsimp only
    rw [same, alike.modifies]
    have := past.less
    split
    · next word _ =>
      refine .ite (fun _ => ?_) fun _ => .ok alike rfl
      cases earlier.add? word with
      | some later => exact .lax (.go walk (parallel_modifiers walk.alike))
      | none => exact .ok alike rfl
    · exact .ok alike rfl
  · simp only [kind, kind']
    exact .ok alike rfl
termination_by c.remaining

omit run in
theorem parallel_parameterName : Parallel Equal (parameterName c) (parameterName c') := by
  unfold parameterName
  refine alike.next_cases (fun _ => .fail alike) (fun past past' same walk => ?_)
    fun past past' content content' kind kind' _ walk => ?_
  · dsimp only
    rw [same]
    have group : Parallel Equal (c.skipGroup.map fun _ => "") (c'.skipGroup.map fun _ => "") :=
      .map ((parallel_skipGroup alike).mono fun _ _ _ _ => rfl)
    split
    · exact .go walk (.ok walk.alike rfl)
    · exact .go walk (.ok walk.alike rfl)
    · exact group
    · exact group
    · exact .fail alike
  · simp only [kind, kind']
    exact .fail alike

theorem parallel_ascription {inside : c.remaining < limit.remaining}
    {inside' : c'.remaining < limit'.remaining} :
    Parallel Same (rules.ascription c inside) (rules'.ascription c' inside') := by
  unfold ascription
  refine alike.mark_cases (.ok alike (by grind)) (fun past past' _ walk => ?_) .colon
  exact .lax (.map (.go walk ((run.type walk.alike).mono (by grind))))

theorem parallel_initial {inside : c.remaining < limit.remaining}
    {inside' : c'.remaining < limit'.remaining} :
    Parallel Same (rules.initial c inside) (rules'.initial c' inside') := by
  unfold initial
  refine alike.mark_cases (.ok alike (by grind)) (fun past past' _ walk => ?_) .eq
  exact .lax (.map (.go walk ((run.assignment walk.alike).mono (by grind))))

theorem parallel_parameter {inside : c.remaining < limit.remaining}
    {inside' : c'.remaining < limit'.remaining} :
    Parallel ParameterReading (rules.parameter c inside) (rules'.parameter c' inside') := by
  unfold parameter
  refine (parallel_decorators_after run (.refl [] []) alike).bind fun _ _ walk₁ decorators => ?_
  refine (parallel_modifiers walk₁.alike).bind fun _ _ walk₂ modifiers => ?_
  refine (parallel_optionalMark walk₂.alike .ellipsis).bind fun _ _ walk₃ rest => ?_
  refine (parallel_parameterName walk₃.alike).andThen fun _ _ walk₄ name => ?_
  refine (parallel_optionalMark walk₄.alike .question).bind fun _ _ walk₅ optional => ?_
  refine (parallel_ascription run walk₅.alike).bind fun _ _ walk₆ type => ?_
  refine (parallel_initial run walk₆.alike).bind fun _ _ walk₇ value => ?_
  refine .ok walk₇.alike ⟨by grind, ?_⟩
  have walk := walk₁.trans (walk₂.trans (walk₃.trans (walk₄.trans (walk₅.trans
    (walk₆.trans walk₇)))))
  obtain ⟨pair, others, passed⟩ := walk.exists_eq_cons (by omega)
  rw [passed] at walk
  simp only [List.append_nil, passed, walk.start_spanFrom alike]
  exact (List.nil_sublist _).cons_cons _

theorem parallel_parameters {inside : c.remaining ≤ limit.remaining}
    {inside' : c'.remaining ≤ limit'.remaining} :
    Parallel (Parts ParameterReading) (rules.parameters c inside)
      (rules'.parameters c' inside') := by
  unfold parameters
  refine (parallel_expectMark alike .lparen).andThen fun _ _ walk opened => ?_
  refine (parallel_elements (fun alike _ _ => parallel_parameter run alike) walk.alike).mono ?_
  exact fun _ _ _ parts => (Parts.skipAll _).append parts

end Rules

/-! ## Types of values and functions -/

namespace Cursor

theorem parallel_skipQualifiedTail {c c' : Cursor} (alike : c.Alike c') :
    Parallel Equal c.skipQualifiedTail c'.skipQualifiedTail := by
  unfold skipQualifiedTail
  refine alike.mark_cases (parallel_skipAnglesIfAny alike) (fun past past' _ walk => ?_) .dot
  have := past.less
  refine .lax (.go walk ((parallel_propertyName walk.alike).andThen fun _ _ walk' _ => ?_))
  exact parallel_skipQualifiedTail walk'.alike
termination_by c.remaining

variable {c c' : Cursor} (alike : c.Alike c') (start : Span)

include alike

theorem parallel_importedType :
    Parallel Same (c.importedType start) (c'.importedType start) := by
  unfold importedType
  refine (parallel_skipGroup alike).andThen fun _ _ walk _ => ?_
  refine (parallel_skipQualifiedTail walk.alike).bind fun _ _ walk' _ => ?_
  exact .ok walk'.alike (by grind)

theorem parallel_valueType : Parallel Same (c.valueType start) (c'.valueType start) := by
  unfold valueType
  refine alike.keyword_cases ?_ (fun past past' _ walk => ?_) .import_
  · refine (parallel_expectName alike).andThen fun {_ value _ _ _} _ _ walk same => ?_
    cases same
    rw [walk.alike.seesMark]
    refine .ite (fun _ => ?_) fun _ => ?_
    · refine (parallel_skipQualifiedTail walk.alike).bind fun _ _ walk' _ => ?_
      exact .ok walk'.alike (by grind)
    · refine (parallel_skipAnglesIfAny walk.alike).bind fun _ _ walk' _ => ?_
      exact .ok walk'.alike (by grind)
  · exact .go walk ((parallel_importedType walk.alike start).mono (by grind))

end Cursor

namespace Rules

variable {limit limit' : Cursor} {rules : Rules limit} {rules' : Rules limit'}
  (run : rules.Alike rules') {c c' : Cursor} (alike : c.Alike c')

include run alike

theorem parallel_returnType {inside : c.remaining < limit.remaining}
    {inside' : c'.remaining < limit'.remaining} :
    Parallel Same (rules.returnType c inside) (rules'.returnType c' inside') := by
  unfold returnType
  refine alike.next_cases (fun _ => run.type alike) (fun first first' sameFirst walk₁ => ?_)
    fun first first' content content' kind kind' _ walk₁ => ?_
  · dsimp only
    refine walk₁.alike.next_cases (fun _ => run.type alike)
      (fun second second' sameSecond walk₂ => ?_)
      fun second second' content content' kind kind' _ walk₂ => ?_
    · dsimp only
      rw [sameFirst, sameSecond]
      refine .ite (fun _ => ?_) fun _ => .ite (fun _ => ?_) fun _ => run.type alike
      · refine walk₂.alike.name_cases ?_ (fun past past' _ walk₃ => ?_) "is"
        · exact .go walk₁ (.go walk₂ (.ok walk₂.alike (by grind)))
        · refine .go walk₁ (.go walk₂ (.go walk₃ ((run.type walk₃.alike).andThen
            fun _ _ walk₄ _ => ?_)))
          exact .ok walk₄.alike (by grind)
      · refine .go walk₁ (.go walk₂ ((run.type walk₂.alike).andThen fun _ _ walk₃ _ => ?_))
        exact .ok walk₃.alike (by grind)
    · simp only [kind, kind', Kind.isPredicateSubject, reduceCtorEq, Bool.false_eq_true, and_false,
        if_false]
      exact run.type alike
  · dsimp only
    refine walk₁.alike.next_cases (fun _ => run.type alike) (fun second second' _ _ => ?_)
      fun second second' _ _ _ _ _ _ => ?_
    all_goals
      simp only [kind, kind', Kind.isPredicateSubject, reduceCtorEq, Bool.false_eq_true, false_and,
        if_false]
      exact run.type alike

theorem parallel_resultAscription {inside : c.remaining ≤ limit.remaining}
    {inside' : c'.remaining ≤ limit'.remaining} :
    Parallel Same (rules.resultAscription c inside) (rules'.resultAscription c' inside') := by
  unfold resultAscription
  refine alike.mark_cases (.ok alike (by grind)) (fun past past' _ walk => ?_) .colon
  exact .lax (.map (.go walk ((parallel_returnType run walk.alike).mono (by grind))))

theorem parallel_typeArguments {inside : c.remaining ≤ limit.remaining}
    {inside' : c'.remaining ≤ limit'.remaining} :
    Parallel Same (rules.typeArguments c inside) (rules'.typeArguments c' inside') := by
  unfold typeArguments
  refine (parallel_expectMark alike .lt).andThen fun _ _ walk opened => ?_
  refine (parallel_elements (fun alike _ _ => run.type alike) walk.alike).mono ?_
  intro passed _ _ parts
  have := parts.same fun _ _ _ same => same
  grind

theorem parallel_functionType {inside : c.remaining ≤ limit.remaining}
    {inside' : c'.remaining ≤ limit'.remaining} :
    Parallel Same (rules.functionType c inside) (rules'.functionType c' inside') := by
  unfold functionType
  refine (parallel_skipAnglesIfAny alike).bind fun _ _ walk₁ _ => ?_
  refine (parallel_parameters run walk₁.alike).andThen fun _ _ walk₂ parameters => ?_
  refine (parallel_expectMark walk₂.alike .arrow).andThen fun _ _ walk₃ _ => ?_
  refine (parallel_returnType run walk₃.alike).andThen fun _ _ walk₄ result => ?_
  have parameters := parameters.same fun _ _ _ reading => reading.same
  exact .ok walk₄.alike (by grind)

/-! ## Tuples -/

omit run in
theorem parallel_skipElementLabel : Parallel Equal (skipElementLabel c) (skipElementLabel c') := by
  unfold skipElementLabel
  refine alike.next_cases (fun _ => .ok alike rfl) (fun past past' same walk₁ => ?_)
    fun past past' content content' kind kind' _ walk => ?_
  · dsimp only
    rw [same]
    split
    · refine walk₁.alike.mark_cases ?_ (fun past past' _ walk₂ => ?_) .colon
      · dsimp only
        refine walk₁.alike.mark_cases (.ok alike rfl) (fun past past' _ walk₂ => ?_) .question
        dsimp only
        refine walk₂.alike.mark_cases (.ok alike rfl) (fun past past' _ walk₃ => ?_) .colon
        exact .lax (.go walk₁ (.go walk₂ (.go walk₃ (.ok walk₃.alike rfl))))
      · exact .lax (.go walk₁ (.go walk₂ (.ok walk₂.alike rfl)))
    · exact .ok alike rfl
  · simp only [kind, kind']
    exact .ok alike rfl

theorem parallel_tupleElement {inside : c.remaining < limit.remaining}
    {inside' : c'.remaining < limit'.remaining} :
    Parallel Same (rules.tupleElement c inside) (rules'.tupleElement c' inside') := by
  unfold tupleElement
  refine (parallel_optionalMark alike .ellipsis).bind fun _ _ walk₁ _ => ?_
  refine (parallel_skipElementLabel walk₁.alike).bind fun _ _ walk₂ _ => ?_
  refine (run.type walk₂.alike).andThen fun _ _ walk₃ type => ?_
  refine (parallel_optionalMark walk₃.alike .question).bind fun _ _ walk₄ _ => ?_
  exact .ok walk₄.alike (by grind)

theorem parallel_tupleType {inside : c.remaining ≤ limit.remaining}
    {inside' : c'.remaining ≤ limit'.remaining} :
    Parallel Same (rules.tupleType c inside) (rules'.tupleType c' inside') := by
  unfold tupleType
  refine (parallel_expectMark alike .lbracket).andThen fun {_ opened _ _ _} _ _ walk₁ same => ?_
  cases same
  refine (parallel_elements (fun alike _ _ => parallel_tupleElement run alike) walk₁.alike).andThen
    fun _ _ walk₂ members => ?_
  have members := members.same fun _ _ _ same => same
  exact .ok walk₂.alike (by grind)

/-! ## Members of interfaces and object types -/

theorem parallel_skipSignature {inside : c.remaining ≤ limit.remaining}
    {inside' : c'.remaining ≤ limit'.remaining} :
    Parallel Equal (rules.skipSignature c inside) (rules'.skipSignature c' inside') := by
  unfold skipSignature
  refine (parallel_skipAnglesIfAny alike).bind fun _ _ walk₁ _ => ?_
  refine (parallel_parameters run walk₁.alike).andThen fun _ _ walk₂ _ => ?_
  exact .map ((parallel_resultAscription run walk₂.alike).mono fun _ _ _ _ => rfl)

omit run in
theorem startsSignature_congr : startsSignature c = startsSignature c' := by
  rw [startsSignature, startsSignature, alike.seesMark, alike.seesMark]

theorem parallel_skipComputedMember {inside : c.remaining ≤ limit.remaining}
    {inside' : c'.remaining ≤ limit'.remaining} :
    Parallel Equal (rules.skipComputedMember c inside) (rules'.skipComputedMember c' inside') := by
  unfold skipComputedMember
  refine (parallel_skipGroup alike).andThen fun _ _ walk₁ _ => ?_
  refine (parallel_optionalMark walk₁.alike .question).bind fun _ _ walk₂ _ => ?_
  rw [startsSignature_congr walk₂.alike]
  refine .ite (fun _ => .lax ((parallel_skipSignature run walk₂.alike).mono fun _ _ _ _ => rfl))
    fun _ => ?_
  exact .map ((parallel_ascription run walk₂.alike).mono fun _ _ _ _ => rfl)

omit run in
theorem parallel_skipAccessorWord : Parallel Equal (skipAccessorWord c) (skipAccessorWord c') := by
  unfold skipAccessorWord
  rw [alike.namesProperty]
  refine .ite (fun _ => ?_) fun _ => .ok alike rfl
  refine alike.name_cases ?_ (fun past past' _ walk => ?_) "get"
  · exact .map ((parallel_optional alike (by simp)).mono fun _ _ _ _ => rfl)
  · exact .lax (.go walk (.ok walk.alike rfl))

theorem parallel_namedTypeMember (start : Span) (readonly : Bool)
    {inside : c.remaining ≤ limit.remaining} {inside' : c'.remaining ≤ limit'.remaining} :
    Parallel Same (rules.namedTypeMember start readonly c inside)
      (rules'.namedTypeMember start readonly c' inside') := by
  unfold namedTypeMember
  refine (parallel_skipAccessorWord alike).bind fun _ _ walk₁ isGetter => ?_
  refine (parallel_propertyName walk₁.alike).andThen fun _ _ walk₂ property => ?_
  refine (parallel_optionalMark walk₂.alike .question).bind fun _ _ walk₃ optional => ?_
  dsimp only
  rw [startsSignature_congr walk₃.alike]
  refine .ite (fun _ => ?_) fun _ => ?_
  · refine (parallel_skipAnglesIfAny walk₃.alike).bind fun _ _ walk₄ _ => .lax ?_
    refine (parallel_parameters run walk₄.alike).andThen fun _ _ walk₅ parameters => ?_
    refine (parallel_resultAscription run walk₅.alike).bind fun _ _ walk₆ result => ?_
    have parameters := parameters.same fun _ _ _ reading => reading.same
    exact .ok walk₆.alike (by grind)
  · refine (parallel_ascription run walk₃.alike).bind fun _ _ walk₄ type => ?_
    exact .ok walk₄.alike (by grind)

theorem parallel_typeMember {inside : c.remaining ≤ limit.remaining}
    {inside' : c'.remaining ≤ limit'.remaining} :
    Parallel Same (rules.typeMember c inside) (rules'.typeMember c' inside') := by
  unfold typeMember
  have start := alike.span
  have named {readonly : Bool} {c c' : Cursor} (alike : c.Alike c') {inside inside'} (span : Span) :
      Parallel Same ((rules.namedTypeMember span readonly c inside).map some)
        ((rules'.namedTypeMember span readonly c' inside').map some) :=
    .map ((parallel_namedTypeMember run alike span readonly).mono (by grind))
  have unnamed {c c' : Cursor} {o : Outcome true c Unit} {o' : Outcome true c' Unit}
      (parallel : Parallel Equal o o') :
      Parallel Same (o.map fun _ => (none : Option TypeMember)) (o'.map fun _ => none) :=
    .map (parallel.mono fun _ _ _ _ _ => rfl)
  rw [startsSignature_congr alike, start]
  refine .ite (fun _ => unnamed (parallel_skipSignature run alike)) fun _ => ?_
  refine alike.keyword_cases ?_ (fun past past' _ walk => ?_) .new_
  · refine (parallel_optionalModifier alike "readonly").bind fun {_ readonly _ _ _} _ _ walk same => ?_
    cases same
    rw [walk.alike.seesMark]
    refine .ite (fun _ => ?_) fun _ => ?_
    · exact (unnamed (parallel_skipComputedMember run walk.alike)).mono (by grind)
    · exact (named walk.alike _).mono (by grind)
  · dsimp only
    rw [startsSignature_congr walk.alike]
    refine .ite (fun _ => ?_) fun _ => named alike _
    exact .go walk ((unnamed (parallel_skipSignature run walk.alike)).mono (by grind))

omit run alike in
theorem parallel_skipSeparators {c c' : Cursor} (alike : c.Alike c') :
    Parallel Equal (skipSeparators c) (skipSeparators c') := by
  unfold skipSeparators
  refine alike.nextIf_cases (by simp) (.ok alike rfl) fun past past' _ _ walk => ?_
  have := past.less
  exact .lax (.go walk (parallel_skipSeparators walk.alike))
termination_by c.remaining

omit alike in
theorem parallel_typeMembersAfter {opening opening' : Opening} {before : Passed}
    {earlier earlier' : List TypeMember} (same : Same before earlier earlier') {c c' : Cursor}
    (alike : c.Alike c') {inside : c.remaining ≤ limit.remaining}
    {inside' : c'.remaining ≤ limit'.remaining} :
    Parallel (fun passed => Same (before ++ passed))
      (rules.typeMembersAfter opening earlier c inside)
      (rules'.typeMembersAfter opening' earlier' c' inside') := by
  unfold typeMembersAfter
  refine (parallel_skipSeparators alike).bind fun {first _ _ d d'} _ _ walk _ => ?_
  refine walk.alike.mark_cases ?_ (fun past past' _ walk' => ?_) .rbrace
  · dsimp only
    rw [walk.alike.atEnd]
    refine .ite (fun _ => .fail walk.alike) fun _ => ?_
    refine (parallel_typeMember run walk.alike).andThen
      fun {second member member' _ _} _ _ walk' read => .lax ?_
    have further : Same (before ++ (first ++ second)) (member.toList ++ earlier)
      (member'.toList ++ earlier') := by grind
    exact (parallel_typeMembersAfter further walk'.alike).mono (by grind)
  · exact .go walk' (.ok walk'.alike (by grind))
termination_by c.remaining

theorem parallel_typeMembers {inside : c.remaining ≤ limit.remaining}
    {inside' : c'.remaining ≤ limit'.remaining} :
    Parallel Same (rules.typeMembers c inside) (rules'.typeMembers c' inside') := by
  unfold typeMembers
  refine (parallel_expectMark alike .lbrace).andThen fun _ _ walk _ => .lax ?_
  exact (parallel_typeMembersAfter run (.refl [] []) walk.alike).mono (by grind)

/-! ## Types without operators -/

theorem parallel_namedTypeAfter (start : Span) (name : String)
    {inside : c.remaining ≤ limit.remaining} {inside' : c'.remaining ≤ limit'.remaining} :
    Parallel Same (rules.namedTypeAfter start name c inside)
      (rules'.namedTypeAfter start name c' inside') := by
  unfold namedTypeAfter
  rw [alike.seesMark, alike.seesMark]
  refine .ite (fun _ => ?_) fun _ => .ite (fun _ => ?_) fun _ => .ok alike (by grind)
  · refine (parallel_skipQualifiedTail alike).bind fun _ _ walk _ => ?_
    exact .ok walk.alike (by grind)
  · refine (parallel_typeArguments run alike).lax.bind fun _ _ walk arguments => ?_
    exact .ok walk.alike (by grind)

theorem parallel_constructorType (start : Span) {inside : c.remaining ≤ limit.remaining}
    {inside' : c'.remaining ≤ limit'.remaining} :
    Parallel Same (rules.constructorType start c inside)
      (rules'.constructorType start c' inside') := by
  unfold constructorType
  refine (parallel_functionType run alike).andThen fun _ _ walk _ => ?_
  exact .ok walk.alike (by grind)

theorem parallel_primaryType {inside : c.remaining ≤ limit.remaining}
    {inside' : c'.remaining ≤ limit'.remaining} :
    Parallel Same (rules.primaryType c inside) (rules'.primaryType c' inside') := by
  unfold primaryType
  refine alike.next_cases (fun _ => .fail alike) (fun past past' same walk => ?_)
    fun past past' content content' kind kind' span walk => ?_
  · dsimp only
    rw [same]
    split
    · rw [Lookahead.startsFunctionType_congr alike.ahead]
      refine .ite (fun _ => parallel_functionType run alike) fun _ => ?_
      refine .go walk ((run.type walk.alike).andThen fun _ _ walk' type => ?_)
      exact .map ((parallel_expectMark walk'.alike .rparen).mono (by grind))
    · exact parallel_functionType run alike
    · exact .go walk ((parallel_constructorType run walk.alike _).mono (by grind))
    · rw [Lookahead.startsMappedType_congr alike.ahead]
      refine .ite (fun _ => ?_) fun _ => ?_
      · refine (parallel_skipGroup alike).andThen fun _ _ walk' _ => ?_
        exact .ok walk'.alike (by grind)
      · refine (parallel_typeMembers run alike).andThen fun _ _ walk' members => ?_
        exact .ok walk'.alike (by grind)
    · exact parallel_tupleType run alike
    · exact .go walk (.ok walk.alike (by grind))
    · exact .go walk (.ok walk.alike (by grind))
    · exact .go walk (.ok walk.alike (by grind))
    · exact .go walk (.ok walk.alike (by grind))
    · refine walk.alike.nextIf_cases (by simp) (.fail alike) fun number number' _ _ walk' => ?_
      exact .go walk (.go walk' (.ok walk'.alike (by grind)))
    · exact .go walk (.ok walk.alike (by grind))
    · exact .go walk (.ok walk.alike (by grind))
    · exact .go walk (.ok walk.alike (by grind))
    · exact .go walk (.ok walk.alike (by grind))
    · exact .go walk ((parallel_valueType walk.alike _).mono (by grind))
    · exact .go walk ((parallel_importedType walk.alike _).mono (by grind))
    · refine walk.alike.keyword_cases ?_ (fun new new' _ walk' => ?_) .new_
      · exact .go walk ((parallel_namedTypeAfter run walk.alike _ _).mono (by grind))
      · exact .go walk (.go walk' ((parallel_constructorType run walk'.alike _).mono (by grind)))
    · exact .go walk ((parallel_namedTypeAfter run walk.alike _ _).mono (by grind))
    · exact .fail alike
  · simp only [kind, kind']
    refine .go walk (.ok walk.alike fun clear => ?_)
    simp_all

/-! ## Operators -/

omit alike in
theorem parallel_typeSuffixes (start : Span) {before : Passed} {type type' : TypeExpression}
    (same : Same before type type') {c c' : Cursor} (alike : c.Alike c')
    {inside : c.remaining < limit.remaining} {inside' : c'.remaining < limit'.remaining} :
    Parallel (fun passed => Same (before ++ passed)) (rules.typeSuffixes start type c inside)
      (rules'.typeSuffixes start type' c' inside') := by
  unfold typeSuffixes
  refine alike.mark_cases (.ok alike (by grind)) (fun past past' _ walk => ?_) .lbracket
  have := past.less
  dsimp only
  refine walk.alike.mark_cases ?_ (fun closed closed' _ walk' => ?_) .rbracket
  · refine .lax (.go walk ((run.type walk.alike).andThen fun {first _ _ _ _} _ _ walk₁ _ => ?_))
    refine (parallel_expectMark walk₁.alike .rbracket).andThen
      fun {second _ _ e e'} _ _ walk₂ _ => ?_
    have further : Same (before ++ (past.token, past.token) :: (first ++ second))
      (e.typeFrom start .unmodelled) (e'.typeFrom start .unmodelled) := by grind
    exact (parallel_typeSuffixes start further walk₂.alike).mono (by grind)
  · have := closed.less
    have further : Same (before ++ [(past.token, past.token), (closed.token, closed.token)])
        (closed.rest.typeFrom start (.array type)) (closed'.rest.typeFrom start (.array type')) := by
      grind
    exact .lax (.go walk (.go walk'
      ((parallel_typeSuffixes start further walk'.alike).mono (by grind))))
termination_by c.remaining

theorem parallel_suffixedType {inside : c.remaining ≤ limit.remaining}
    {inside' : c'.remaining ≤ limit'.remaining} :
    Parallel Same (rules.suffixedType c inside) (rules'.suffixedType c' inside') := by
  unfold suffixedType
  rw [alike.span]
  refine (parallel_primaryType run alike).andThen fun _ _ walk type => ?_
  exact parallel_typeSuffixes run _ type walk.alike

theorem parallel_skipConstraint {inside : c.remaining < limit.remaining}
    {inside' : c'.remaining < limit'.remaining} :
    Parallel Equal (rules.skipConstraint c inside) (rules'.skipConstraint c' inside') := by
  unfold skipConstraint
  refine alike.keyword_cases (.ok alike rfl) (fun past past' _ walk => ?_) .extends_
  dsimp only
  rw [Lookahead.reachesQuestion_congr walk.alike.ahead]
  refine .ite (fun _ => .ok alike rfl) fun _ => .lax (.map (.go walk ?_))
  exact (run.typeOperand walk.alike).mono fun _ _ _ _ => rfl

theorem parallel_operandType {inside : c.remaining ≤ limit.remaining}
    {inside' : c'.remaining ≤ limit'.remaining} :
    Parallel Same (rules.operandType c inside) (rules'.operandType c' inside') := by
  have suffixed {inside inside'} :
      Parallel Same (rules.suffixedType c inside) (rules'.suffixedType c' inside') :=
    parallel_suffixedType run alike
  unfold operandType
  refine alike.next_cases (fun _ => suffixed) (fun past past' same walk => ?_)
    fun past past' content content' kind kind' _ walk => ?_
  · dsimp only
    have follows := walk.alike.kind_congr (·.any Kind.startsTypeOperand) fun _ _ => rfl
    rw [same, follows]
    split
    · refine .ite (fun _ => .go walk ((run.typeOperand walk.alike).andThen
        fun _ _ walk' _ => ?_)) fun _ => suffixed
      exact .ok walk'.alike (by grind)
    · exact .ite (fun _ => .go walk ((run.typeOperand walk.alike).mono (by grind)))
        fun _ => suffixed
    · refine walk.alike.name_cases suffixed (fun symbol symbol' _ walk' => ?_) "symbol"
      exact .go walk (.go walk' (.ok walk'.alike (by grind)))
    · refine walk.alike.next_cases (fun _ => suffixed) (fun second second' same walk₁ => ?_)
        fun second second' content content' kind kind' _ walk₁ => ?_
      · dsimp only
        rw [same]
        split
        · refine .go walk (.go walk₁ ((parallel_skipConstraint run walk₁.alike).bind
            fun _ _ walk₂ _ => ?_))
          exact .ok walk₂.alike (by grind)
        · exact suffixed
      · simp only [kind, kind']
        exact suffixed
    · exact suffixed
  · simp only [kind, kind']
    exact suffixed

omit run alike in
theorem parallel_furtherMembers {sign : Mark}
    {member : (c : Cursor) → c.remaining ≤ limit.remaining → Outcome true c TypeExpression}
    {member' : (c : Cursor) → c.remaining ≤ limit'.remaining → Outcome true c TypeExpression}
    (each : ∀ {c c'}, c.Alike c' → ∀ inside inside',
      Parallel Same (member c inside) (member' c' inside'))
    {before : Passed} {earlier earlier' : List TypeExpression}
    (same : Same before earlier earlier') {c c' : Cursor} (alike : c.Alike c')
    {inside : c.remaining ≤ limit.remaining} {inside' : c'.remaining ≤ limit'.remaining} :
    Parallel (fun passed => Same (before ++ passed)) (furtherMembers sign member earlier c inside)
      (furtherMembers sign member' earlier' c' inside') := by
  unfold furtherMembers
  refine alike.mark_cases (.ok alike (by grind)) (fun past past' _ walk => ?_) sign
  have := past.less
  refine .lax (.go walk ((each walk.alike _ _).andThen
    fun {passed type type' _ _} _ _ walk' read => ?_))
  have further : Same (before ++ (past.token, past.token) :: passed) (type :: earlier)
    (type' :: earlier') := by grind
  exact (parallel_furtherMembers each further walk'.alike).mono (by grind)
termination_by c.remaining

theorem parallel_intersectionType {inside : c.remaining ≤ limit.remaining}
    {inside' : c'.remaining ≤ limit'.remaining} :
    Parallel Same (rules.intersectionType c inside) (rules'.intersectionType c' inside') := by
  unfold intersectionType
  refine (parallel_optionalMark alike .amp).bind fun _ _ walk₁ _ => ?_
  refine (parallel_operandType run walk₁.alike).andThen
    fun {passed first first' _ _} _ _ walk₂ read => ?_
  have single : Same passed [first] [first'] := by grind
  refine (parallel_furtherMembers (fun alike _ _ => parallel_operandType run alike) single
    walk₂.alike).bind fun _ _ walk₃ members => ?_
  exact .ok walk₃.alike (by grind)

theorem parallel_unionType {inside : c.remaining ≤ limit.remaining}
    {inside' : c'.remaining ≤ limit'.remaining} :
    Parallel Same (rules.unionType c inside) (rules'.unionType c' inside') := by
  unfold unionType
  refine (parallel_optionalMark alike .pipe).bind fun _ _ walk₁ leading => ?_
  refine (parallel_intersectionType run walk₁.alike).andThen
    fun {passed first first' _ _} _ _ walk₂ read => ?_
  have single : Same passed [first] [first'] := by grind
  refine (parallel_furtherMembers (fun alike _ _ => parallel_intersectionType run alike) single
    walk₂.alike).bind fun _ _ walk₃ members => ?_
  exact .ok walk₃.alike (by grind)

theorem parallel_fullType {inside : c.remaining ≤ limit.remaining}
    {inside' : c'.remaining ≤ limit'.remaining} :
    Parallel Same (rules.fullType c inside) (rules'.fullType c' inside') := by
  unfold fullType
  refine (parallel_unionType run alike).andThen fun _ _ walk₁ type => ?_
  refine walk₁.alike.keyword_cases (.ok walk₁.alike (by grind)) (fun past past' _ walk => ?_)
    .extends_
  refine .lax (.go walk ((parallel_unionType run walk.alike).andThen fun _ _ walk₂ _ => ?_))
  refine (parallel_expectMark walk₂.alike .question).andThen fun _ _ walk₃ _ => ?_
  refine (run.type walk₃.alike).andThen fun _ _ walk₄ _ => ?_
  refine (parallel_expectMark walk₄.alike .colon).andThen fun _ _ walk₅ _ => ?_
  refine (run.type walk₅.alike).andThen fun _ _ walk₆ _ => ?_
  exact .ok walk₆.alike (by grind)

end Rules

end InjectionCheck
