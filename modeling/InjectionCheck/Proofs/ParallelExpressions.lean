import InjectionCheck.Proofs.ParallelTypes

/-!
# Expressions read in parallel

The rules for expressions run in parallel at cursors before tokens that are alike
(`Rules.alike_all`). An expression that is read is the same if the passed tokens are; where it
is a string, or a call whose first argument is one, the text of the string may differ and
nothing else does (`Passed.Reading.call`).
-/

set_option autoImplicit false

namespace InjectionCheck

open Passed Cursor Outcome

/-! ## What is read -/

theorem Expression.eq_string_of_textless {expression : Expression} {span : Span}
    (textless : expression.textless = ⟨.string "", span⟩) :
    ∃ content, expression = ⟨.string content, span⟩ := by
  unfold Expression.textless at textless
  split at textless
  · cases textless
    exact ⟨_, rfl⟩
  · cases textless
  · exact ⟨"", textless⟩

/-- A call starts its arguments with a string, or with no text. -/
theorem Expression.textPlaces_call (callee : Expression) (types : List TypeExpression)
    (arguments : List Expression) (span : Span) :
    (∃ content inner others, arguments = ⟨.string content, inner⟩ :: others) ∨
      Expression.textPlaces ⟨.call callee types arguments, span⟩ = [] := by
  cases arguments with
  | nil => exact .inr rfl
  | cons argument others =>
      obtain ⟨form, inner⟩ := argument
      cases form with
      | string content => exact .inl ⟨content, inner, others, rfl⟩
      | _ => exact .inr rfl

namespace Passed

variable {first second : Passed}

/-- Passed tokens do not differ at places of later ones. -/
theorem DifferAt.left {places places' : List Span}
    (differ : DifferAt (places ++ places') (first ++ second))
    (sorted : (starts (first ++ second)).Pairwise (· < ·))
    (inside : ∀ place ∈ places', ∃ pair ∈ second, pair.1.span = place) : DifferAt places first := by
  rw [starts_append, List.pairwise_append] at sorted
  intro pair isFirst
  refine (differ pair (List.mem_append_left _ isFirst)).imp_right fun isPlace => ?_
  refine (List.mem_append.1 isPlace).resolve_right fun later => ?_
  obtain ⟨other, isSecond, same⟩ := inside _ later
  have before := sorted.2.2 _ (List.mem_map_of_mem isFirst) _ (List.mem_map_of_mem isSecond)
  rw [same] at before
  exact Nat.lt_irrefl _ before

/-- Passed tokens do not differ at places of earlier ones. -/
theorem DifferAt.right {places places' : List Span}
    (differ : DifferAt (places ++ places') (first ++ second))
    (sorted : (starts (first ++ second)).Pairwise (· < ·))
    (inside : ∀ place ∈ places, ∃ pair ∈ first, pair.1.span = place) : DifferAt places' second := by
  rw [starts_append, List.pairwise_append] at sorted
  intro pair isSecond
  refine (differ pair (List.mem_append_right _ isSecond)).imp_right fun isPlace => ?_
  refine (List.mem_append.1 isPlace).resolve_left fun earlier => ?_
  obtain ⟨other, isFirst, same⟩ := inside _ earlier
  have before := sorted.2.2 _ (List.mem_map_of_mem isFirst) _ (List.mem_map_of_mem isSecond)
  rw [same] at before
  exact Nat.lt_irrefl _ before

/-- The first of some elements is read first, and the others after it. -/
theorem Parts.exists_of_cons {α : Type} {relation : Passed → α → α → Prop} {passed : Passed}
    {value : α} {values all : List α} (parts : Parts relation passed (value :: values) all) :
    ∃ gap here there value' values', passed = gap ++ (here ++ there) ∧ all = value' :: values' ∧
      relation here value value' ∧ Parts relation there values values' := by
  generalize same : value :: values = list at parts
  induction parts with
  | nil => cases same
  | skip pair _ ih =>
      obtain ⟨gap, here, there, value', values', rfl, rfl, related, others⟩ := ih same
      exact ⟨pair :: gap, here, there, value', values', rfl, rfl, related, others⟩
  | cons related others _ =>
      cases same
      exact ⟨[], _, _, _, _, rfl, rfl, related, others⟩

/-- The object literals in some elements start where tokens of theirs do. -/
theorem Parts.objects {passed : Passed} {values values' : List Expression}
    (parts : Parts Reading passed values values') :
    ((Expression.objectsIn values).map (·.span.start)).Sublist (starts passed) := by
  induction parts with
  | nil => exact .slnil
  | skip pair _ ih => exact ih.cons _
  | cons related _ ih =>
      rw [Expression.objectsIn, List.map_append, starts_append]
      exact related.objects.append ih

theorem Parts.propertyObjects {passed : Passed} {values values' : List Property}
    (parts : Parts PropertyReading passed values values') :
    ((Property.objectsIn values).map (·.span.start)).Sublist (starts passed) := by
  induction parts with
  | nil => exact .slnil
  | skip pair _ ih => exact ih.cons _
  | @cons _ _ value _ _ _ related _ ih =>
      obtain ⟨key, value, span⟩ := value
      rw [Property.objectsIn, List.map_append, starts_append]
      exact related.objects.append ih

namespace Reading

variable {expression expression' : Expression}

theorem append_right (reading : Reading first expression expression') (further : Passed) :
    Reading (first ++ further) expression expression' where
  same clear := reading.same (differAt_append.1 clear).1
  textless differ := reading.textless (differAt_append.1 differ).1
  text place isText := by
    obtain ⟨pair, inside, stands⟩ := reading.text place isText
    exact ⟨pair, List.mem_append_left _ inside, stands⟩
  objects := by
    rw [starts_append]
    exact reading.objects.trans (List.sublist_append_left _ _)

theorem append_left (reading : Reading second expression expression') (before : Passed) :
    Reading (before ++ second) expression expression' where
  same clear := reading.same (differAt_append.1 clear).2
  textless differ := reading.textless (differAt_append.1 differ).2
  text place isText := by
    obtain ⟨pair, inside, stands⟩ := reading.text place isText
    exact ⟨pair, List.mem_append_right _ inside, stands⟩
  objects := by
    rw [starts_append]
    exact reading.objects.trans (List.sublist_append_right _ _)

/-- A string is read from one token. -/
theorem string {token token' : Token} {content content' : String}
    (kind : token.kind = .string content) (kind' : token'.kind = .string content')
    (span : token.span = token'.span) {c c' d d' : Cursor}
    (walk : Walk c c' [(token, token')] d d') :
    Reading [(token, token')] (d.expressionFrom token.span (.string content))
      (d'.expressionFrom token'.span (.string content')) := by
  have whole : d.spanFrom token.span = token.span := by
    obtain ⟨last, inside, ends⟩ := walk.exists_previousSpan
    rw [List.mem_singleton.1 inside] at ends
    rw [spanFrom, ends, Span.merge, Nat.min_self, Nat.max_self]
  rw [expressionFrom, expressionFrom, ← span, ← walk.alike.spanFrom, whole]
  refine ⟨fun clear => ?_, fun _ => rfl, fun place isText => ?_, List.nil_sublist _⟩
  · have same : token = token' := (clear _ (List.mem_singleton_self _)).resolve_right (by simp)
    rw [same, kind'] at kind
    cases kind
    rfl
  · rw [List.mem_singleton.1 isText]
    exact ⟨_, List.mem_singleton_self _, rfl⟩

/-- If the tokens that differ are at the place of the string with which the arguments of a call
start, all but the text of the string is the same. -/
theorem textless_call {before middle last : Passed} {callee callee' : Expression}
    (ofCallee : Reading before callee callee') {types types' : List TypeExpression}
    (ofTypes : Same middle types types') {arguments arguments' : List Expression}
    (ofArguments : Parts Reading last arguments arguments')
    (sorted : (starts (before ++ (middle ++ last))).Pairwise (· < ·)) {span : Span}
    (differ : DifferAt (Expression.textPlaces ⟨.call callee types arguments, span⟩)
      (before ++ (middle ++ last))) :
    Expression.textless ⟨.call callee types arguments, span⟩ =
      Expression.textless ⟨.call callee' types' arguments', span⟩ := by
  rcases Expression.textPlaces_call callee types arguments span with
    ⟨content, inner, others, rfl⟩ | places
  · obtain ⟨gap, here, there, argument', others', rfl, rfl, reading, ofOthers⟩ :=
      ofArguments.exists_of_cons
    have inHere (place : Span) (isText : place ∈ [inner]) : ∃ pair ∈ here, pair.1.span = place :=
      reading.text place isText
    change DifferAt [inner] _ at differ
    have assoc : before ++ (middle ++ (gap ++ (here ++ there))) =
        (before ++ (middle ++ gap)) ++ (here ++ there) := by
      simp only [List.append_assoc]
    rw [assoc] at differ sorted
    have clearBefore : Clear (before ++ (middle ++ gap)) := by
      refine DifferAt.left differ sorted fun place isText => ?_
      obtain ⟨pair, inside, stands⟩ := inHere place isText
      exact ⟨pair, List.mem_append_left _ inside, stands⟩
    have differ := (differAt_append.1 differ).2
    rw [starts_append, List.pairwise_append] at sorted
    have clearThere : Clear there := DifferAt.right differ sorted.2.1 inHere
    obtain ⟨content', rfl⟩ :=
      Expression.eq_string_of_textless (reading.textless (differAt_append.1 differ).1).symm
    have sameOthers := ofOthers.same (fun _ _ _ reading => reading.same) clearThere
    obtain ⟨clearCallee, clearBetween⟩ := differAt_append.1 clearBefore
    rw [sameOthers, ofCallee.same clearCallee, ofTypes (differAt_append.1 clearBetween).1]
    rfl
  · rw [places, differAt_append, differAt_append] at differ
    have sameArguments := ofArguments.same (fun _ _ _ reading => reading.same) differ.2.2
    rw [sameArguments, ofCallee.same differ.1, ofTypes differ.2.1]

/-- A call is read from the tokens of its callee, its type arguments and its arguments. -/
theorem call {before middle last : Passed} {callee callee' : Expression}
    (ofCallee : Reading before callee callee') {types types' : List TypeExpression}
    (ofTypes : Same middle types types') {arguments arguments' : List Expression}
    (ofArguments : Parts Reading last arguments arguments')
    (sorted : (starts (before ++ (middle ++ last))).Pairwise (· < ·)) {span span' : Span}
    (sameSpan : span = span') :
    Reading (before ++ (middle ++ last)) ⟨.call callee types arguments, span⟩
      ⟨.call callee' types' arguments', span'⟩ := by
  subst sameSpan
  refine ⟨fun clear => ?_, textless_call ofCallee ofTypes ofArguments sorted,
    fun place isText => ?_, ?_⟩
  · obtain ⟨clearCallee, clear⟩ := differAt_append.1 clear
    obtain ⟨clearTypes, clearArguments⟩ := differAt_append.1 clear
    rw [ofCallee.same clearCallee, ofTypes clearTypes,
      ofArguments.same (fun _ _ _ reading => reading.same) clearArguments]
  · rcases Expression.textPlaces_call callee types arguments span with
      ⟨content, inner, others, rfl⟩ | places
    · obtain ⟨gap, here, there, _, _, rfl, -, reading, -⟩ := ofArguments.exists_of_cons
      obtain ⟨pair, inside, stands⟩ := reading.text inner (List.mem_singleton_self _)
      rw [List.mem_singleton.1 isText]
      exact ⟨pair, by simp [inside], stands⟩
    · rw [places] at isText
      cases isText
  · rw [Expression.objects, starts_append, starts_append]
    exact ofArguments.objects.trans
      ((List.sublist_append_right _ _).trans (List.sublist_append_right _ _))

end Reading

end Passed

/-! ## Looking at the next tokens -/

namespace Cursor

section Look

variable {c c' : Cursor} (alike : c.Alike c')

include alike

theorem seesCompoundAssignment_congr : c.seesCompoundAssignment = c'.seesCompoundAssignment := by
  have precedence := alike.kind_congr (fun kind => (kind.bind Kind.precedence?).isSome) fun _ _ => rfl
  rw [seesCompoundAssignment, seesCompoundAssignment, precedence]
  simp only [alike.peek_eq_iff 1 fun _ => (by simp : Kind.mark .eq ≠ _)]

theorem operatorPrecedence?_congr : c.operatorPrecedence? = c'.operatorPrecedence? := by
  unfold operatorPrecedence?
  rcases alike.kind_cases with same | ⟨content, content', kind, kind'⟩
  · rw [same]
  · rw [kind, kind']
    rfl

theorem seesPrefixOperator_congr :
    Rules.seesPrefixOperator c = Rules.seesPrefixOperator c' := by
  have follows := alike.peek_congr 1 (·.any fun kind : Kind => !kind.endsOperand) fun _ _ => rfl
  unfold Rules.seesPrefixOperator
  simp only [follows]
  rcases alike.kind_cases with same | ⟨content, content', kind, kind'⟩
  · rw [same]
  · rw [kind, kind']
    rfl

end Look

theorem parallel_skipHeritage {c c' : Cursor} (alike : c.Alike c') :
    Parallel Equal c.skipHeritage c'.skipHeritage := by
  unfold skipHeritage
  refine alike.next_cases (fun _ => .fail alike) (fun past past' same walk => ?_)
    fun past past' content content' kind kind' _ walk => ?_
  · dsimp only
    rw [same]
    have := past.less
    split
    · exact .ok alike rfl
    · refine .lax ((parallel_skipAngles alike).andThen fun _ _ walk' _ => ?_)
      exact parallel_skipHeritage walk'.alike
    · refine .lax ((parallel_skipGroup alike).andThen fun _ _ walk' _ => ?_)
      exact parallel_skipHeritage walk'.alike
    · exact .lax (.go walk (parallel_skipHeritage walk.alike))
  · have := past.less
    simp only [kind, kind']
    exact .lax (.go walk (parallel_skipHeritage walk.alike))
termination_by c.remaining

theorem parallel_skipClassTail {c c' : Cursor} (alike : c.Alike c') :
    Parallel Equal c.skipClassTail c'.skipClassTail := by
  unfold skipClassTail
  refine (parallel_skipHeritage alike).bind fun _ _ walk _ => ?_
  exact .map ((parallel_skipGroup walk.alike).mono fun _ _ _ _ => rfl)

end Cursor

namespace Rules

variable {limit limit' : Cursor} {rules : Rules limit} {rules' : Rules limit'}
  (run : rules.Alike rules') {c c' : Cursor} (alike : c.Alike c')

include run alike

/-! ## Functions -/

theorem parallel_skipCallableTail {inside : c.remaining ≤ limit.remaining}
    {inside' : c'.remaining ≤ limit'.remaining} :
    Parallel Equal (rules.skipCallableTail c inside) (rules'.skipCallableTail c' inside') := by
  unfold skipCallableTail
  refine (parallel_skipAnglesIfAny alike).bind fun _ _ walk₁ _ => ?_
  refine (parallel_parameters run walk₁.alike).andThen fun _ _ walk₂ _ => ?_
  refine (parallel_resultAscription run walk₂.alike).bind fun _ _ walk₃ _ => ?_
  rw [walk₃.alike.seesMark]
  refine .ite (fun _ => .lax (.map ((parallel_skipGroup walk₃.alike).mono fun _ _ _ _ => rfl)))
    fun _ => ?_
  exact (parallel_optionalSemicolon walk₃.alike).mono fun _ _ _ _ => rfl

theorem parallel_skipFunction {inside : c.remaining ≤ limit.remaining}
    {inside' : c'.remaining ≤ limit'.remaining} :
    Parallel Equal (rules.skipFunction c inside) (rules'.skipFunction c' inside') := by
  unfold skipFunction
  refine (parallel_expectKeyword alike .function_).andThen fun _ _ walk₁ _ => ?_
  refine (parallel_optionalMark walk₁.alike .star).bind fun _ _ walk₂ _ => ?_
  refine (parallel_optional walk₂.alike fun _ => rfl).bind fun _ _ walk₃ _ => .lax ?_
  exact (parallel_skipCallableTail run walk₃.alike).mono fun _ _ _ _ => rfl

theorem parallel_skipArrowHead {inside : c.remaining ≤ limit.remaining}
    {inside' : c'.remaining ≤ limit'.remaining} :
    Parallel Equal (rules.skipArrowHead c inside) (rules'.skipArrowHead c' inside') := by
  unfold skipArrowHead
  refine (parallel_skipAnglesIfAny alike).bind fun _ _ walk₁ _ => ?_
  rw [walk₁.alike.seesMark]
  refine .ite (fun _ => ?_) fun _ => ?_
  · refine (parallel_skipGroup walk₁.alike).andThen fun _ _ walk₂ _ => ?_
    exact .map ((parallel_resultAscription run walk₂.alike).mono fun _ _ _ _ => rfl)
  · exact .map ((parallel_expectName walk₁.alike).mono fun _ _ _ _ => rfl)

theorem parallel_arrowFunction (start : Span) {inside : c.remaining ≤ limit.remaining}
    {inside' : c'.remaining ≤ limit'.remaining} :
    Parallel Reading (rules.arrowFunction start c inside) (rules'.arrowFunction start c' inside') := by
  unfold arrowFunction
  refine (parallel_skipArrowHead run alike).andThen fun _ _ walk₁ _ => ?_
  refine (parallel_expectMark walk₁.alike .arrow).andThen fun _ _ walk₂ _ => ?_
  rw [walk₂.alike.seesMark]
  refine .ite (fun _ => ?_) fun _ => ?_
  · refine (parallel_skipGroup walk₂.alike).andThen fun _ _ walk₃ _ => ?_
    exact .ok walk₃.alike (.plain (by grind) rfl)
  · refine (run.assignment walk₂.alike).andThen fun _ _ walk₃ _ => ?_
    exact .ok walk₃.alike (.plain (by grind) rfl)

/-! ## Literals -/

omit run alike in
/-- Whether a property is called by a name. -/
def isNamed : PropertyKey → Bool
  | .named _ => true
  | .computed | .spread => false

/-- The value of a property after its name, which was read from some tokens. -/
theorem parallel_propertyValue (start : Span) {before : Passed} {key key' : PropertyKey}
    (sameKey : Same before key key') (named : isNamed key = isNamed key') {span span' : Span}
    (sameSpan : Same before span span') (isMethod : Bool) {inside : c.remaining < limit.remaining}
    {inside' : c'.remaining < limit'.remaining} :
    Parallel (fun passed => PropertyReading (before ++ passed))
      (rules.propertyValue start key span isMethod c inside)
      (rules'.propertyValue start key' span' isMethod c' inside') := by
  unfold propertyValue
  rw [startsSignature_congr alike]
  refine .ite (fun _ => ?_) fun _ => ?_
  · refine (parallel_skipCallableTail run alike).lax.bind fun _ _ walk _ => ?_
    exact .ok walk.alike ⟨by grind, List.nil_sublist _⟩
  · refine alike.mark_cases ?_ (fun past past' _ walk => ?_) .colon
    · cases key with
      | named name =>
          cases key' with
          | named name' =>
              refine (parallel_initial run alike).bind fun _ _ walk _ => ?_
              exact .ok walk.alike ⟨by grind, List.nil_sublist _⟩
          | computed => cases named
          | spread => cases named
      | computed =>
          cases key' with
          | named name' => cases named
          | computed => exact .fail alike
          | spread => exact .fail alike
      | spread =>
          cases key' with
          | named name' => cases named
          | computed => exact .fail alike
          | spread => exact .fail alike
    · refine .lax (.go walk ((run.assignment walk.alike).andThen fun _ _ walk' reading => ?_))
      refine .ok walk'.alike ⟨by grind, ?_⟩
      rw [List.append_nil, starts_append, starts_cons]
      exact (reading.objects.cons _).trans (List.sublist_append_right _ _)

omit run in
theorem parallel_skipMethodWord : Parallel Equal (skipMethodWord c) (skipMethodWord c') := by
  unfold skipMethodWord
  have bracket : c.peek? 1 = some (.mark .lbracket) ↔ c'.peek? 1 = some (.mark .lbracket) :=
    alike.peek_eq_iff 1 (by simp)
  simp only [alike.namesProperty, bracket]
  exact .ite (fun _ => parallel_optional alike (by simp)) fun _ => .ok alike rfl

theorem parallel_propertyKey {inside : c.remaining ≤ limit.remaining}
    {inside' : c'.remaining ≤ limit'.remaining} :
    Parallel (fun passed key key' => Same passed key key' ∧ isNamed key.1 = isNamed key'.1)
      (rules.propertyKey c inside) (rules'.propertyKey c' inside') := by
  unfold propertyKey
  refine alike.mark_cases ?_ (fun past past' token walk => ?_) .lbracket
  · refine .map ((parallel_propertyName_isSome alike).mono ?_)
    rintro passed ⟨name, span⟩ ⟨name', span'⟩ ⟨same, isSome⟩
    refine ⟨by grind, ?_⟩
    cases name <;> cases name' <;> first | rfl | cases isSome
  · dsimp only
    rw [token]
    refine .go walk ((run.assignment walk.alike).andThen fun _ _ walk₁ _ => ?_)
    refine (parallel_expectMark walk₁.alike .rbracket).andThen fun _ _ walk₂ _ => ?_
    exact .ok walk₂.alike ⟨by grind, rfl⟩

theorem parallel_property {inside : c.remaining < limit.remaining}
    {inside' : c'.remaining < limit'.remaining} :
    Parallel PropertyReading (rules.property c inside) (rules'.property c' inside') := by
  unfold property
  refine alike.mark_cases ?_ (fun past past' token walk => ?_) .ellipsis
  · refine (parallel_skipMethodWord alike).bind fun {_ isAccessor _ _ _} _ _ walk₁ same => ?_
    cases same
    refine (parallel_optionalMark walk₁.alike .star).bind fun {_ isGenerator _ _ _} _ _ walk₂ same => ?_
    cases same
    refine (parallel_propertyKey run walk₂.alike).andThen
      fun {passed key key' _ _} _ _ walk₃ related => ?_
    have sameKey : Same passed key.1 key'.1 := fun clear => congrArg Prod.fst (related.1 clear)
    have sameSpan : Same passed key.2 key'.2 := fun clear => congrArg Prod.snd (related.1 clear)
    rw [alike.span]
    refine (parallel_propertyValue run walk₃.alike c'.span sameKey related.2 sameSpan _).mono ?_
    rintro further property property' ⟨same, objects⟩
    refine ⟨by grind, objects.trans ?_⟩
    simp
  · dsimp only
    rw [token]
    refine .go walk ((run.assignment walk.alike).andThen fun _ _ walk' reading => ?_)
    refine .ok walk'.alike ⟨by grind, ?_⟩
    rw [List.append_nil]
    exact reading.objects.cons _

theorem parallel_object {inside : c.remaining ≤ limit.remaining}
    {inside' : c'.remaining ≤ limit'.remaining} :
    Parallel Reading (rules.object c inside) (rules'.object c' inside') := by
  unfold object
  refine (parallel_expect alike fun _ => rfl).andThen fun {_ opened _ _ _} _ _ walk₁ related => ?_
  obtain ⟨rfl, rfl⟩ := related
  refine (parallel_elements (fun alike _ _ => parallel_property run alike) walk₁.alike).andThen
    fun {passed properties properties' e e'} _ _ walk₂ parts => ?_
  have same := parts.same fun _ _ _ reading => reading.same
  have start := (walk₁.trans walk₂).start_spanFrom alike
  rw [walk₁.span_eq] at start
  have whole : Same ([(opened, opened)] ++ (passed ++ []))
      (e.expressionFrom opened.span (.object properties))
      (e'.expressionFrom opened.span (.object properties')) := by grind
  refine .ok walk₂.alike ⟨whole, fun clear => by rw [whole clear],
    by simp [expressionFrom, Expression.textPlaces], ?_⟩
  rw [expressionFrom, Expression.objects, List.map_cons, start, List.append_nil,
    List.singleton_append, starts_cons]
  exact parts.propertyObjects.cons_cons _

omit alike in
theorem parallel_arrayElements {opening opening' : Opening} {before : Passed}
    {earlier earlier' : List Expression}
    (parts : Parts Reading before earlier.reverse earlier'.reverse) {c c' : Cursor}
    (alike : c.Alike c') {inside : c.remaining < limit.remaining}
    {inside' : c'.remaining < limit'.remaining} :
    Parallel (fun passed => Parts Reading (before ++ passed))
      (rules.arrayElements opening earlier c inside)
      (rules'.arrayElements opening' earlier' c' inside') := by
  unfold arrayElements
  refine alike.mark_cases ?_ (fun past past' _ walk => .go walk (.ok walk.alike (parts.extend _)))
    .rbracket
  dsimp only
  rw [alike.atEnd]
  refine .ite (fun _ => .fail alike) fun _ => ?_
  refine alike.mark_cases ?_ (fun past past' _ walk => ?_) .comma
  · refine (parallel_spreadable run alike).andThen fun {passed _ _ _ _} _ _ walk₁ reading => ?_
    have further := parts.snoc reading
    rw [← List.reverse_cons, ← List.reverse_cons] at further
    refine walk₁.alike.mark_cases ?_ (fun past past' _ walk₂ => ?_) .rbracket
    · refine .lax ((parallel_expectMark walk₁.alike .comma).andThen
        fun {comma _ _ _ _} _ _ walk₂ _ => ?_)
      refine (parallel_arrayElements (further.extend comma) walk₂.alike).mono ?_
      intro _ _ _ parts
      simpa only [List.append_assoc] using parts
    · refine .lax (.go walk₂ (.ok walk₂.alike ?_))
      rw [← List.append_assoc]
      exact further.extend _
  · have := past.less
    refine .go walk ((parallel_arrayElements (parts.extend [(past.token, past.token)])
      walk.alike).mono ?_)
    intro _ _ _ parts
    rwa [List.append_assoc, List.singleton_append] at parts
termination_by c.remaining

theorem parallel_array {inside : c.remaining ≤ limit.remaining}
    {inside' : c'.remaining ≤ limit'.remaining} :
    Parallel Reading (rules.array c inside) (rules'.array c' inside') := by
  unfold array
  refine (parallel_expectMark alike .lbracket).andThen fun {first opened _ _ _} _ _ walk₁ same => ?_
  cases same
  have none : Parts Reading [] ([] : List Expression).reverse ([] : List Expression).reverse := .nil
  refine (parallel_arrayElements run none walk₁.alike).andThen
    fun {passed members members' e e'} _ _ walk₂ parts => ?_
  have same : Same (first ++ (passed ++ [])) (e.expressionFrom opened.span (.array members))
      (e'.expressionFrom opened.span (.array members')) := by
    have members := parts.same fun _ _ _ reading => reading.same
    grind
  refine .ok walk₂.alike ⟨same, fun clear => by rw [same clear],
    by simp [expressionFrom, Expression.textPlaces], ?_⟩
  rw [expressionFrom, Expression.objects, List.append_nil, starts_append]
  exact parts.objects.trans (List.sublist_append_right _ _)

/-! ## Operands -/

theorem parallel_asyncOrName (start : Span) {inside : c.remaining ≤ limit.remaining}
    {inside' : c'.remaining ≤ limit'.remaining} :
    Parallel Reading (rules.asyncOrName start c inside) (rules'.asyncOrName start c' inside') := by
  unfold asyncOrName
  have word : c.kind? = some (.keyword .function_) ↔ c'.kind? = some (.keyword .function_) :=
    alike.kind_eq_iff (by simp)
  simp only [word]
  refine .ite (fun _ => ?_) fun _ => .ok alike (.plain (by grind) rfl)
  refine (parallel_skipFunction run alike).lax.bind fun _ _ walk _ => ?_
  exact .ok walk.alike (.plain (by grind) rfl)

theorem parallel_classExpression {inside : c.remaining ≤ limit.remaining}
    {inside' : c'.remaining ≤ limit'.remaining} :
    Parallel Reading (rules.classExpression c inside) (rules'.classExpression c' inside') := by
  unfold classExpression
  refine (parallel_decorators_after run (.refl [] []) alike).bind fun _ _ walk₁ _ => ?_
  refine (parallel_expectKeyword walk₁.alike .class_).andThen fun _ _ walk₂ _ => ?_
  refine (parallel_skipClassTail walk₂.alike).andThen fun _ _ walk₃ _ => ?_
  exact .ok walk₃.alike (.plain (by grind) rfl)

theorem parallel_primary {inside : c.remaining ≤ limit.remaining}
    {inside' : c'.remaining ≤ limit'.remaining} :
    Parallel Reading (rules.primary c inside) (rules'.primary c' inside') := by
  unfold primary
  refine alike.next_cases (fun _ => .fail alike) (fun past past' same walk => ?_)
    fun past past' content content' kind kind' span walk => ?_
  · dsimp only
    rw [same]
    split
    · exact .go walk ((parallel_asyncOrName run walk.alike _).mono fun _ _ _ reading =>
        reading.append_left [_])
    · exact .go walk (.ok walk.alike (.plain (by grind) rfl))
    · next content kind => exact .go walk (.ok walk.alike (.string kind kind rfl walk))
    · exact .go walk (.ok walk.alike (.plain (by grind) rfl))
    · exact .go walk (.ok walk.alike (.plain (by grind) rfl))
    · exact .go walk (.ok walk.alike (.plain (by grind) rfl))
    · exact .go walk (.ok walk.alike (.plain (by grind) rfl))
    · exact .go walk (.ok walk.alike (.plain (by grind) rfl))
    · exact .go walk (.ok walk.alike (.plain (by grind) rfl))
    · exact .go walk (.ok walk.alike (.plain (by grind) rfl))
    · refine .go walk ((run.expression walk.alike).andThen fun _ _ walk' reading => ?_)
      refine .map (.mapError ((parallel_expectMark walk'.alike .rparen).mono fun _ _ _ _ => ?_))
      exact (reading.append_right _).append_left [_]
    · exact parallel_object run alike
    · exact parallel_array run alike
    · refine (parallel_skipFunction run alike).andThen fun _ _ walk' _ => ?_
      exact .ok walk'.alike (.plain (by grind) rfl)
    · exact parallel_classExpression run alike
    · exact parallel_classExpression run alike
    · exact .fail alike
  · simp only [kind, kind']
    exact .go walk (.ok walk.alike (.string kind kind' span walk))

theorem parallel_indexElement {inside : c.remaining < limit.remaining}
    {inside' : c'.remaining < limit'.remaining} :
    Parallel Same (rules.indexElement c inside) (rules'.indexElement c' inside') := by
  unfold indexElement
  refine (run.expression alike).andThen fun _ _ walk index => ?_
  exact .map ((parallel_expectMark walk.alike .rbracket).mono (by grind))

omit alike in
theorem parallel_constructedClass (start : Span) {before : Passed} {callee callee' : Expression}
    (reading : Reading before callee callee') {c c' : Cursor} (alike : c.Alike c')
    {inside : c.remaining < limit.remaining} {inside' : c'.remaining < limit'.remaining} :
    Parallel (fun passed => Reading (before ++ passed))
      (rules.constructedClass start callee c inside)
      (rules'.constructedClass start callee' c' inside') := by
  have same := reading.same
  unfold constructedClass
  refine alike.mark_cases ?_ (fun past past' _ walk => ?_) .dot
  · dsimp only
    refine alike.mark_cases (.ok alike (by rwa [List.append_nil])) (fun past past' _ walk => ?_)
      .lbracket
    have := past.less
    refine .lax (.go walk ((parallel_indexElement run walk.alike).andThen
      fun {passed index index' d d'} _ _ walk' sameIndex => ?_))
    have further : Reading (before ++ (past.token, past.token) :: passed)
      (d.expressionFrom start (.index callee index))
      (d'.expressionFrom start (.index callee' index')) := .plain (by grind) rfl
    refine (parallel_constructedClass start further walk'.alike).mono fun _ _ _ reading => ?_
    rwa [List.append_assoc, List.cons_append] at reading
  · have := past.less
    refine .lax (.go walk ((parallel_propertyName walk.alike).andThen
      fun {passed property property' d d'} _ _ walk' sameName => ?_))
    have further : Reading (before ++ (past.token, past.token) :: passed)
      (d.expressionFrom start (.member callee (property.name.getD "")))
      (d'.expressionFrom start (.member callee' (property'.name.getD ""))) := .plain (by grind) rfl
    refine (parallel_constructedClass start further walk'.alike).mono fun _ _ _ reading => ?_
    rwa [List.append_assoc, List.cons_append] at reading
termination_by c.remaining

theorem parallel_constructionAfter (start : Span) {inside : c.remaining < limit.remaining}
    {inside' : c'.remaining < limit'.remaining} :
    Parallel Reading (rules.constructionAfter start c inside)
      (rules'.constructionAfter start c' inside') := by
  unfold constructionAfter
  have word : c.kind? = some (.keyword .new_) ↔ c'.kind? = some (.keyword .new_) :=
    alike.kind_eq_iff (by simp)
  simp only [word, alike.span]
  refine (Parallel.ite (fun _ => run.construction alike) fun _ =>
    parallel_primary run alike).andThen fun _ _ walk₁ reading => ?_
  refine (parallel_constructedClass run _ reading walk₁.alike).bind fun _ _ walk₂ callee => ?_
  refine (parallel_skipAnglesIfAny walk₂.alike).bind fun _ _ walk₃ _ => ?_
  refine (parallel_optionalArguments run walk₃.alike).bind fun _ _ walk₄ arguments => ?_
  have callee := callee.same
  have arguments := arguments.same fun _ _ _ reading => reading.same
  exact .ok walk₄.alike (.plain (by grind) rfl)

theorem parallel_newExpression {inside : c.remaining ≤ limit.remaining}
    {inside' : c'.remaining ≤ limit'.remaining} :
    Parallel Reading (rules.newExpression c inside) (rules'.newExpression c' inside') := by
  unfold newExpression
  refine (parallel_expectKeyword alike .new_).andThen fun {_ word _ _ _} _ _ walk₁ same => ?_
  cases same
  refine walk₁.alike.mark_cases ?_ (fun past past' _ walk₂ => ?_) .dot
  · exact .lax ((parallel_constructionAfter run walk₁.alike word.span).mono fun _ _ _ reading =>
      reading.append_left _)
  · refine .lax (.go walk₂ ((parallel_propertyName walk₂.alike).andThen fun _ _ walk₃ _ => ?_))
    exact .ok walk₃.alike (.plain (by grind) rfl)

omit alike in
/-- The signs behind an operand that was read from some tokens. -/
theorem parallel_suffixes (start : Span) {before : Passed} {operand operand' : Expression}
    (reading : Reading before operand operand') {first first' : Cursor}
    (alike : first.Alike first') {c c' : Cursor} (walk : Walk first first' before c c')
    {inside : c.remaining < limit.remaining} {inside' : c'.remaining < limit'.remaining} :
    Parallel (fun passed => Reading (before ++ passed)) (rules.suffixes start operand c inside)
      (rules'.suffixes start operand' c' inside') := by
  have same := reading.same
  have done : Parallel (fun passed => Reading (before ++ passed)) (.ok operand : Outcome false c _)
      (.ok operand' : Outcome false c' _) := .ok walk.alike (by rwa [List.append_nil])
  have again {passed : Passed} {read read' : Expression} {d d' : Cursor}
      (less : d.remaining < c.remaining) (further : Walk c c' passed d d')
      (reading : Reading (before ++ passed) read read') {inside inside'} :
      Parallel (fun rest => Reading (before ++ (passed ++ rest)))
        (rules.suffixes start read d inside) (rules'.suffixes start read' d' inside') := by
    refine (parallel_suffixes start reading alike (walk.trans further)).mono fun _ _ _ reading => ?_
    rwa [List.append_assoc] at reading
  have call {middle last : Passed} {d d' : Cursor} {types types' : List TypeExpression}
      {arguments arguments' : List Expression} (further : Walk c c' (middle ++ last) d d')
      (ofTypes : Same middle types types') (parts : Parts Reading last arguments arguments') :
      Reading (before ++ (middle ++ last)) (d.expressionFrom start (.call operand types arguments))
        (d'.expressionFrom start (.call operand' types' arguments')) :=
    .call reading ofTypes parts ((walk.trans further).sorted alike) (further.alike.spanFrom start)
  unfold suffixes
  refine walk.alike.next_cases (fun _ => done) (fun past past' same walk₁ => ?_)
    fun past past' content content' kind kind' _ _ => ?_
  · dsimp only
    rw [same]
    have := past.less
    split
    · refine .lax (.go walk₁ ((parallel_propertyName walk₁.alike).andThen
        fun _ _ walk₂ name => ?_))
      exact again (by omega) (walk₁.trans walk₂) (.plain (by grind) rfl)
    · rw [walk₁.alike.seesMark]
      refine .ite (fun _ => ?_) fun _ => ?_
      · refine .lax (.go walk₁ ((parallel_arguments run walk₁.alike).andThen
          fun _ _ walk₂ parts => ?_))
        exact again (by omega) (walk₁.trans walk₂) (call (walk₁.trans walk₂) (.refl _ []) parts)
      · refine walk₁.alike.mark_cases ?_ (fun opened opened' _ walk₂ => ?_) .lbracket
        · refine .lax (.go walk₁ ((parallel_propertyName walk₁.alike).andThen
            fun _ _ walk₂ name => ?_))
          exact again (by omega) (walk₁.trans walk₂) (.plain (by grind) rfl)
        · have := opened.less
          refine .lax (.go walk₁ (.go walk₂ ((parallel_indexElement run walk₂.alike).andThen
            fun _ _ walk₃ index => ?_)))
          exact again (by omega) (walk₁.trans (walk₂.trans walk₃)) (.plain (by grind) rfl)
    · refine .lax (.go walk₁ ((parallel_indexElement run walk₁.alike).andThen
        fun _ _ walk₂ index => ?_))
      exact again (by omega) (walk₁.trans walk₂) (.plain (by grind) rfl)
    · refine .lax ((parallel_arguments run walk.alike).andThen fun _ _ walk₂ parts => ?_)
      exact again (by omega) walk₂ (@call [] _ _ _ [] [] _ _ walk₂ (.refl _ []) parts)
    · refine .tried (parallel_typeArguments run walk.alike)
        (fun _ _ atMost _ walk₂ types => ?_) done
      rw [walk₂.alike.seesMark]
      refine .ite (fun _ => .lax (.following walk₂ ?_)) fun _ => done
      refine (parallel_arguments run walk₂.alike).andThen fun _ _ walk₃ parts => ?_
      have walk₄ := walk₂.trans walk₃
      refine (again (by omega) walk₄ (call walk₄ types parts)).mono fun _ _ _ reading => ?_
      rwa [List.append_assoc] at reading
    · exact .lax (.go walk₁ (again past.less walk₁ (reading.append_right _)))
    · exact .lax (.go walk₁ (again past.less walk₁ (.plain (by grind) rfl)))
    · exact done
  · simp only [kind, kind']
    exact done
termination_by c.remaining

theorem parallel_suffixed {inside : c.remaining ≤ limit.remaining}
    {inside' : c'.remaining ≤ limit'.remaining} :
    Parallel Reading (rules.suffixed c inside) (rules'.suffixed c' inside') := by
  unfold suffixed
  have word : c.kind? = some (.keyword .new_) ↔ c'.kind? = some (.keyword .new_) :=
    alike.kind_eq_iff (by simp)
  simp only [word, alike.span]
  refine (Parallel.ite (fun _ => parallel_newExpression run alike) fun _ =>
    parallel_primary run alike).andThen fun _ _ walk reading => ?_
  exact parallel_suffixes run _ reading alike walk

/-! ## Operators -/

theorem parallel_operand {inside : c.remaining ≤ limit.remaining}
    {inside' : c'.remaining ≤ limit'.remaining} :
    Parallel Reading (rules.operand c inside) (rules'.operand c' inside') := by
  have suffixed {inside inside'} :
      Parallel Reading (rules.suffixed c inside) (rules'.suffixed c' inside') :=
    parallel_suffixed run alike
  unfold operand
  rw [seesPrefixOperator_congr alike]
  refine alike.next_cases (fun _ => suffixed) (fun past past' same walk => ?_)
    fun past past' content content' kind kind' span walk => ?_
  · dsimp only
    rw [same]
    refine .ite (fun _ => ?_) fun _ => .ite (fun _ => ?_) fun _ => suffixed
    · refine .go walk ((run.unary walk.alike).andThen fun _ _ walk' reading => ?_)
      exact .ok walk'.alike (.plain (by grind) rfl)
    · refine (parallel_skipAngles alike).andThen fun _ _ walk' _ => ?_
      exact .lax ((run.unary walk'.alike).mono fun _ _ _ reading => reading.append_left _)
  · simp only [kind, kind', reduceCtorEq, if_false, span]
    refine .ite (fun _ => ?_) fun _ => suffixed
    refine .go walk ((run.unary walk.alike).andThen fun _ _ walk' reading => ?_)
    exact .ok walk'.alike (.plain (by grind) rfl)

theorem parallel_skipAssertedType {inside : c.remaining < limit.remaining}
    {inside' : c'.remaining < limit'.remaining} :
    Parallel Equal (rules.skipAssertedType c inside) (rules'.skipAssertedType c' inside') := by
  unfold skipAssertedType
  refine alike.keyword_cases ?_ (fun past past' _ walk => .go walk (.ok walk.alike rfl)) .const_
  exact .map ((run.type alike).mono fun _ _ _ _ => rfl)

omit alike in
/-- The operators behind an operand that was read from some tokens. -/
theorem parallel_operators (least : Nat) (start : Span) {before : Passed}
    {left left' : Expression} (reading : Reading before left left') {c c' : Cursor}
    (alike : c.Alike c') {inside : c.remaining < limit.remaining}
    {inside' : c'.remaining < limit'.remaining} :
    Parallel (fun passed => Reading (before ++ passed)) (rules.operators least start left c inside)
      (rules'.operators least start left' c' inside') := by
  have same := reading.same
  have done : Parallel (fun passed => Reading (before ++ passed)) (.ok left : Outcome false c _)
      (.ok left' : Outcome false c' _) := .ok alike (by rwa [List.append_nil])
  have again {passed : Passed} {read read' : Expression} {d d' : Cursor}
      (less : d.remaining < c.remaining) (alike : d.Alike d')
      (reading : Reading (before ++ passed) read read') {inside inside'} :
      Parallel (fun rest => Reading (before ++ (passed ++ rest)))
        (rules.operators least start read d inside)
        (rules'.operators least start read' d' inside') := by
    refine (parallel_operators least start reading alike).mono fun _ _ _ reading => ?_
    rwa [List.append_assoc] at reading
  unfold operators
  rw [operatorPrecedence?_congr alike, seesCompoundAssignment_congr alike]
  refine alike.next_cases (fun _ => done) (fun past past' token walk₁ => ?_)
    fun past past' content content' kind kind' _ walk₁ => ?_
  · dsimp only
    rw [token]
    have := past.less
    refine .ite (fun _ => ?_) fun _ => ?_
    · refine .lax (.go walk₁ ((parallel_skipAssertedType run walk₁.alike).andThen
        fun {passed _ _ _ _} _ _ walk₂ _ => ?_))
      exact again (by omega) walk₂.alike (reading.append_right ([_] ++ passed))
    · cases c'.operatorPrecedence? with
      | none => exact done
      | some precedence =>
          refine .ite (fun _ => done) fun _ => .lax (.go walk₁ ?_)
          refine (Parallel.ite (fun _ => parallel_optionalMark walk₁.alike .star)
            fun _ => .ok walk₁.alike rfl).bind fun {second _ _ _ _} _ _ walk₂ _ => .lax ?_
          refine (run.binary walk₂.alike _).andThen
            fun {third right right' e e'} _ _ walk₃ sameRight => ?_
          have further : Reading (before ++ (past.token, past.token) :: (second ++ third))
            (e.expressionFrom start (.binary left right))
            (e'.expressionFrom start (.binary left' right')) := .plain (by grind) rfl
          refine (again (by omega) walk₃.alike further).mono fun _ _ _ reading => ?_
          rwa [List.cons_append, List.append_assoc] at reading
  · have next : c'.kind? = some (.string content') := by
      rw [Cursor.kind?, walk₁.ahead', ← kind']
      rfl
    have precedence : c'.operatorPrecedence? = none := by
      rw [operatorPrecedence?, next]
      rfl
    simp only [kind, kind', precedence, reduceCtorEq, or_self, if_false]
    exact done
termination_by c.remaining

theorem parallel_binaryFrom (least : Nat) {inside : c.remaining ≤ limit.remaining}
    {inside' : c'.remaining ≤ limit'.remaining} :
    Parallel Reading (rules.binaryFrom least c inside) (rules'.binaryFrom least c' inside') := by
  unfold binaryFrom
  rw [alike.span]
  refine (parallel_operand run alike).andThen fun _ _ walk reading => ?_
  exact parallel_operators run least _ reading walk.alike

theorem parallel_conditional {inside : c.remaining ≤ limit.remaining}
    {inside' : c'.remaining ≤ limit'.remaining} :
    Parallel Reading (rules.conditional c inside) (rules'.conditional c' inside') := by
  unfold conditional
  refine (parallel_binaryFrom run alike 1).andThen fun _ _ walk₁ test => ?_
  refine walk₁.alike.mark_cases (.ok walk₁.alike (by rwa [List.append_nil]))
    (fun past past' _ walk₂ => ?_) .question
  refine .lax (.go walk₂ ((run.assignment walk₂.alike).andThen fun _ _ walk₃ consequent => ?_))
  refine (parallel_expectMark walk₃.alike .colon).andThen fun _ _ walk₄ _ => ?_
  refine (run.assignment walk₄.alike).andThen fun _ _ walk₅ alternative => ?_
  exact .ok walk₅.alike (.plain (by grind) rfl)

/-- The value that is assigned to a target that was read from some tokens. -/
theorem parallel_assignedValue (start : Span) {before : Passed} {target target' : Expression}
    (reading : Reading before target target') {inside : c.remaining < limit.remaining}
    {inside' : c'.remaining < limit'.remaining} :
    Parallel (fun passed => Reading (before ++ passed)) (rules.assignedValue start target c inside)
      (rules'.assignedValue start target' c' inside') := by
  have same := reading.same
  unfold assignedValue
  rw [seesCompoundAssignment_congr alike]
  refine (parallel_optional_const alike c'.seesCompoundAssignment).bind fun _ _ walk₁ _ => ?_
  refine walk₁.alike.mark_cases (.ok walk₁.alike ?_) (fun past past' _ walk₂ => ?_) .eq
  · rw [List.append_nil]
    exact reading.append_right _
  · refine .lax (.go walk₂ ((run.assignment walk₂.alike).andThen fun _ _ walk₃ value => ?_))
    exact .ok walk₃.alike (.plain (by grind) rfl)

theorem parallel_assignmentFrom {inside : c.remaining ≤ limit.remaining}
    {inside' : c'.remaining ≤ limit'.remaining} :
    Parallel Reading (rules.assignmentFrom c inside) (rules'.assignmentFrom c' inside') := by
  have arrow {inside inside'} : Parallel Reading (rules.arrowFunction c.span c inside)
      (rules'.arrowFunction c'.span c' inside') := by
    rw [alike.span]
    exact parallel_arrowFunction run alike _
  have assigned {inside inside'} {inside₁ : ∀ d : Cursor, d.remaining < c.remaining → _}
      {inside₁' : ∀ d : Cursor, d.remaining < c'.remaining → _} :
      Parallel Reading
        ((rules.conditional c inside).andThen fun target d less =>
          rules.assignedValue c.span target d (inside₁ d less))
        ((rules'.conditional c' inside').andThen fun target d less =>
          rules'.assignedValue c'.span target d (inside₁' d less)) := by
    rw [alike.span]
    refine (parallel_conditional run alike).andThen fun _ _ walk target => ?_
    exact parallel_assignedValue run walk.alike _ target
  unfold assignmentFrom
  rw [Lookahead.startsArrow_congr alike.ahead]
  refine alike.name_cases (.ite (fun _ => arrow) fun _ => assigned)
    (fun past past' _ walk => ?_) "async"
  dsimp only
  rw [Lookahead.startsArrow_congr walk.alike.ahead]
  refine .ite (fun _ => ?_) fun _ => .ite (fun _ => arrow) fun _ => assigned
  rw [alike.span]
  exact .go walk ((parallel_arrowFunction run walk.alike _).mono fun _ _ _ reading =>
    reading.append_left [_])

omit alike in
/-- The parts of an expression after a first one that was read from some tokens. -/
theorem parallel_sequence (start : Span) {before : Passed} {left left' : Expression}
    (reading : Reading before left left') {c c' : Cursor} (alike : c.Alike c')
    {inside : c.remaining < limit.remaining} {inside' : c'.remaining < limit'.remaining} :
    Parallel (fun passed => Reading (before ++ passed)) (rules.sequence start left c inside)
      (rules'.sequence start left' c' inside') := by
  have same := reading.same
  unfold sequence
  refine alike.mark_cases (.ok alike (by rwa [List.append_nil])) (fun past past' _ walk => ?_) .comma
  have := past.less
  refine .lax (.go walk ((run.assignment walk.alike).andThen
    fun {passed right right' d d'} _ _ walk' sameRight => ?_))
  have further : Reading (before ++ (past.token, past.token) :: passed)
    (d.expressionFrom start (.binary left right))
    (d'.expressionFrom start (.binary left' right')) := .plain (by grind) rfl
  refine (parallel_sequence start further walk'.alike).mono fun _ _ _ reading => ?_
  rwa [List.append_assoc, List.cons_append] at reading
termination_by c.remaining

theorem parallel_expressionWhole {inside : c.remaining ≤ limit.remaining}
    {inside' : c'.remaining ≤ limit'.remaining} :
    Parallel Reading (rules.expressionWhole c inside) (rules'.expressionWhole c' inside') := by
  unfold expressionWhole
  rw [alike.span]
  refine (parallel_assignmentFrom run alike).andThen fun _ _ walk reading => ?_
  exact parallel_sequence run _ reading walk.alike

end Rules

/-! ## The knot -/

/-- **The recursive rules run in parallel.** -/
theorem Rules.alike_all (limit limit' : Cursor) : (Rules.all limit).Alike (Rules.all limit') := by
  have inner {c : Cursor} (inside : c.remaining < limit.remaining) (c' : Cursor) :
      (Rules.all c).Alike (Rules.all c') := alike_all c c'
  rw [Rules.all, Rules.all]
  exact
    { assignment := fun {_ _} alike {inside _} => parallel_assignmentFrom (inner inside _) alike
      expression := fun {_ _} alike {inside _} => parallel_expressionWhole (inner inside _) alike
      binary := fun {_ _} alike {inside _} least => parallel_binaryFrom (inner inside _) alike least
      unary := fun {_ _} alike {inside _} => parallel_operand (inner inside _) alike
      construction := fun {_ _} alike {inside _} => @parallel_newExpression _ _ _ _
        (inner inside _) _ _ alike (Nat.le_refl _) (Nat.le_refl _)
      type := fun {_ _} alike {inside _} => parallel_fullType (inner inside _) alike
      typeOperand := fun {_ _} alike {inside _} => parallel_operandType (inner inside _) alike }
termination_by limit.remaining

end InjectionCheck
