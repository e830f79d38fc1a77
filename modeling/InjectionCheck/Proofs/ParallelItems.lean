import InjectionCheck.Proofs.DescribedItems

/-!
# Items read in parallel

The statements of two files run in parallel if the tokens that differ among those that a
statement passes are descriptions of symbols that it binds (`Section.Parallel`). Whatever was
passed before, each statement gives items that agree up to these descriptions
(`Past.parallel_item`).
-/

set_option autoImplicit false

namespace InjectionCheck

open Passed Cursor Outcome

namespace Cursor

/-! ## Imports -/

section Imports

variable {c c' : Cursor} (alike : c.Alike c')

include alike

theorem parallel_moduleSource : Parallel Same c.moduleSource c'.moduleSource := by
  unfold moduleSource
  refine alike.name_cases (.fail alike) (fun past past' _ walk => ?_) "from"
  dsimp only
  refine walk.alike.next_cases (fun _ => .go walk (.fail walk.alike))
    (fun source source' same walk' => ?_) fun source source' content content' kind kind' span walk' => ?_
  · dsimp only
    rw [same]
    split
    · exact .go walk (.go walk' (.ok walk'.alike (.refl _ _)))
    · exact .go walk (.fail walk.alike)
  · simp only [kind, kind']
    refine .go walk (.go walk' (.ok walk'.alike fun clear => ?_))
    simp_all

theorem parallel_skipImportAttributes :
    Parallel Equal c.skipImportAttributes c'.skipImportAttributes := by
  unfold skipImportAttributes
  refine alike.next_cases (fun _ => .ok alike rfl) (fun past past' same walk => ?_)
    fun past past' content content' kind kind' _ walk => ?_
  · dsimp only
    rw [same, walk.alike.seesMark]
    split
    · refine .ite (fun _ => .lax (.go walk (.map ?_))) fun _ => .ok alike rfl
      exact (parallel_skipGroup walk.alike).mono fun _ _ _ _ => rfl
    · exact .ok alike rfl
  · simp only [kind, kind']
    exact .ok alike rfl

theorem parallel_skipImportEnd : Parallel Equal c.skipImportEnd c'.skipImportEnd :=
  (parallel_skipImportAttributes alike).bind fun _ _ walk _ => parallel_optionalSemicolon walk.alike

theorem parallel_importSource {before : Passed} {specifiers specifiers' : List ImportSpecifier}
    (same : Same before specifiers specifiers') :
    Parallel (fun passed => Same (before ++ passed)) (c.importSource specifiers)
      (c'.importSource specifiers') := by
  unfold importSource
  refine (parallel_moduleSource alike).andThen fun _ _ walk₁ source => ?_
  refine (parallel_skipImportEnd walk₁.alike).bind fun _ _ walk₂ _ => ?_
  exact .ok walk₂.alike (by grind)

theorem parallel_localName {before : Passed} {otherwise otherwise' : String}
    (same : Same before otherwise otherwise') :
    Parallel (fun passed => Same (before ++ passed)) (c.localName otherwise)
      (c'.localName otherwise') := by
  unfold localName
  refine alike.name_cases (.ok alike (by grind)) (fun past past' _ walk => ?_) "as"
  refine .lax (.map (.go walk ((parallel_expectName walk.alike).mono ?_)))
  grind

theorem parallel_importSpecifier : Parallel Same c.importSpecifier c'.importSpecifier := by
  unfold importSpecifier
  refine (parallel_optionalModifier alike "type").bind fun _ _ walk₁ _ => ?_
  refine (parallel_properName walk₁.alike).andThen fun _ _ walk₂ imported => ?_
  have importedName : Same _ _ _ := fun clear => congrArg NameUse.name (imported clear)
  refine (parallel_localName walk₂.alike importedName).bind fun _ _ walk₃ localName => ?_
  exact .ok walk₃.alike (by grind)

theorem parallel_bracedNames {α : Type} {specifier : (c : Cursor) → Outcome true c α}
    (each : ∀ {c c' : Cursor}, c.Alike c' → Parallel Same (specifier c) (specifier c')) :
    Parallel Same (c.bracedNames specifier) (c'.bracedNames specifier) := by
  unfold bracedNames
  refine (parallel_expectMark alike .lbrace).andThen fun _ _ walk _ => ?_
  refine (Rules.parallel_elements (fun alike _ _ => each alike) walk.alike).mono fun _ _ _ parts => ?_
  have same := parts.same fun _ _ _ same => same
  grind

theorem parallel_importedNames : Parallel Same c.importedNames c'.importedNames := by
  unfold importedNames
  refine alike.mark_cases ?_ (fun past past' _ walk => ?_) .star
  · dsimp only
    rw [alike.seesMark]
    exact .ite (fun _ => parallel_bracedNames alike parallel_importSpecifier) fun _ => .fail alike
  · dsimp only
    refine walk.alike.name_cases (.go walk (.fail walk.alike)) (fun word word' _ walk' => ?_) "as"
    refine .go walk (.go walk' (.map ((parallel_expectName walk'.alike).mono ?_)))
    grind

theorem parallel_skipImportType : Parallel Equal c.skipImportType c'.skipImportType := by
  unfold skipImportType
  have comma : c.peek? 1 = some (.mark .comma) ↔ c'.peek? 1 = some (.mark .comma) :=
    alike.peek_eq_iff 1 (by simp)
  have word : c.peek? 1 = some (.name "from") ↔ c'.peek? 1 = some (.name "from") :=
    alike.peek_eq_iff 1 (by simp)
  simp only [comma, word]
  refine .ite (fun _ => .ok alike rfl) fun _ => .map ?_
  exact (parallel_optional alike (by simp)).mono fun _ _ _ _ => rfl

theorem parallel_importClause : Parallel Same c.importClause c'.importClause := by
  unfold importClause
  refine (parallel_skipImportType alike).bind fun {_ _ _ d d'} _ _ walk₁ _ => ?_
  have names : Parallel Same
      (d.importedNames.andThen fun names e _ => (e.importSource names).lax)
      (d'.importedNames.andThen fun names e _ => (e.importSource names).lax) :=
    (parallel_importedNames walk₁.alike).andThen fun _ _ walk₂ same => .lax
      (parallel_importSource walk₂.alike same)
  refine walk₁.alike.next_cases (fun _ => .fail walk₁.alike) (fun past past' same walk₂ => ?_)
    fun past past' content content' kind kind' _ walk₂ => ?_
  · dsimp only
    rw [same]
    split
    · next text _ =>
      refine walk₂.alike.mark_cases ?_ (fun comma comma' _ walk₃ => ?_) .comma
      · refine .go walk₂ ((parallel_importSource walk₂.alike (.refl [] _)).mono ?_)
        grind
      · refine .go walk₂ (.go walk₃ ((parallel_importedNames walk₃.alike).andThen
          fun {passed names names' _ _} _ _ walk₄ same => .lax ?_))
        have specifiers : Same passed
          (⟨"default", text, past.token.span⟩ :: names) (⟨"default", text, past.token.span⟩ :: names') :=
          by grind
        exact (parallel_importSource walk₄.alike specifiers).mono (by grind)
    · exact names.mono (by grind)
  · simp only [kind, kind']
    exact names.mono (by grind)

theorem parallel_importAfter : Parallel Same c.importAfter c'.importAfter := by
  unfold importAfter
  refine alike.next_cases (fun _ => parallel_importClause alike) (fun past past' same walk => ?_)
    fun past past' content content' kind kind' span walk => ?_
  · dsimp only
    rw [same]
    split
    · refine .go walk (.map ((parallel_skipImportEnd walk.alike).mono ?_))
      grind
    · exact parallel_importClause alike
  · simp only [kind, kind']
    refine .go walk (.map ((parallel_skipImportEnd walk.alike).mono fun _ _ _ _ clear => ?_))
    simp_all

end Imports

/-! ## Exports -/

section Exports

variable {c c' : Cursor} (alike : c.Alike c')

include alike

theorem parallel_exportedName {before : Passed} {otherwise otherwise' : String}
    (same : Same before otherwise otherwise') :
    Parallel (fun passed => Same (before ++ passed)) (c.exportedName otherwise)
      (c'.exportedName otherwise') := by
  unfold exportedName
  refine alike.name_cases (.ok alike (by grind)) (fun past past' _ walk => ?_) "as"
  refine .lax (.map (.go walk ((parallel_properName walk.alike).mono ?_)))
  grind

theorem parallel_exportSpecifier : Parallel Same c.exportSpecifier c'.exportSpecifier := by
  unfold exportSpecifier
  refine (parallel_optionalModifier alike "type").bind fun _ _ walk₁ _ => ?_
  refine (parallel_properName walk₁.alike).andThen fun _ _ walk₂ exported => ?_
  have exportedName : Same _ _ _ := fun clear => congrArg NameUse.name (exported clear)
  refine (parallel_exportedName walk₂.alike exportedName).bind fun _ _ walk₃ localName => ?_
  exact .ok walk₃.alike (by grind)

theorem parallel_exportAllAfter : Parallel Same c.exportAllAfter c'.exportAllAfter := by
  unfold exportAllAfter
  refine Parallel.bind (?_ : Parallel Equal _ _) fun {_ isNamespace _ _ _} _ _ walk₁ same => ?_
  · refine alike.name_cases (.ok alike rfl) (fun past past' _ walk => ?_) "as"
    exact .lax (.map (.go walk ((parallel_propertyName walk.alike).mono fun _ _ _ _ => rfl)))
  · cases same
    refine (parallel_moduleSource walk₁.alike).andThen fun _ _ walk₂ source => ?_
    refine .map ((parallel_optionalSemicolon walk₂.alike).mono ?_)
    grind

theorem parallel_exportNames : Parallel Same c.exportNames c'.exportNames := by
  unfold exportNames
  refine (parallel_bracedNames alike parallel_exportSpecifier).andThen fun _ _ walk₁ specifiers => ?_
  dsimp only
  rw [walk₁.alike.seesName, walk₁.alike.previousSpan]
  refine .ite (fun _ => .lax ?_) fun _ => .map ((parallel_optionalSemicolon walk₁.alike).mono ?_)
  · refine (parallel_moduleSource walk₁.alike).andThen fun _ _ walk₂ source => ?_
    refine .map ((parallel_optionalSemicolon walk₂.alike).mono ?_)
    grind
  · grind

theorem parallel_exportList : Parallel Same c.exportList c'.exportList := by
  unfold exportList
  refine alike.mark_cases (parallel_exportNames alike) (fun past past' _ walk => ?_) .star
  exact .go walk ((parallel_exportAllAfter walk.alike).mono (by grind))

end Exports

end Cursor

/-! ## Statements in parallel -/

theorem Outcome.exists_of_mapAt {α β : Type} {moves : Bool} {c : Cursor}
    {outcome : Outcome moves c α} {change : α → Cursor → β} {value : β}
    (given : (outcome.mapAt change).result = .ok value) :
    ∃ original d, value = change original d := by
  obtain ⟨⟨result, d⟩, reaches, moved⟩ := outcome
  cases result with
  | ok original =>
      cases given
      exact ⟨_, _, rfl⟩
  | error error => cases given

namespace Section

variable {α : Type} {moves : Bool} {c c' d d' : Cursor} {before passed : Passed}
  {relation : Passed → α → α → Prop}

/-- Two statements run in parallel and give items that agree up to descriptions, unless a token
that the first one passes or one before differs and is no description in its items. -/
def Parallel (before : Passed) (statement : Section moves c) (statement' : Section moves c') :
    Prop :=
  (∃ passed, Walk c c' passed statement.outcome.rest statement'.outcome.rest ∧
    ResultsAlike (fun _ _ => True) statement.outcome.result statement'.outcome.result ∧
    ItemsReading (before ++ passed) statement.items statement'.items) ∨
  ∃ passed d', Walk c c' passed statement.outcome.rest d' ∧
    ¬DifferAt (statement.items.flatMap Item.descriptions) (before ++ passed)

namespace Parallel

/-- Statements that stop where others do that start further on. -/
theorem of_further {moves' : Bool} (walk : Walk c c' passed d d') {statement : Section moves d}
    {statement' : Section moves d'} (parallel : Parallel (before ++ passed) statement statement')
    {whole : Section moves' c} {whole' : Section moves' c'} (items : whole.items = statement.items)
    (items' : whole'.items = statement'.items)
    (same : whole.outcome.stopped = statement.outcome.stopped)
    (same' : whole'.outcome.stopped = statement'.outcome.stopped) :
    Parallel before whole whole' := by
  unfold Parallel
  rw [Outcome.rest, Outcome.rest, Outcome.result, Outcome.result, same, same', items, items']
  rcases parallel with ⟨further, walk', results, reading⟩ | ⟨further, e', walk', differs⟩
  · refine .inl ⟨passed ++ further, walk.trans walk', results, ?_⟩
    rwa [← List.append_assoc]
  · refine .inr ⟨passed ++ further, e', walk.trans walk', ?_⟩
    rwa [← List.append_assoc]

theorem goSection {past : c.Past} {past' : c'.Past} {pair : Token × Token}
    (walk : Walk c c' [pair] past.rest past'.rest) {statement : Section moves past.rest}
    {statement' : Section moves past'.rest}
    (parallel : Parallel (before ++ [pair]) statement statement') :
    Parallel before (past.goSection statement) (past'.goSection statement') :=
  of_further walk parallel rfl rfl rfl rfl

theorem lax {statement : Section moves c} {statement' : Section moves c'}
    (parallel : Parallel before statement statement') :
    Parallel before statement.lax statement'.lax :=
  parallel

theorem bindSection {outcome : Outcome false c α} {outcome' : Outcome false c' α}
    {next : (value : α) → (d : Cursor) → Section moves d}
    {next' : (value : α) → (d : Cursor) → Section moves d}
    (first : Outcome.Parallel relation outcome outcome')
    (second : ∀ {passed value value' d d'}, Walk c c' passed d d' → relation passed value value' →
      Parallel (before ++ passed) (next value d) (next' value' d')) :
    Parallel before (outcome.bindSection next) (outcome'.bindSection next') := by
  obtain ⟨⟨result, d⟩, reaches, moved⟩ := outcome
  obtain ⟨⟨result', d'⟩, reaches', moved'⟩ := outcome'
  obtain ⟨passed, walk, results⟩ := first
  cases results with
  | ok related => exact of_further walk (second walk related) rfl rfl rfl rfl
  | error error error' => exact .inl ⟨passed, walk, .error error error', .none⟩

/-- What was passed before makes no difference to statements that give the same. -/
theorem prepend {statement : Section moves c} {statement' : Section moves c'}
    (parallel : Parallel [] statement statement') : Parallel before statement statement' := by
  rcases parallel with ⟨passed, walk, results, reading⟩ | ⟨passed, d', walk, differs⟩
  · exact .inl ⟨passed, walk, results, reading.append_left before⟩
  · exact .inr ⟨passed, d', walk, fun differ => differs (differAt_append.1 differ).2⟩

theorem ofSkipped {outcome : Outcome moves c Unit} {outcome' : Outcome moves c' Unit}
    (parallel : Outcome.Parallel Equal outcome outcome') :
    Parallel before (.ofSkipped outcome) (.ofSkipped outcome') := by
  obtain ⟨passed, walk, results⟩ := parallel.mono fun _ _ _ _ => trivial
  exact .inl ⟨passed, walk, results, .none⟩

/-- A rule that gives items if it succeeds. -/
theorem ofIfClear {outcome : Outcome moves c (List Item)} {outcome' : Outcome moves c' (List Item)}
    (parallel : ParallelIfClear before (fun passed => ItemsReading (before ++ passed)) outcome
      outcome')
    (undescribed : ∀ items, outcome.result = .ok items → items.flatMap Item.descriptions = []) :
    Parallel before (.ofOutcome outcome) (.ofOutcome outcome') := by
  obtain ⟨⟨result, d⟩, reaches, moved⟩ := outcome
  obtain ⟨⟨result', d'⟩, reaches', moved'⟩ := outcome'
  rcases parallel with ⟨passed, walk, results⟩ | ⟨passed, e', walk, differs⟩
  · cases results with
    | ok reading => exact .inl ⟨passed, walk, .ok trivial, reading⟩
    | error error error' => exact .inl ⟨passed, walk, .error error error', .none⟩
  · refine .inr ⟨passed, e', ?_, ?_⟩
    · cases result <;> exact walk
    · cases result with
      | ok items => rwa [show (Section.ofOutcome _).items = items from rfl, undescribed items rfl]
      | error error => exact differs

theorem ofOutcome {outcome : Outcome moves c (List Item)} {outcome' : Outcome moves c' (List Item)}
    (parallel : Outcome.Parallel (fun passed => ItemsReading (before ++ passed)) outcome outcome') :
    Parallel before (.ofOutcome outcome) (.ofOutcome outcome') := by
  obtain ⟨⟨result, d⟩, reaches, moved⟩ := outcome
  obtain ⟨⟨result', d'⟩, reaches', moved'⟩ := outcome'
  obtain ⟨passed, walk, results⟩ := parallel
  cases results with
  | ok reading => exact .inl ⟨passed, walk, .ok trivial, reading⟩
  | error error error' => exact .inl ⟨passed, walk, .error error error', .none⟩

/-- A rule whose items are neither bindings nor classes. -/
theorem ofPlain {outcome : Outcome moves c α} {outcome' : Outcome moves c' α}
    (parallel : Outcome.Parallel Same outcome outcome') {change : α → Cursor → List Item}
    (changed : ∀ {value d d'}, d.Alike d' → change value d = change value d')
    (plain : ∀ value d, ∀ item ∈ change value d, item.form.isPlain = true) :
    Parallel before (.ofOutcome (outcome.mapAt change)) (.ofOutcome (outcome'.mapAt change)) :=
  .ofOutcome (parallel.mapAt fun walk same => .append_left
    (.plain (fun clear => by rw [same clear, changed walk.alike]) (plain _ _)) before)

theorem ite {condition : Prop} [Decidable condition] {first second : Section moves c}
    {first' second' : Section moves c'} (isTrue : condition → Parallel before first first')
    (isFalse : ¬condition → Parallel before second second') :
    Parallel before (if condition then first else second)
      (if condition then first' else second') := by
  split
  · next holds => exact isTrue holds
  · next fails => exact isFalse fails

end Parallel

end Section

namespace Cursor

/-! ## Bindings -/

section Bindings

variable {c c' : Cursor} (alike : c.Alike c')

include alike

theorem parallel_bindingTarget : Parallel Equal c.bindingTarget c'.bindingTarget := by
  unfold bindingTarget
  refine alike.next_cases (fun _ => .fail alike) (fun past past' same walk => ?_)
    fun past past' content content' kind kind' _ walk => ?_
  · dsimp only
    rw [same]
    have group : Parallel Equal (c.skipGroup.map fun _ => (none : Option NameUse))
        (c'.skipGroup.map fun _ => none) :=
      .map ((parallel_skipGroup alike).mono fun _ _ _ _ => rfl)
    split
    · exact .go walk (.ok walk.alike rfl)
    · exact group
    · exact group
    · exact .fail alike
  · simp only [kind, kind']
    exact .fail alike

theorem parallel_binding (start : Span) (exported : Bool) :
    Parallel ItemsReading (c.binding start exported) (c'.binding start exported) := by
  unfold binding
  refine (parallel_bindingTarget alike).andThen fun {first target _ _ _} _ _ walk₁ same => ?_
  cases same
  refine (parallel_optionalMark walk₁.alike .bang).bind fun {second _ _ _ _} _ _ walk₂ _ => ?_
  refine (parallel_ascription walk₂.alike).bind fun {third type type' _ _} _ _ walk₃ sameType => ?_
  refine (parallel_initial walk₃.alike).bind fun {last _ _ _ _} _ _ walk₄ initial => ?_
  refine .ok walk₄.alike ?_
  have sorted := (walk₃.trans walk₄).sorted walk₂.alike
  rw [List.append_nil]
  cases target with
  | none => exact .none
  | some name =>
      refine .append_left (.append_left (.ofBinding initial (fun clear same => ?_)
        (walk₄.alike.spanFrom start) sorted) second) first
      dsimp only at same
      rw [BindingDeclaration.bare, BindingDeclaration.bare, same, sameType clear]

omit alike in
theorem parallel_bindings {start : Span} {exported : Bool} {c c' : Cursor} (alike : c.Alike c') :
    ∃ passed, Walk c c' passed (c.bindings start exported).outcome.rest
        (c'.bindings start exported).outcome.rest ∧
      ResultsAlike (fun _ _ => True) (c.bindings start exported).outcome.result
        (c'.bindings start exported).outcome.result ∧
      ItemsReading passed (c.bindings start exported).items (c'.bindings start exported).items := by
  unfold bindings
  have run := parallel_binding alike start exported
  generalize c.binding start exported = outcome, c'.binding start exported = outcome' at run
  obtain ⟨⟨result, d⟩, reaches, moved⟩ := outcome
  obtain ⟨⟨result', d'⟩, reaches', moved'⟩ := outcome'
  obtain ⟨passed, walk, results⟩ := run
  cases results with
  | @ok items items' reading =>
      have less : d.remaining < c.remaining := moved rfl ⟨items, rfl⟩
      dsimp only
      refine walk.alike.mark_cases ?_ (fun past past' _ walk₂ => ?_) .comma
      · have closed : Outcome.Parallel (fun _ _ _ => True) d.optionalSemicolon
            d'.optionalSemicolon :=
          (parallel_optionalSemicolon walk.alike).mono fun _ _ _ _ => trivial
        obtain ⟨further, walk₂, results⟩ := closed
        exact ⟨passed ++ further, walk.trans walk₂, results, reading.append_right further⟩
      · have : past.rest.remaining < c.remaining := Nat.lt_trans past.less less
        dsimp only
        rw [walk₂.alike.span]
        obtain ⟨further, walk₃, results, others⟩ := parallel_bindings walk₂.alike
        have whole := walk.trans (walk₂.trans walk₃)
        exact ⟨_, whole, results, reading.append (others.append_left _) (whole.sorted alike)⟩
  | error error error' => exact ⟨passed, walk, .error error error', .none⟩
termination_by c.remaining

end Bindings

/-! ## Types and classes -/

/-- An item ends where its statement does. -/
theorem itemFrom_congr {α : Type} {start : Span} {exported : Bool} {form : α → ItemForm}
    {declaration : α} {d d' : Cursor} (alike : d.Alike d') :
    itemFrom start exported form declaration d = itemFrom start exported form declaration d' := by
  rw [itemFrom, itemFrom, alike.spanFrom]

section Types

variable {c c' : Cursor} (alike : c.Alike c')

include alike

theorem parallel_interfaceDeclaration :
    Parallel Same c.interfaceDeclaration c'.interfaceDeclaration := by
  unfold interfaceDeclaration
  refine (parallel_expectKeyword alike .interface_).andThen fun _ _ walk₁ _ => ?_
  refine (parallel_expectName walk₁.alike).andThen fun {_ name _ _ _} _ _ walk₂ same => ?_
  cases same
  refine (parallel_skipAnglesIfAny walk₂.alike).bind fun _ _ walk₃ _ => ?_
  refine (parallel_heritageClause walk₃.alike .extends_).bind
    fun {_ bases _ _ _} _ _ walk₄ same => .lax (.map ?_)
  cases same
  exact (parallel_typeMembers walk₄.alike).mono (by grind)

theorem parallel_aliasAfter : Parallel Same c.aliasAfter c'.aliasAfter := by
  unfold aliasAfter
  refine (parallel_expectName alike).andThen fun {_ name _ _ _} _ _ walk₁ same => ?_
  cases same
  refine (parallel_skipAnglesIfAny walk₁.alike).bind fun _ _ walk₂ _ => ?_
  refine (parallel_expectMark walk₂.alike .eq).lax.bind fun _ _ walk₃ _ => ?_
  refine (parallel_type walk₃.alike).lax.bind fun _ _ walk₄ type => ?_
  exact .map ((parallel_optionalSemicolon walk₄.alike).mono (by grind))

theorem parallel_skipEnum : Parallel Equal c.skipEnum c'.skipEnum := by
  unfold skipEnum
  refine (parallel_expectKeyword alike .enum_).andThen fun _ _ walk₁ _ => ?_
  refine (parallel_expectName walk₁.alike).lax.bind fun _ _ walk₂ _ => ?_
  rw [walk₂.alike.seesMark]
  refine .ite (fun _ => .lax (.map ?_)) fun _ => .fail walk₂.alike
  exact (parallel_skipGroup walk₂.alike).mono fun _ _ _ _ => rfl

variable (start : Span) (exported : Bool)


theorem parallel_interfaceItem (start : Span) (exported : Bool) (before : Passed) :
    Section.Parallel before
      (.ofOutcome (c.interfaceDeclaration.mapAt (itemFrom start exported .interfaceType)))
      (.ofOutcome (c'.interfaceDeclaration.mapAt (itemFrom start exported .interfaceType))) :=
  .ofPlain (parallel_interfaceDeclaration alike) itemFrom_congr fun _ _ => by
    simp [itemFrom, ItemForm.isPlain]

end Types

section Classes

variable {c c' : Cursor} (alike : c.Alike c') {before : Passed}
  {decorators decorators' : List Decorator} (sameDecorators : Same before decorators decorators')

include alike sameDecorators

/-- A class with what exports it. -/
theorem parallel_exportedClass (start : Span) (exported isAbstract : Bool)
    {exports : ClassDeclaration → List Item}
    (plain : ∀ declaration, ∀ item ∈ exports declaration, item.form.isPlain = true) :
    Section.Parallel before
      (.ofOutcome ((c.classDeclaration decorators isAbstract).mapAt fun declaration d =>
        itemFrom start exported .classType declaration d ++ exports declaration))
      (.ofOutcome ((c'.classDeclaration decorators' isAbstract).mapAt fun declaration d =>
        itemFrom start exported .classType declaration d ++ exports declaration)) := by
  refine .ofIfClear (.mapAt (parallel_classDeclaration alike sameDecorators isAbstract)
    fun {_ declaration _ _ _} walk reading => ?_) fun items given => ?_
  · exact .ofClass reading (walk.alike.spanFrom start) (fun clear => by rw [reading.same clear])
      (plain declaration)
  · obtain ⟨declaration, d, rfl⟩ := Outcome.exists_of_mapAt given
    exact (descriptions_of_isPlain (plain declaration) :)

theorem parallel_classItem (start : Span) (exported isAbstract : Bool) :
    Section.Parallel before (c.classItem start exported decorators isAbstract)
      (c'.classItem start exported decorators' isAbstract) := by
  have plain (_ : ClassDeclaration) : ∀ item ∈ ([] : List Item), item.form.isPlain = true :=
    List.forall_mem_nil _
  exact parallel_exportedClass alike sameDecorators start exported isAbstract plain

/-! ## Default exports -/

omit alike sameDecorators in
theorem isPlain_defaultExport (name : NameUse) :
    ∀ item ∈ [Item.defaultExport name], item.form.isPlain = true :=
  List.forall_mem_singleton.2 rfl

theorem parallel_defaultClass (start : Span) (isAbstract : Bool) :
    Section.Parallel before (c.defaultClass start decorators isAbstract)
      (c'.defaultClass start decorators' isAbstract) := by
  unfold defaultClass
  refine alike.next_walk (.ofSkipped (.fail alike)) fun past past' _ walk => ?_
  dsimp only
  rw [walk.alike.seesSomeName]
  refine .ite (fun _ => ?_) fun _ => .ofSkipped ?_
  · exact parallel_exportedClass alike sameDecorators start true isAbstract fun declaration =>
      isPlain_defaultExport _
  · exact .go walk (parallel_skipClassTail walk.alike)

end Classes

section Defaults

variable {c c' : Cursor} (alike : c.Alike c') (start : Span) (before : Passed)

include alike

theorem parallel_defaultValue :
    Section.Parallel before (c.defaultValue start) (c'.defaultValue start) := by
  unfold defaultValue
  have value : Outcome.Parallel (fun passed declaration declaration' =>
      IfAny Reading passed declaration.initial declaration'.initial ∧
        (declaration.initial.map Expression.bare = declaration'.initial.map Expression.bare →
          declaration.bare = declaration'.bare))
      (c.expression.andThen fun value d _ => d.optionalSemicolon.map fun _ =>
        (⟨"default", value.span, none, some value⟩ : BindingDeclaration))
      (c'.expression.andThen fun value d _ => d.optionalSemicolon.map fun _ =>
        (⟨"default", value.span, none, some value⟩ : BindingDeclaration)) := by
    refine (parallel_expression alike).andThen fun {passed value value' _ _} _ _ walk reading => ?_
    refine .map ((parallel_optionalSemicolon walk.alike).mono fun further _ _ _ => ⟨?_, ?_⟩)
    · exact (IfAny.some reading).extend further
    · intro same
      have same : value.bare = value'.bare := Option.some.inj same
      have span : value.span = value'.span := by
        rw [← value.span_bare, same, value'.span_bare]
      simp only [BindingDeclaration.bare, Option.map_some, same, span]
  refine .ofOutcome (value.mapAt fun {passed declaration declaration' d d'} walk related =>
    .append_left ?_ before)
  have reading : ItemsReading ([] ++ passed) (itemFrom start true .binding declaration d)
      (itemFrom start true .binding declaration' d') :=
    .ofBinding related.1 (fun _ => related.2) (walk.alike.spanFrom start) (walk.sorted alike)
  exact reading

theorem parallel_defaultName :
    Section.Parallel before (c.defaultName start) (c'.defaultName start) := by
  unfold defaultName
  have value := parallel_defaultValue alike start before
  refine alike.next_cases (fun _ => value) (fun past past' same walk => ?_)
    fun past past' content content' kind kind' _ walk => ?_
  · dsimp only
    rw [same]
    have named (text : String) : Section.Parallel before
        (.ofOutcome ((past.go past.rest.optionalSemicolon).map fun _ =>
          [Item.defaultExport ⟨text, past.token.span⟩]))
        (.ofOutcome ((past'.go past'.rest.optionalSemicolon).map fun _ =>
          [Item.defaultExport ⟨text, past.token.span⟩])) := by
      refine .ofOutcome (.map (.go walk ((parallel_optionalSemicolon walk.alike).mono ?_)))
      exact fun _ _ _ _ => .plain (.refl _ _) (isPlain_defaultExport _)
    split
    · rcases walk.alike.kind_cases with same | ⟨content, content', kind, kind'⟩
      · rw [same]
        exact .ite (fun _ => named _) fun _ => value
      · simp only [kind, kind', Kind.startsItem, reduceCtorEq]
        exact value
    · exact value
  · simp only [kind, kind']
    exact value

omit alike in
/-- The words with which a default export starts tell what it exports. -/
theorem defaultAfter_eq (decorators : List Decorator) :
    c.defaultAfter start decorators =
      if c.kind? = some (.name "abstract") ∧ c.peek? 1 = some (.keyword .class_) then
        match c.next? with
        | some past => past.goSection (past.rest.defaultClass start decorators true)
        | none => c.defaultName start
      else if c.kind? = some (.keyword .class_) then c.defaultClass start decorators false
      else if c.kind? = some (.keyword .interface_) then
        .ofOutcome (c.interfaceDeclaration.mapAt fun declaration d =>
          itemFrom start true .interfaceType declaration d ++
            [.defaultExport ⟨declaration.name, declaration.nameSpan⟩])
      else if c.kind? = some (.keyword .function_) then .ofSkipped c.skipFunction
      else c.defaultName start := by
  unfold defaultAfter
  split
  · next kind second => exact (if_pos ⟨kind, second⟩).symm
  all_goals simp_all

variable {before} {decorators decorators' : List Decorator}
  (sameDecorators : Same before decorators decorators')

include sameDecorators

theorem parallel_defaultAfter :
    Section.Parallel before (c.defaultAfter start decorators)
      (c'.defaultAfter start decorators') := by
  have word : c.kind? = some (.name "abstract") ↔ c'.kind? = some (.name "abstract") :=
    alike.kind_eq_iff (by simp)
  have first (word : Keyword) : c.kind? = some (.keyword word) ↔ c'.kind? = some (.keyword word) :=
    alike.kind_eq_iff (by simp)
  have second : c.peek? 1 = some (.keyword .class_) ↔ c'.peek? 1 = some (.keyword .class_) :=
    alike.peek_eq_iff 1 (by simp)
  rw [defaultAfter_eq, defaultAfter_eq]
  simp only [word, first, second]
  refine .ite (fun _ => ?_) fun _ => .ite (fun _ => ?_) fun _ => .ite (fun _ => ?_) fun _ =>
    .ite (fun _ => ?_) fun _ => ?_
  · refine alike.next_walk (parallel_defaultName alike start before) fun past past' _ walk => ?_
    refine .goSection walk (parallel_defaultClass walk.alike (fun clear => ?_) start true)
    exact sameDecorators (differAt_append.1 clear).1
  · exact parallel_defaultClass alike sameDecorators start false
  · refine .ofPlain (parallel_interfaceDeclaration alike) (fun alike => ?_) fun _ _ => ?_
    · rw [itemFrom_congr alike]
    · simp [itemFrom, ItemForm.isPlain, Item.defaultExport]
  · exact .ofSkipped (parallel_skipFunction alike)
  · exact parallel_defaultName alike start before

end Defaults

/-! ## Statements -/

section Statements

variable {c c' : Cursor} (alike : c.Alike c') (start : Span) (exported : Bool) {before : Passed}
  {decorators decorators' : List Decorator} (sameDecorators : Same before decorators decorators')

include alike

include sameDecorators

theorem Past.parallel_statement {past : c.Past} {past' : c'.Past}
    (token : past.token.Alike past'.token)
    (walk : Walk c c' [(past.token, past'.token)] past.rest past'.rest) :
    Section.Parallel before (past.statement start exported decorators)
      (past'.statement start exported decorators') := by
  have skip : Section.Parallel before (.ofSkipped past.skipStatement)
      (.ofSkipped past'.skipStatement) :=
    .ofSkipped (Past.parallel_skipStatement alike token walk)
  have marks (mark : Mark) :
      past.rest.kind? = some (.mark mark) ↔ past'.rest.kind? = some (.mark mark) :=
    walk.alike.kind_eq_iff (by simp)
  have words (word : Keyword) :
      past.rest.kind? = some (.keyword word) ↔ past'.rest.kind? = some (.keyword word) :=
    walk.alike.kind_eq_iff (by simp)
  have bindings : Section.Parallel before (past.goSection (past.rest.bindings start exported))
      (past'.goSection (past'.rest.bindings start exported)) :=
    .goSection walk (.prepend (.inl (parallel_bindings walk.alike)))
  unfold statement
  simp only [marks, words, walk.alike.seesSomeName]
  rcases token.kind_cases with same | ⟨content, content', kind, kind'⟩
  · rw [same]
    split
    · refine .ite (fun _ => skip) fun _ => .ofPlain
        (.go walk ((parallel_importAfter walk.alike).mono ?_)) itemFrom_congr ?_
      · grind
      · simp [itemFrom, ItemForm.isPlain]
    · exact .ite (fun _ => .ofSkipped (.go walk (parallel_skipEnum walk.alike))) fun _ => bindings
    · exact bindings
    · exact bindings
    · exact parallel_classItem alike sameDecorators start exported false
    · exact parallel_interfaceItem alike start exported before
    · exact .ofSkipped (parallel_skipFunction alike)
    · exact .ofSkipped (parallel_skipEnum alike)
    · exact .ofSkipped (.go walk (.ok walk.alike rfl))
    · refine .ite (fun _ => .goSection walk ?_) fun _ => skip
      exact parallel_classItem walk.alike (fun clear => sameDecorators (differAt_append.1 clear).1)
        start exported true
    · refine .ite (fun _ => .ofPlain (.go walk ((parallel_aliasAfter walk.alike).mono ?_))
        itemFrom_congr ?_) fun _ => skip
      · grind
      · simp [itemFrom, ItemForm.isPlain]
    · exact .ite (fun _ => .ofSkipped (.go walk (parallel_skipFunction walk.alike))) fun _ => skip
    · exact skip
  · simp only [kind, kind']
    exact skip

theorem parallel_statementIfAny :
    Section.Parallel before (c.statementIfAny start exported decorators)
      (c'.statementIfAny start exported decorators') := by
  unfold statementIfAny
  refine alike.next_walk (.ofSkipped (.ok alike rfl)) fun past past' token walk => ?_
  exact .lax (Past.parallel_statement alike start exported sameDecorators token walk)

theorem parallel_exportAfter :
    Section.Parallel before (c.exportAfter start decorators)
      (c'.exportAfter start decorators') := by
  unfold exportAfter
  refine .bindSection (parallel_decorators alike) fun {passed others others' d d'} walk₁ same => ?_
  have allDecorators : Same (before ++ passed) (decorators ++ others) (decorators' ++ others') := by
    grind
  refine walk₁.alike.keyword_cases ?_ (fun past past' _ walk₂ => ?_) .default_
  · dsimp only
    have brace : d.peek? 1 = some (.mark .lbrace) ↔ d'.peek? 1 = some (.mark .lbrace) :=
      walk₁.alike.peek_eq_iff 1 (by simp)
    simp only [brace]
    refine .bindSection (?_ : Outcome.Parallel Equal _ _) fun {further _ _ e e'} walk₂ _ => ?_
    · exact .ite (fun _ => parallel_optional walk₁.alike (by simp)) fun _ => .ok walk₁.alike rfl
    · rw [walk₂.alike.seesMark, walk₂.alike.seesMark]
      refine .ite (fun _ => .lax (.ofPlain (parallel_exportList walk₂.alike) itemFrom_congr ?_))
        fun _ => ?_
      · simp [itemFrom, ItemForm.isPlain]
      · exact parallel_statementIfAny walk₂.alike start true
          fun clear => allDecorators (differAt_append.1 clear).1
  · refine .lax (.goSection walk₂ (parallel_defaultAfter walk₂.alike start ?_))
    exact fun clear => allDecorators (differAt_append.1 clear).1

theorem parallel_decoratedStatement :
    Section.Parallel before (c.decoratedStatement start decorators)
      (c'.decoratedStatement start decorators') := by
  unfold decoratedStatement
  refine alike.keyword_cases (parallel_statementIfAny alike start false sameDecorators)
    (fun past past' _ walk => ?_) .export_
  refine .lax (.goSection walk (parallel_exportAfter walk.alike start ?_))
  exact fun clear => sameDecorators (differAt_append.1 clear).1

omit sameDecorators in
/-- **Statements run in parallel**, up to descriptions of the symbols that the first one binds. -/
theorem Past.parallel_item {past : c.Past} {past' : c'.Past} (token : past.token.Alike past'.token)
    (walk : Walk c c' [(past.token, past'.token)] past.rest past'.rest) :
    Section.Parallel [] past.item past'.item := by
  have statement : Section.Parallel [] (past.statement past.token.span false [])
      (past'.statement past'.token.span false []) := by
    rw [← token.span_eq]
    exact Past.parallel_statement alike _ false (.refl _ _) token walk
  unfold item
  rcases token.kind_cases with same | ⟨content, content', kind, kind'⟩
  · rw [same]
    split
    · rw [token.span_eq]
      refine .goSection walk (.bindSection (Rules.parallel_decoratorAfter (Rules.alike_all _ _)
        walk.alike _).lax fun walk₁ first => ?_)
      refine .bindSection (parallel_decorators walk₁.alike) fun walk₂ others => ?_
      exact parallel_decoratedStatement walk₂.alike _ (by grind)
    · rw [token.span_eq]
      exact .goSection walk (parallel_exportAfter walk.alike _ (.refl _ _))
    · exact statement
  · simp only [kind, kind']
    exact statement

end Statements

end Cursor

end InjectionCheck
