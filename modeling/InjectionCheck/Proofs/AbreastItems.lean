import InjectionCheck.Proofs.AbreastClasses

/-!
# Statements beside each other

The rules for the statements of a file do in the file what they do in its revision, and the file
goes on alike behind a statement and after its error. So behind the statement that skips the
revised body the file declares the same as its revision, spans aside, and has the same errors.
-/

set_option autoImplicit false

namespace InjectionCheck

open Cursor Outcome

/-! ## Sections -/

namespace Section

/-- Two statements do the same, with the same items and errors, spans aside, unless the first one
passes the brace. -/
structure Abreast {moves moves' : Bool} {c c' : Cursor} (r : Revision)
    (statement : Section moves c) (statement' : Section moves' c') : Prop where
  outcome : Outcome.Abreast r Unrelated statement.outcome statement'.outcome
  recorded : ¬r.Entered statement.outcome.rest →
    SameUnder (List.map Item.unplaced) statement.items statement'.items ∧
      List.Forall₂ r.SameError statement.errors statement'.errors

/-- Two statements pass the body, with the same items and errors, spans aside. -/
structure Behind {moves moves' : Bool} {c c' : Cursor} (r : Revision)
    (statement : Section moves c) (statement' : Section moves' c') : Prop where
  outcome : Outcome.Behind r Unrelated statement.outcome statement'.outcome
  items : SameUnder (List.map Item.unplaced) statement.items statement'.items
  errors : List.Forall₂ r.SameError statement.errors statement'.errors

variable {α : Type} {moves : Bool} {r : Revision} {b c c' : Cursor} {agree : α → α → Prop}

namespace Abreast

/-- A statement that passes the brace. -/
theorem of_entered {statement : Section moves c} {statement' : Section moves c'}
    (entered : r.Entered statement.outcome.rest) : Abreast r statement statement' :=
  ⟨.inl entered, fun front => absurd entered front⟩

theorem ofRecording {outcome : Outcome moves c (List Item)}
    {outcome' : Outcome moves c' (List Item)}
    (abreast : RecordAbreast r r.SameError (SameUnder (List.map Item.unplaced)) outcome outcome') :
    Abreast r (.ofOutcome outcome) (.ofOutcome outcome') := by
  refine ⟨abreast.runs.map fun _ => trivial, fun front => ⟨?_, ?_⟩⟩
  · have front : ¬r.Entered outcome.rest := fun entered => front (by rwa [ofOutcome, rest_map])
    obtain ⟨-, results⟩ := abreast.runs.resolve_left front
    obtain ⟨⟨result, d⟩, reaches, moved, errors⟩ := outcome
    obtain ⟨⟨result', d'⟩, reaches', moved', errors'⟩ := outcome'
    cases results with
    | ok related => exact related
    | error => rfl
  · rw [ofOutcome, rest_map] at front
    rw [Section.errors, Section.errors, ofOutcome, ofOutcome, errors_map, errors_map]
    exact abreast.errors front

theorem ofOutcome {outcome : Outcome moves c (List Item)} {outcome' : Outcome moves c' (List Item)}
    (abreast : Outcome.Abreast r (SameUnder (List.map Item.unplaced)) outcome outcome')
    (silent : outcome.Silent) (silent' : outcome'.Silent) :
    Abreast r (.ofOutcome outcome) (.ofOutcome outcome') :=
  ofRecording ⟨abreast, fun _ => by rw [silent, silent']; exact .nil⟩

theorem ofSkipped {outcome outcome'} (abreast : Outcome.Abreast r Eq outcome outcome')
    (silent : outcome.Silent) (silent' : outcome'.Silent) :
    Abreast r (.ofSkipped outcome : Section moves c) (.ofSkipped outcome' : Section moves c') :=
  ⟨abreast.mono fun _ _ _ => trivial, fun _ => ⟨rfl, by
    rw [Section.errors, Section.errors, Section.ofSkipped, Section.ofSkipped, silent, silent']
    exact .nil⟩⟩

theorem lax {statement : Section moves c} {statement' : Section moves c'}
    (abreast : Abreast r statement statement') : Abreast r statement.lax statement'.lax :=
  ⟨abreast.outcome.lax, abreast.recorded⟩

theorem goSection {past : c.Past} {past' : c'.Past} {statement : Section moves past.rest}
    {statement' : Section moves past'.rest} (abreast : Abreast r statement statement') :
    Abreast r (past.goSection statement) (past'.goSection statement') :=
  ⟨abreast.outcome, abreast.recorded⟩

theorem bindSection {outcome : Outcome false c α} {outcome' : Outcome false c' α}
    {next next' : (value : α) → (d : Cursor) → Section moves d}
    (first : Outcome.Abreast r agree outcome outcome') (silent : outcome.Silent)
    (silent' : outcome'.Silent)
    (second : ∀ {value value' d d'}, r.Abreast d d' → agree value value' →
      Abreast r (next value d) (next' value' d')) :
    Abreast r (outcome.bindSection next) (outcome'.bindSection next') := by
  obtain ⟨⟨result, d⟩, reaches, moved, errors⟩ := outcome
  obtain ⟨⟨result', d'⟩, reaches', moved', errors'⟩ := outcome'
  cases (silent : errors = [])
  cases (silent' : errors' = [])
  obtain entered | ⟨rests, results⟩ := first
  · refine .of_entered ?_
    cases result with
    | ok => exact entered.mono (Outcome.reaches _)
    | error => exact entered
  · cases results with
    | ok related =>
        obtain ⟨both, recorded⟩ := second rests related
        exact ⟨both, recorded⟩
    | error same => exact ⟨.inr ⟨rests, .error same⟩, fun _ => ⟨rfl, .nil⟩⟩

theorem ite {condition : Prop} [Decidable condition] {first second : Section moves c}
    {first' second' : Section moves c'} (isTrue : condition → Abreast r first first')
    (isFalse : ¬condition → Abreast r second second') :
    Abreast r (if condition then first else second)
      (if condition then first' else second') := by
  split
  · next holds => exact isTrue holds
  · next fails => exact isFalse fails

end Abreast

namespace Behind

theorem ofRecording {outcome : Outcome moves c (List Item)}
    {outcome' : Outcome moves c' (List Item)}
    (behind : RecordBehind r (SameUnder (List.map Item.unplaced)) outcome outcome') :
    Behind r (.ofOutcome outcome) (.ofOutcome outcome') := by
  refine ⟨behind.runs.map fun _ => trivial, ?_, ?_⟩
  · obtain ⟨-, results⟩ := behind.runs.abreast.resolve_left Revision.not_entered_after
    obtain ⟨⟨result, d⟩, reaches, moved, errors⟩ := outcome
    obtain ⟨⟨result', d'⟩, reaches', moved', errors'⟩ := outcome'
    cases results with
    | ok related => exact related
    | error => rfl
  · rw [Section.errors, Section.errors, ofOutcome, ofOutcome, errors_map, errors_map]
    exact behind.errors

theorem ofSkipped {outcome outcome'} (behind : Outcome.Behind r Eq outcome outcome')
    (silent : outcome.Silent) (silent' : outcome'.Silent) :
    Behind r (.ofSkipped outcome : Section moves c) (.ofSkipped outcome' : Section moves c') :=
  ⟨⟨behind.entered, behind.entered', behind.abreast.mono fun _ _ _ => trivial⟩, rfl, by
    rw [Section.errors, Section.errors, Section.ofSkipped, Section.ofSkipped, silent, silent']
    exact .nil⟩

theorem lax {statement : Section moves c} {statement' : Section moves c'}
    (behind : Behind r statement statement') : Behind r statement.lax statement'.lax :=
  ⟨behind.outcome.lax, behind.items, behind.errors⟩

theorem goSection {past : c.Past} {past' : c'.Past} {statement : Section moves past.rest}
    {statement' : Section moves past'.rest} (behind : Behind r statement statement') :
    Behind r (past.goSection statement) (past'.goSection statement') :=
  ⟨behind.outcome.go, behind.items, behind.errors⟩

/-- A rule that succeeds in front of the body, and then a statement that passes it. -/
theorem of_bindSection (isBody : b.remaining = r.gap.length) {outcome : Outcome false c α}
    {outcome' : Outcome false c' α} {next next' : (value : α) → (d : Cursor) → Section moves d}
    {holds : (value : α) → (d : Cursor) → d.remaining ≤ c.remaining → Prop}
    (first : Outcome.Abreast r agree outcome outcome') (silent : outcome.Silent)
    (silent' : outcome'.Silent) (skips : outcome.Then holds)
    (further : ∀ {value d atMost}, holds value d atMost → b.remaining ≤ d.remaining)
    (second : ∀ {value value' d d' atMost}, r.Abreast d d' → agree value value' →
      holds value d atMost → Behind r (next value d) (next' value' d')) :
    Behind r (outcome.bindSection next) (outcome'.bindSection next') := by
  obtain ⟨⟨result, d⟩, reaches, moved, errors⟩ := outcome
  obtain ⟨⟨result', d'⟩, reaches', moved', errors'⟩ := outcome'
  cases (silent : errors = [])
  cases (silent' : errors' = [])
  obtain ⟨value, succeeded, held⟩ := skips
  cases (succeeded : result = .ok value)
  obtain entered | ⟨rests, results⟩ := first
  · exact absurd (further held) (Nat.not_le_of_lt (isBody ▸ entered))
  · cases results with
    | ok related =>
        obtain ⟨⟨entered, entered', both⟩, items, errors⟩ := second rests related held
        exact ⟨⟨entered, entered', both⟩, items, errors⟩

end Behind

end Section

theorem ClassDeclaration.name_eq {declaration declaration' : ClassDeclaration}
    (same : SameUnder unplaced declaration declaration') :
    declaration.name = declaration'.name := by
  simpa [unplaced] using congrArg name same

theorem InterfaceDeclaration.name_eq {declaration declaration' : InterfaceDeclaration}
    (same : SameUnder unplaced declaration declaration') :
    declaration.name = declaration'.name := by
  simpa [unplaced] using congrArg name same

namespace Cursor

theorem same_itemFrom {α : Type} (form : α → ItemForm) {declaration declaration' : α}
    (same : SameUnder ItemForm.unplaced (form declaration) (form declaration')) {exported : Bool}
    {start start' : Span} {c c' : Cursor} :
    SameUnder (List.map Item.unplaced) (itemFrom start exported form declaration c)
      (itemFrom start' exported form declaration' c') := by
  simp only [SameUnder, itemFrom, List.map_cons, List.map_nil, Item.unplaced, same]

variable {r : Revision}

/-! ## Imports -/

section Imports

variable {c c' : Cursor} (abreast : r.Abreast c c')

include abreast

theorem abreast_moduleSource :
    Outcome.Abreast r (SameUnder NameUse.unplaced) c.moduleSource c'.moduleSource := by
  unfold moduleSource
  refine abreast.name_cases (.fail abreast (abreast.expected _)) (fun past past' rests => ?_) "from"
  dsimp only
  refine rests.next_cases (.go (.fail rests (rests.expected _))) fun source source' step => ?_
  dsimp only
  rw [step.kind]
  split
  · exact .go (.step step fun behind => .ok behind rfl)
  · exact .go (.fail rests (rests.expected _))

theorem abreast_skipImportAttributes :
    Outcome.Abreast r Eq c.skipImportAttributes c'.skipImportAttributes := by
  unfold skipImportAttributes
  refine abreast.next_cases (.ok abreast rfl) fun past past' step => ?_
  dsimp only
  rw [step.kind]
  split
  · next isName =>
    have rests := step.abreast (by simp [isName])
    rw [rests.seesMark]
    refine .ite (fun _ => ?_) fun _ => .ok abreast rfl
    exact .lax (.go (.map (abreast_skipGroup rests) fun _ => rfl))
  · exact .ok abreast rfl

theorem abreast_skipImportEnd : Outcome.Abreast r Eq c.skipImportEnd c'.skipImportEnd :=
  (abreast_skipImportAttributes abreast).bind fun _ _ rests _ => abreast_optionalSemicolon rests

theorem abreast_importSource {specifiers specifiers' : List ImportSpecifier}
    (same : SameUnder (List.map ImportSpecifier.unplaced) specifiers specifiers') :
    Outcome.Abreast r (SameUnder ImportDeclaration.unplaced) (c.importSource specifiers)
      (c'.importSource specifiers') := by
  unfold importSource
  refine (abreast_moduleSource abreast).andThen fun _ _ rests₁ sameSource => ?_
  refine (abreast_skipImportEnd rests₁).bind fun _ _ rests₂ _ => .ok rests₂ ?_
  simp only [SameUnder, ImportDeclaration.unplaced, same, NameUse.name_eq sameSource]

theorem abreast_localName (otherwise : String) :
    Outcome.Abreast r Eq (c.localName otherwise) (c'.localName otherwise) := by
  unfold localName
  refine abreast.name_cases (.ok abreast rfl) (fun past past' rests => ?_) "as"
  exact .lax (.map (.go (abreast_expectName rests)) NameUse.name_eq)

theorem abreast_importSpecifier :
    Outcome.Abreast r (SameUnder ImportSpecifier.unplaced) c.importSpecifier
      c'.importSpecifier := by
  unfold importSpecifier
  refine (abreast_optionalModifier abreast "type").bind fun _ _ rests₁ _ => ?_
  refine (abreast_properName rests₁).andThen fun _ _ rests₂ sameName => ?_
  rw [NameUse.name_eq sameName]
  refine (abreast_localName rests₂ _).bind fun _ _ rests₃ sameLocal => .ok rests₃ ?_
  simp only [SameUnder, ImportSpecifier.unplaced, sameLocal]

theorem abreast_bracedNames {α β : Type} {change : α → β}
    {specifier : (c : Cursor) → Outcome true c α}
    (each : ∀ {c c'}, r.Abreast c c' →
      Outcome.Abreast r (SameUnder change) (specifier c) (specifier c')) :
    Outcome.Abreast r (SameUnder (List.map change)) (c.bracedNames specifier)
      (c'.bracedNames specifier) :=
  (abreast_expectMark abreast .lbrace).andThen fun {opened opened' _ _} _ _ rests _ =>
    Rules.abreast_elements ⟨.lbrace, opened.span⟩ ⟨.lbrace, opened'.span⟩ rfl .rbrace (by decide) id
      (fun _ _ => each) rfl rests _ _

theorem abreast_importedNames :
    Outcome.Abreast r (SameUnder (List.map ImportSpecifier.unplaced)) c.importedNames
      c'.importedNames := by
  unfold importedNames
  refine abreast.mark_cases ?_ (fun past past' rests => ?_) .star (by decide)
  · dsimp only
    rw [abreast.seesMark]
    refine .ite (fun _ => abreast_bracedNames abreast abreast_importSpecifier) fun _ => ?_
    exact .fail abreast (abreast.expected _)
  · dsimp only
    refine rests.name_cases (.go (.fail rests (rests.expected _)))
      (fun word word' behind => ?_) "as"
    exact .go (.go (.map (abreast_expectName behind) fun _ => rfl))

theorem abreast_skipImportType :
    Outcome.Abreast r Eq c.skipImportType c'.skipImportType := by
  by_cases brace : c.kind? = some (.mark .lbrace)
  · have nothing {c : Cursor} (brace : c.kind? = some (.mark .lbrace)) :
        c.skipImportType.stopped = ⟨.ok (), c⟩ := by
      rw [skipImportType, optional_of_kind brace (by simp)]
      split
      · rfl
      · exact stopped_map rfl _
    exact .of_stopped abreast (nothing brace) (nothing (abreast.kind?_eq.trans brace)) rfl
  · unfold skipImportType
    rw [abreast.peek?_one brace]
    refine .ite (fun _ => .ok abreast rfl) fun _ => ?_
    exact .map (abreast_optional abreast _) fun _ => rfl

theorem abreast_importClause :
    Outcome.Abreast r (SameUnder ImportDeclaration.unplaced) c.importClause c'.importClause := by
  unfold importClause
  refine (abreast_skipImportType abreast).bind fun {_ _ d d'} _ _ rests _ => ?_
  have names : Outcome.Abreast r (SameUnder ImportDeclaration.unplaced)
      (d.importedNames.andThen fun names e _ => (e.importSource names).lax)
      (d'.importedNames.andThen fun names e _ => (e.importSource names).lax) :=
    (abreast_importedNames rests).andThen fun _ _ behind same =>
      .lax (abreast_importSource behind same)
  refine rests.next_cases (.fail rests (rests.expected _)) fun past past' step => ?_
  dsimp only
  rw [step.kind]
  split
  · next text isName =>
    have behind := step.abreast (by simp [isName])
    refine behind.mark_cases (.go (abreast_importSource behind rfl))
      (fun comma comma' further => ?_) .comma (by decide)
    refine .go (.go ((abreast_importedNames further).andThen fun _ _ rests same => .lax ?_))
    exact abreast_importSource rests (.cons rfl same)
  · exact names

theorem abreast_importAfter :
    Outcome.Abreast r (SameUnder ImportDeclaration.unplaced) c.importAfter c'.importAfter := by
  unfold importAfter
  refine abreast.next_cases (abreast_importClause abreast) fun past past' step => ?_
  dsimp only
  rw [step.kind]
  split
  · exact .step step fun rests => .map (abreast_skipImportEnd rests) fun _ => rfl
  · exact abreast_importClause abreast

/-! ## Exports -/

theorem abreast_exportedName (otherwise : String) :
    Outcome.Abreast r Eq (c.exportedName otherwise) (c'.exportedName otherwise) := by
  unfold exportedName
  refine abreast.name_cases (.ok abreast rfl) (fun past past' rests => ?_) "as"
  exact .lax (.map (.go (abreast_properName rests)) NameUse.name_eq)

theorem abreast_exportSpecifier :
    Outcome.Abreast r (SameUnder ExportSpecifier.unplaced) c.exportSpecifier
      c'.exportSpecifier := by
  unfold exportSpecifier
  refine (abreast_optionalModifier abreast "type").bind fun _ _ rests₁ _ => ?_
  refine (abreast_properName rests₁).andThen fun _ _ rests₂ sameName => ?_
  rw [NameUse.name_eq sameName]
  refine (abreast_exportedName rests₂ _).bind fun _ _ rests₃ sameExported => .ok rests₃ ?_
  simp only [SameUnder, ExportSpecifier.unplaced, sameExported]

theorem abreast_exportAllAfter :
    Outcome.Abreast r (SameUnder ExportDeclaration.unplaced) c.exportAllAfter
      c'.exportAllAfter := by
  unfold exportAllAfter
  refine Outcome.Abreast.bind (?_ : Outcome.Abreast r Eq _ _) fun _ _ rests₁ sameNamespace => ?_
  · refine abreast.name_cases (.ok abreast rfl) (fun past past' rests => ?_) "as"
    exact .lax (.map (.go (abreast_propertyName rests)) fun _ => rfl)
  refine (abreast_moduleSource rests₁).andThen fun _ _ rests₂ sameSource => ?_
  refine .map (abreast_optionalSemicolon rests₂) fun _ => ?_
  simp only [SameUnder, ExportDeclaration.unplaced, sameNamespace, NameUse.name_eq sameSource]

theorem abreast_exportNames :
    Outcome.Abreast r (SameUnder ExportDeclaration.unplaced) c.exportNames c'.exportNames := by
  unfold exportNames
  refine (abreast_bracedNames abreast abreast_exportSpecifier).andThen
    fun _ _ rests₁ sameSpecifiers => ?_
  dsimp only
  rw [rests₁.seesName]
  refine .ite (fun _ => .lax ?_) fun _ => .map (abreast_optionalSemicolon rests₁) fun _ => ?_
  · refine (abreast_moduleSource rests₁).andThen fun _ _ rests₂ sameSource => ?_
    refine .map (abreast_optionalSemicolon rests₂) fun _ => ?_
    simp only [SameUnder, ExportDeclaration.unplaced, sameSpecifiers, NameUse.name_eq sameSource]
  · simp only [SameUnder, ExportDeclaration.unplaced, sameSpecifiers]

theorem abreast_exportList :
    Outcome.Abreast r (SameUnder ExportDeclaration.unplaced) c.exportList c'.exportList := by
  unfold exportList
  refine abreast.mark_cases (abreast_exportNames abreast) (fun past past' rests => ?_) .star
    (by decide)
  exact .go (abreast_exportAllAfter rests)

/-! ## Bindings -/

theorem abreast_bindingTarget :
    Outcome.Abreast r (SameUnder (Option.map NameUse.unplaced)) c.bindingTarget
      c'.bindingTarget := by
  unfold bindingTarget
  refine abreast.next_cases (.fail abreast (abreast.expected _)) fun past past' step => ?_
  dsimp only
  rw [step.kind]
  split
  · exact .step step fun rests => .ok rests rfl
  · exact .map (abreast_skipGroup abreast) fun _ => rfl
  · exact .map (abreast_skipGroup abreast) fun _ => rfl
  · exact .fail abreast (abreast.expected _)

theorem abreast_binding (start start' : Span) (exported : Bool) :
    Outcome.Abreast r (SameUnder (List.map Item.unplaced)) (c.binding start exported)
      (c'.binding start' exported) := by
  unfold binding
  refine (abreast_bindingTarget abreast).andThen
    fun {target target' _ _} _ _ rests₁ sameTarget => ?_
  refine (abreast_optionalMark rests₁ .bang).bind fun _ _ rests₂ _ => ?_
  refine (abreast_ascription rests₂).bind fun _ _ rests₃ sameType => ?_
  refine (abreast_initial rests₃).bind fun _ _ rests₄ sameInitial => .ok rests₄ ?_
  cases target with
  | none =>
      cases target' with
      | none => rfl
      | some => cases sameTarget
  | some name =>
      cases target' with
      | none => cases sameTarget
      | some name' =>
          have sameName := NameUse.name_eq (Option.some.inj sameTarget)
          simp only [SameUnder, Option.toList_some, List.map_cons, List.map_nil, Item.unplaced,
            ItemForm.unplaced, BindingDeclaration.unplaced, sameName, sameType, sameInitial]

end Imports

theorem abreast_bindings {c c' : Cursor} (abreast : r.Abreast c c') (start start' : Span)
    (exported : Bool) :
    Section.Abreast r (c.bindings start exported) (c'.bindings start' exported) := by
  have first := abreast_binding abreast start start' exported
  have silent := silent_binding start exported c
  have silent' := silent_binding start' exported c'
  rw [bindings.eq_def start, bindings.eq_def start']
  generalize c.binding start exported = binding, c'.binding start' exported = binding'
    at first silent silent'
  obtain ⟨⟨result, d⟩, reaches, moved, errors⟩ := binding
  obtain ⟨⟨result', d'⟩, reaches', moved', errors'⟩ := binding'
  cases (silent : errors = [])
  cases (silent' : errors' = [])
  obtain entered | ⟨rests, results⟩ := first
  · refine .of_entered ?_
    cases result with
    | error => exact entered
    | ok items =>
        dsimp only
        cases d.mark? .comma with
        | none => exact entered.mono (Outcome.reaches _)
        | some past => exact entered.mono (past.reaches.trans (Outcome.reaches _))
  cases results with
  | error same => exact ⟨.inr ⟨rests, .error same⟩, fun _ => ⟨rfl, .nil⟩⟩
  | ok related =>
      dsimp only
      refine rests.mark_cases ?_ (fun past past' behind => ?_) .comma (by decide)
      · refine ⟨(abreast_optionalSemicolon rests).mono fun _ _ _ => trivial,
          fun _ => ⟨related, ?_⟩⟩
        have none (e : Cursor) : e.optionalSemicolon.errors = [] := silent_optionalSemicolon
        change List.Forall₂ _ d.optionalSemicolon.errors d'.optionalSemicolon.errors
        rw [none, none]
        exact .nil
      · have := Nat.lt_trans past.less (Outcome.less_of_moved moved)
        obtain ⟨outcome, recorded⟩ :=
          abreast_bindings behind past.rest.span past'.rest.span exported
        exact ⟨outcome, fun front => ⟨related.append (recorded front).1, (recorded front).2⟩⟩
termination_by c.remaining

section Statements

variable {c c' : Cursor} (abreast : r.Abreast c c')

include abreast

/-! ## Types and other declarations -/

theorem abreast_interfaceDeclaration :
    Outcome.Abreast r (SameUnder InterfaceDeclaration.unplaced) c.interfaceDeclaration
      c'.interfaceDeclaration := by
  unfold interfaceDeclaration
  refine (abreast_expectKeyword abreast .interface_).andThen fun _ _ rests₁ _ => ?_
  refine (abreast_expectName rests₁).andThen fun _ _ rests₂ sameName => ?_
  refine (abreast_skipAnglesIfAny rests₂).bind fun _ _ rests₃ _ => ?_
  refine (abreast_heritageClause rests₃ .extends_).bind fun _ _ rests₄ sameBases => ?_
  refine .lax (.map (abreast_typeMembers rests₄) fun sameMembers => ?_)
  simp only [SameUnder, InterfaceDeclaration.unplaced, NameUse.name_eq sameName, sameBases,
    sameMembers]

theorem abreast_aliasAfter :
    Outcome.Abreast r (SameUnder AliasDeclaration.unplaced) c.aliasAfter c'.aliasAfter := by
  unfold aliasAfter
  refine (abreast_expectName abreast).andThen fun _ _ rests₁ sameName => ?_
  refine (abreast_skipAnglesIfAny rests₁).bind fun _ _ rests₂ _ => ?_
  refine (abreast_expectMark rests₂ .eq).lax.bind fun _ _ rests₃ _ => ?_
  refine (abreast_type rests₃).lax.bind fun _ _ rests₄ sameType => ?_
  refine .map (abreast_optionalSemicolon rests₄) fun _ => ?_
  simp only [SameUnder, AliasDeclaration.unplaced, NameUse.name_eq sameName, sameType]

theorem abreast_skipEnum : Outcome.Abreast r Eq c.skipEnum c'.skipEnum := by
  unfold skipEnum
  refine (abreast_expectKeyword abreast .enum_).andThen fun _ _ rests₁ _ => ?_
  refine (abreast_expectName rests₁).lax.bind fun _ _ rests₂ _ => ?_
  rw [rests₂.seesMark]
  refine .ite (fun _ => ?_) fun _ => .fail rests₂ (rests₂.expected _)
  exact .lax (.map (abreast_skipGroup rests₂) fun _ => rfl)

section Classes

variable {decorators decorators' : List Decorator}
  (sameDecorators : SameUnder (List.map Decorator.unplaced) decorators decorators')

include sameDecorators

theorem abreast_classItem (start start' : Span) (exported isAbstract : Bool) :
    Section.Abreast r (c.classItem start exported decorators isAbstract)
      (c'.classItem start' exported decorators' isAbstract) :=
  .ofRecording ((abreast_classDeclaration abreast sameDecorators isAbstract).mapAt fun same =>
    same_itemFrom .classType (congrArg ItemForm.classType same))

/-! ## Default exports -/

omit abreast sameDecorators in
theorem same_defaultItems {α : Type} (form : α → ItemForm) {declaration declaration' : α}
    (same : SameUnder ItemForm.unplaced (form declaration) (form declaration'))
    {name name' : String} (sameName : name = name') (start start' span span' : Span)
    (d d' : Cursor) :
    SameUnder (List.map Item.unplaced)
      (itemFrom start true form declaration d ++ [.defaultExport ⟨name, span⟩])
      (itemFrom start' true form declaration' d' ++ [.defaultExport ⟨name', span'⟩]) := by
  refine (same_itemFrom form same).append ?_
  rw [sameName]
  rfl

theorem abreast_defaultClass (isClass : c.kind? = some (.keyword .class_)) (start start' : Span)
    (isAbstract : Bool) :
    Section.Abreast r (c.defaultClass start decorators isAbstract)
      (c'.defaultClass start' decorators' isAbstract) := by
  unfold defaultClass
  refine abreast.next_cases (.ofSkipped (.fail abreast (abreast.expected _)) .fail .fail)
    fun past past' step => ?_
  have rests := step.abreast fun brace => by simp [step.kind?, brace] at isClass
  dsimp only
  rw [rests.seesSomeName]
  refine .ite (fun _ => .ofRecording ?_) fun _ => .ofSkipped (.go (abreast_skipClassTail rests))
    (.go (silent_skipClassTail _)) (.go (silent_skipClassTail _))
  refine (abreast_classDeclaration abreast sameDecorators isAbstract).mapAt fun same => ?_
  exact same_defaultItems .classType (congrArg ItemForm.classType same)
    (ClassDeclaration.name_eq same) _ _ _ _ _ _

omit sameDecorators

theorem abreast_defaultValue (start start' : Span) :
    Section.Abreast r (c.defaultValue start) (c'.defaultValue start') := by
  unfold defaultValue
  refine .ofOutcome (Outcome.Abreast.mapAt
    (?_ : Outcome.Abreast r (SameUnder BindingDeclaration.unplaced) _ _) fun same =>
      same_itemFrom .binding (congrArg ItemForm.binding same)) (.mapAt silent_valueStatement)
    (.mapAt silent_valueStatement)
  refine (abreast_expression abreast).andThen fun _ _ rests sameValue => ?_
  refine .map (abreast_optionalSemicolon rests) fun _ => ?_
  simp only [SameUnder, BindingDeclaration.unplaced, Option.map_some, sameValue]

theorem abreast_defaultName (start start' : Span) :
    Section.Abreast r (c.defaultName start) (c'.defaultName start') := by
  unfold defaultName
  refine abreast.next_cases (abreast_defaultValue abreast _ _) fun past past' step => ?_
  dsimp only
  rw [step.kind]
  split
  · next text isName =>
    have rests := step.abreast (by simp [isName])
    rw [rests.kind?_eq]
    refine .ite (fun _ => ?_) fun _ => abreast_defaultValue abreast _ _
    exact .ofOutcome (.map (.go (abreast_optionalSemicolon rests)) fun _ => rfl)
      (.map (.go silent_optionalSemicolon)) (.map (.go silent_optionalSemicolon))
  · exact abreast_defaultValue abreast _ _

theorem abreast_interfaceItem (start start' : Span) (exported : Bool) :
    Section.Abreast r (.ofOutcome (c.interfaceDeclaration.mapAt
      (itemFrom start exported .interfaceType)))
      (.ofOutcome (c'.interfaceDeclaration.mapAt (itemFrom start' exported .interfaceType))) :=
  .ofOutcome ((abreast_interfaceDeclaration abreast).mapAt fun same =>
    same_itemFrom .interfaceType (congrArg ItemForm.interfaceType same))
      (.mapAt silent_interfaceDeclaration) (.mapAt silent_interfaceDeclaration)

include sameDecorators

theorem abreast_defaultAfter (start start' : Span) :
    Section.Abreast r (c.defaultAfter start decorators) (c'.defaultAfter start' decorators') := by
  have name : Section.Abreast r (c.defaultName start) (c'.defaultName start') :=
    abreast_defaultName abreast _ _
  unfold defaultAfter
  by_cases brace : c.kind? = some (.mark .lbrace)
  · rw [abreast.kind?_eq, brace]
    exact name
  rw [abreast.kind?_eq, abreast.peek?_one brace]
  split
  · next isAbstract isClass =>
      refine abreast.next_cases name fun past past' step => ?_
      have rests := step.abreast fun kind => brace (step.kind?.trans (congrArg some kind))
      exact .goSection (abreast_defaultClass rests sameDecorators (step.peek?_one ▸ isClass) _ _ _)
  · next isClass => exact abreast_defaultClass abreast sameDecorators isClass _ _ _
  · refine .ofOutcome ((abreast_interfaceDeclaration abreast).mapAt fun same => ?_)
      (.mapAt silent_interfaceDeclaration) (.mapAt silent_interfaceDeclaration)
    exact same_defaultItems .interfaceType (congrArg ItemForm.interfaceType same)
      (InterfaceDeclaration.name_eq same) _ _ _ _ _ _
  · exact .ofSkipped (abreast_skipFunction abreast) silent_skipFunction silent_skipFunction
  · exact name

/-! ## Statements -/

theorem Past.abreast_statement {past : c.Past} {past' : c'.Past} (step : r.Step past past')
    (start start' : Span) (exported : Bool) :
    Section.Abreast r (past.statement start exported decorators)
      (past'.statement start' exported decorators') := by
  have skip : Section.Abreast r (.ofSkipped past.skipStatement) (.ofSkipped past'.skipStatement) :=
    .ofSkipped (Past.abreast_skipStatement abreast step) (Past.silent_skipStatement _)
      (Past.silent_skipStatement _)
  unfold Past.statement
  dsimp only
  rw [step.kind]
  by_cases brace : past.token.kind = .mark .lbrace
  · rw [brace]
    exact skip
  have rests := step.abreast brace
  have bindings : Section.Abreast r (past.goSection (past.rest.bindings start exported))
      (past'.goSection (past'.rest.bindings start' exported)) :=
    .goSection (abreast_bindings rests _ _ _)
  rw [rests.kind?_eq, rests.seesSomeName]
  split
  · refine .ite (fun _ => skip) fun _ => .ofOutcome (.mapAt (.go (abreast_importAfter rests)) ?_)
      (.mapAt (.go silent_importAfter)) (.mapAt (.go silent_importAfter))
    exact fun same => same_itemFrom .importing (congrArg ItemForm.importing same)
  · exact .ite (fun _ => .ofSkipped (.go (abreast_skipEnum rests)) (.go silent_skipEnum)
      (.go silent_skipEnum)) fun _ => bindings
  · exact bindings
  · exact bindings
  · exact abreast_classItem abreast sameDecorators _ _ _ _
  · exact abreast_interfaceItem abreast _ _ _
  · exact .ofSkipped (abreast_skipFunction abreast) silent_skipFunction silent_skipFunction
  · exact .ofSkipped (abreast_skipEnum abreast) silent_skipEnum silent_skipEnum
  · exact .ofSkipped (.go (.ok rests rfl)) (.go .ok) (.go .ok)
  · exact .ite (fun _ => .goSection (abreast_classItem rests sameDecorators _ _ _ _)) fun _ => skip
  · refine .ite (fun _ => .ofOutcome (.mapAt (.go (abreast_aliasAfter rests)) ?_)
      (.mapAt (.go silent_aliasAfter)) (.mapAt (.go silent_aliasAfter))) fun _ => skip
    exact fun same => same_itemFrom .typeAlias (congrArg ItemForm.typeAlias same)
  · exact .ite (fun _ => .ofSkipped (.go (abreast_skipFunction rests)) (.go silent_skipFunction)
      (.go silent_skipFunction)) fun _ => skip
  · exact skip

theorem abreast_statementIfAny (start start' : Span) (exported : Bool) :
    Section.Abreast r (c.statementIfAny start exported decorators)
      (c'.statementIfAny start' exported decorators') := by
  unfold statementIfAny
  refine abreast.next_cases (.ofSkipped (.ok abreast rfl) .ok .ok) fun past past' step => ?_
  exact .lax (Past.abreast_statement abreast sameDecorators step _ _ _)

theorem abreast_exportAfter (start start' : Span) :
    Section.Abreast r (c.exportAfter start decorators) (c'.exportAfter start' decorators') := by
  unfold exportAfter
  refine .bindSection (abreast_decorators abreast) silent_decorators silent_decorators
    fun {_ _ d d'} rests₁ same => ?_
  have all := sameDecorators.append same
  refine rests₁.keyword_cases ?_ (fun past past' rests₂ => ?_) .default_
  · dsimp only
    refine .bindSection (abreast_optional_if rests₁ _ (by simp) fun other => by
      rw [rests₁.peek?_one other]) (.ite (silent_optional _) .ok) (.ite (silent_optional _) .ok)
        fun {_ _ e e'} rests₂ _ => ?_
    rw [rests₂.seesMark, rests₂.seesMark]
    refine .ite (fun _ => .lax (.ofOutcome ?_ (.mapAt silent_exportList)
      (.mapAt silent_exportList))) fun _ => abreast_statementIfAny rests₂ all _ _ _
    exact (abreast_exportList rests₂).mapAt fun same =>
      same_itemFrom .exporting (congrArg ItemForm.exporting same)
  · exact .lax (.goSection (abreast_defaultAfter rests₂ all _ _))

theorem abreast_decoratedStatement (start start' : Span) :
    Section.Abreast r (c.decoratedStatement start decorators)
      (c'.decoratedStatement start' decorators') := by
  unfold decoratedStatement
  refine abreast.keyword_cases (abreast_statementIfAny abreast sameDecorators _ _ _)
    (fun past past' rests => ?_) .export_
  exact .lax (.goSection (abreast_exportAfter rests sameDecorators _ _))

omit sameDecorators

/-- A statement does the same in both files, or it passes the brace. -/
theorem Past.abreast_item {past : c.Past} {past' : c'.Past} (step : r.Step past past') :
    Section.Abreast r past.item past'.item := by
  unfold Past.item
  rw [step.kind]
  split
  · next isAt =>
      have rests := step.abreast (by simp [isAt])
      refine .goSection (.bindSection (Rules.abreast_decoratorAfter (Rules.abreast_all _ _) rests
        _ _ _ _).lax (.lax (silent_decoratorAfter _)) (.lax (silent_decoratorAfter _))
          fun rests₁ sameFirst => ?_)
      refine .bindSection (abreast_decorators rests₁) silent_decorators silent_decorators
        fun rests₂ sameOthers => ?_
      exact abreast_decoratedStatement rests₂ (sameFirst.cons sameOthers) _ _
  · next isExport =>
      exact .goSection (abreast_exportAfter (step.abreast (by simp [isExport])) rfl _ _)
  · exact Past.abreast_statement abreast rfl step _ _ _

end Classes

end Statements

/-! ## Statements that skip the body -/

section Bodies

variable {b c c' : Cursor} (isBody : b.remaining = r.gap.length) (abreast : r.Abreast c c')

include isBody abreast

theorem abreast_functionItem_body (skips : c.FunctionSkips b) :
    Section.Behind r (.ofSkipped c.skipFunction) (.ofSkipped c'.skipFunction) :=
  .ofSkipped (abreast_skipFunction_body isBody abreast skips) silent_skipFunction
    silent_skipFunction

variable {decorators decorators' : List Decorator}
  (sameDecorators : SameUnder (List.map Decorator.unplaced) decorators decorators')

include sameDecorators

theorem abreast_classItem_body {isAbstract : Bool} (skips : c.ClassSkips decorators isAbstract b)
    (start start' : Span) (exported : Bool) :
    Section.Behind r (c.classItem start exported decorators isAbstract)
      (c'.classItem start' exported decorators' isAbstract) :=
  .ofRecording ((abreast_classDeclaration_body abreast isBody sameDecorators skips).mapAt
    fun same => same_itemFrom .classType (congrArg ItemForm.classType same))

theorem abreast_defaultClass_body {isAbstract : Bool}
    (isClass : c.kind? = some (.keyword .class_))
    (skips : c.DefaultClassSkips decorators isAbstract b) (start start' : Span) :
    Section.Behind r (c.defaultClass start decorators isAbstract)
      (c'.defaultClass start' decorators' isAbstract) := by
  obtain ⟨past, isNext, isNamed, skips⟩ := skips
  obtain ⟨past', step⟩ := abreast.exists_step isNext
  have rests := step.abreast fun brace => by simp [step.kind?, brace] at isClass
  unfold defaultClass
  rw [isNext, step.isNext']
  dsimp only
  rw [rests.seesSomeName, if_pos isNamed, if_pos isNamed]
  refine .ofRecording ((abreast_classDeclaration_body abreast isBody sameDecorators skips).mapAt
    fun same => ?_)
  exact same_defaultItems .classType (congrArg ItemForm.classType same)
    (ClassDeclaration.name_eq same) _ _ _ _ _ _

theorem abreast_defaultAfter_body (skips : c.DefaultSkips decorators b) (start start' : Span) :
    Section.Behind r (c.defaultAfter start decorators) (c'.defaultAfter start' decorators') := by
  unfold defaultAfter
  cases skips with
  | @abstractClass past isNext kind second skips =>
      obtain ⟨past', step⟩ := abreast.exists_step isNext
      have other : c.kind? ≠ some (.mark .lbrace) := by simp [kind]
      have rests := step.abreast fun brace => other (step.kind?.trans (congrArg some brace))
      rw [abreast.kind?_eq, abreast.peek?_one other, kind, second, isNext, step.isNext']
      exact .goSection (abreast_defaultClass_body isBody rests sameDecorators
        (step.peek?_one ▸ second) skips _ _)
  | classWord kind skips =>
      rw [abreast.kind?_eq, kind]
      exact abreast_defaultClass_body isBody abreast sameDecorators kind skips _ _
  | functionWord kind skips =>
      rw [abreast.kind?_eq, kind]
      exact abreast_functionItem_body isBody abreast skips

theorem Past.abreast_statement_body {past : c.Past} {past' : c'.Past} (step : r.Step past past')
    (skips : past.StatementSkips decorators b) (start start' : Span) (exported : Bool) :
    Section.Behind r (past.statement start exported decorators)
      (past'.statement start' exported decorators') := by
  have behind {kind : Kind} (isKind : past.token.kind = kind) (other : kind ≠ .mark .lbrace) :
      r.Abreast past.rest past'.rest := step.abreast fun brace => other (isKind.symm.trans brace)
  unfold Past.statement
  dsimp only
  rw [step.kind]
  cases skips with
  | classWord kind skips =>
      rw [kind]
      exact abreast_classItem_body isBody abreast sameDecorators skips _ _ _
  | abstractClass kind second skips =>
      have rests := behind kind (by decide)
      rw [kind, rests.kind?_eq, second]
      exact .goSection (abreast_classItem_body isBody rests sameDecorators skips _ _ _)
  | functionWord kind skips =>
      rw [kind]
      exact abreast_functionItem_body isBody abreast skips
  | asyncFunction kind second skips =>
      have rests := behind kind (by decide)
      rw [kind, rests.kind?_eq, second]
      exact .ofSkipped (.go (abreast_skipFunction_body isBody rests skips))
        (.go silent_skipFunction) (.go silent_skipFunction)

theorem abreast_statementIfAny_body (skips : c.StatementSkips decorators b) (start start' : Span)
    (exported : Bool) :
    Section.Behind r (c.statementIfAny start exported decorators)
      (c'.statementIfAny start' exported decorators') := by
  obtain ⟨past, isNext, skips⟩ := skips
  obtain ⟨past', step⟩ := abreast.exists_step isNext
  unfold statementIfAny
  rw [isNext, step.isNext']
  exact .lax (Past.abreast_statement_body isBody abreast sameDecorators step skips _ _ _)

theorem abreast_exportAfter_body (skips : c.ExportSkips decorators b) (start start' : Span) :
    Section.Behind r (c.exportAfter start decorators) (c'.exportAfter start' decorators') := by
  unfold exportAfter
  refine .of_bindSection isBody (abreast_decorators abreast) silent_decorators silent_decorators
    skips
    (fun skips => skips.remaining_le) fun {_ _ d d' _} rests₁ same skips => ?_
  have all := sameDecorators.append same
  dsimp only
  obtain ⟨noDefault, noDefault'⟩ | ⟨past, past', isDefault, isDefault', rests₂⟩ :=
    rests₁.keyword_or .default_
  · obtain ⟨past, isDefault, -⟩ | ⟨-, skips⟩ := skips
    · cases noDefault.symm.trans isDefault
    rw [noDefault, noDefault']
    refine .of_bindSection isBody (abreast_optional_if rests₁ _ (by simp) fun other => by
      rw [rests₁.peek?_one other]) (.ite (silent_optional _) .ok) (.ite (silent_optional _) .ok)
        skips (fun skips => skips.2.remaining_le)
      fun {_ _ e e' _} rests₂ _ skips => ?_
    rw [rests₂.seesMark, rests₂.seesMark, skips.1]
    exact abreast_statementIfAny_body isBody rests₂ all skips.2 _ _ _
  · obtain ⟨other, isOther, skips⟩ | ⟨noDefault, -⟩ := skips
    · cases isDefault.symm.trans isOther
      rw [isDefault, isDefault']
      exact .lax (.goSection (abreast_defaultAfter_body isBody rests₂ all skips _ _))
    · cases noDefault.symm.trans isDefault

theorem abreast_decoratedStatement_body (skips : c.DecoratedSkips decorators b)
    (start start' : Span) :
    Section.Behind r (c.decoratedStatement start decorators)
      (c'.decoratedStatement start' decorators') := by
  unfold decoratedStatement
  obtain ⟨noExport, noExport'⟩ | ⟨past, past', isExport, isExport', rests⟩ :=
    abreast.keyword_or .export_
  · obtain ⟨past, isExport, -⟩ | ⟨-, skips⟩ := skips
    · cases noExport.symm.trans isExport
    rw [noExport, noExport']
    exact abreast_statementIfAny_body isBody abreast sameDecorators skips _ _ _
  · obtain ⟨other, isOther, skips⟩ | ⟨noExport, -⟩ := skips
    · cases isExport.symm.trans isOther
      rw [isExport, isExport']
      exact .lax (.goSection (abreast_exportAfter_body isBody rests sameDecorators skips _ _))
    · cases noExport.symm.trans isExport

omit sameDecorators

/-- A statement that skips the body does the same in both files behind it. -/
theorem Past.abreast_item_body {past : c.Past} {past' : c'.Past} (step : r.Step past past')
    (skips : past.ItemSkips b) : Section.Behind r past.item past'.item := by
  unfold Past.item
  rw [step.kind]
  cases skips with
  | decorated kind skips =>
      have rests := step.abreast (by simp [kind])
      rw [kind]
      refine .goSection (.of_bindSection isBody (Rules.abreast_decoratorAfter
        (Rules.abreast_all _ _) rests _ _ _ _).lax (.lax (silent_decoratorAfter _))
        (.lax (silent_decoratorAfter _)) skips
        (fun skips => skips.remaining_le fun _ _ _ skips => skips.remaining_le)
        fun rests₁ sameFirst skips => ?_)
      refine .of_bindSection isBody (abreast_decorators rests₁) silent_decorators silent_decorators
        skips (fun skips => skips.remaining_le) fun rests₂ sameOthers skips => ?_
      exact abreast_decoratedStatement_body isBody rests₂ (sameFirst.cons sameOthers) skips _ _
  | exported kind skips =>
      rw [kind]
      exact .goSection
        (abreast_exportAfter_body isBody (step.abreast (by simp [kind])) rfl skips _ _)
  | plain noDecorator noExport skips =>
      have statement := Past.abreast_statement_body isBody abreast rfl step skips past.token.span
        past'.token.span false
      split
      · next kind => exact absurd kind noDecorator
      · next kind => exact absurd kind noExport
      · exact statement

end Bodies

/-! ## Recovery -/

/-- Where a declaration may start is found alike, or past the brace. -/
theorem abreast_skipToItem {c c' : Cursor} (abreast : r.Abreast c c') :
    r.Entered (skipToItem c).val ∨ r.Abreast (skipToItem c).val (skipToItem c').val := by
  unfold skipToItem
  refine abreast.next_cases (.inr abreast) fun past past' step => ?_
  dsimp only
  rw [step.kind]
  have := past.less
  have atMost (bracket : Bracket) :=
    (restOfGroup bracket past.token.span past.rest).reaches.remaining_le
  split
  · exact .inr abreast
  split
  · next kind => exact .inr (step.abreast (by simp [kind]))
  obtain rests | ⟨-, entered⟩ := step.rests
  · split
    · next bracket _ =>
        -- a group is passed as a whole
        obtain entered | ⟨behind, -⟩ := abreast_restOfGroup rests bracket past.token.span
          past'.token.span
        · exact .inl (entered.mono (skipToItem _).property)
        · have := atMost bracket
          exact abreast_skipToItem behind
    · exact abreast_skipToItem rests
  · split
    · next bracket _ =>
        exact .inl ((entered.mono (Outcome.reaches _)).mono (skipToItem _).property)
    · exact .inl (entered.mono (skipToItem _).property)
termination_by c.remaining

/-- A statement that stops where it starts is passed by a token before recovery. -/
theorem recoverItem_of_eq {start c : Cursor} (past : start.Past) (reaches : start.Reaches c)
    (same : c.remaining = start.remaining) :
    (recoverItem past c reaches).val = (skipToItem past.rest).val := by
  rw [recoverItem, dif_pos same]

theorem recoverItem_of_ne {start c : Cursor} (past : start.Past) (reaches : start.Reaches c)
    (further : c.remaining ≠ start.remaining) :
    (recoverItem past c reaches).val = (skipToItem c).val := by
  rw [recoverItem, dif_neg further]

theorem abreast_recoverItem {start start' c c' : Cursor} {past : start.Past}
    {past' : start'.Past} (starts : r.Abreast start start') (step : r.Step past past')
    (abreast : r.Abreast c c') (reaches : start.Reaches c) (reaches' : start'.Reaches c') :
    r.Entered (recoverItem past c reaches).val ∨
      r.Abreast (recoverItem past c reaches).val (recoverItem past' c' reaches').val := by
  by_cases same : c.remaining = start.remaining
  · rw [recoverItem_of_eq past reaches same,
      recoverItem_of_eq past' reaches' ((abreast.remaining_eq_iff starts).2 same)]
    obtain rests | ⟨-, entered⟩ := step.rests
    · exact abreast_skipToItem rests
    · exact .inl (entered.mono (skipToItem _).property)
  · rw [recoverItem_of_ne past reaches same, recoverItem_of_ne past' reaches' fun same' =>
      same ((abreast.remaining_eq_iff starts).1 same')]
    exact abreast_skipToItem abreast

/-- A statement that stopped past the brace is recovered from behind it. -/
theorem entered_recoverItem {start c : Cursor} (past : start.Past)
    (starts : r.gap.length ≤ start.remaining) (entered : r.Entered c)
    (reaches : start.Reaches c) : r.Entered (recoverItem past c reaches).val := by
  have further : c.remaining ≠ start.remaining :=
    Nat.ne_of_lt (Nat.lt_of_lt_of_le entered starts)
  rw [recoverItem_of_ne past reaches further]
  exact entered.mono (skipToItem c).property

/-! ## Files -/

/-- Two statements give the same items and errors, spans aside. -/
structure Past.SameItem (r : Revision) {c c' : Cursor} (past : c.Past) (past' : c'.Past) :
    Prop where
  items : SameUnder (List.map Item.unplaced) past.item.items past'.item.items
  errors : List.Forall₂ r.SameError past.item.errors past'.item.errors
  error : List.Forall₂ r.SameError past.itemError past'.itemError

/-- A file goes on at cursors that are abreast, with the same items and errors of the statement,
spans aside, or it is past the brace. -/
theorem abreast_itemEnd {c c' : Cursor} {past : c.Past} {past' : c'.Past}
    (abreast : r.Abreast c c') (step : r.Step past past') :
    r.Entered past.itemEnd.val ∨
      r.Abreast past.itemEnd.val past'.itemEnd.val ∧ past.SameItem r past' := by
  obtain ⟨same, recorded⟩ := Past.abreast_item abreast step
  have sameItem (error : List.Forall₂ r.SameError past.itemError past'.itemError)
      (front : ¬r.Entered past.item.outcome.rest) : past.SameItem r past' :=
    ⟨(recorded front).1, (recorded front).2, error⟩
  unfold Past.itemError at sameItem
  unfold Past.itemEnd
  generalize past.item.outcome = outcome, past'.item.outcome = outcome' at same sameItem
  obtain ⟨⟨result, d⟩, reaches, moved⟩ := outcome
  obtain ⟨⟨result', d'⟩, reaches', moved'⟩ := outcome'
  obtain entered | ⟨rests, results⟩ := same
  · refine .inl ?_
    cases result with
    | ok => exact entered
    | error => exact entered_recoverItem past abreast.le_remaining entered reaches
  have front : ¬r.Entered d := Nat.not_lt_of_le rests.le_remaining
  cases results with
  | ok => exact .inr ⟨rests, sameItem .nil front⟩
  | error same =>
      refine (abreast_recoverItem abreast step rests reaches reaches').imp_right fun ends => ?_
      exact ⟨ends, sameItem (.cons same .nil) front⟩

/-- Behind a statement that skips the body the file goes on at cursors that are abreast. -/
theorem abreast_itemEnd_body {b c c' : Cursor} {past : c.Past} {past' : c'.Past}
    (isBody : b.remaining = r.gap.length) (abreast : r.Abreast c c') (step : r.Step past past')
    (skips : past.ItemSkips b) :
    r.after.Abreast past.itemEnd.val past'.itemEnd.val ∧ past.SameItem r past' := by
  obtain ⟨⟨entered, entered', both⟩, items, errors⟩ :=
    Past.abreast_item_body isBody abreast step skips
  have sameItem (error : List.Forall₂ r.SameError past.itemError past'.itemError) :
      past.SameItem r past' := ⟨items, errors, error⟩
  unfold Past.itemError at sameItem
  unfold Past.itemEnd
  generalize past.item.outcome = outcome, past'.item.outcome = outcome'
    at entered entered' both sameItem
  obtain ⟨⟨result, d⟩, reaches, moved⟩ := outcome
  obtain ⟨⟨result', d'⟩, reaches', moved'⟩ := outcome'
  obtain ⟨rests, results⟩ := both.resolve_left Revision.not_entered_after
  cases results with
  | ok => exact ⟨rests, sameItem .nil⟩
  | error same =>
      refine ⟨?_, sameItem (.cons same.of_after .nil)⟩
      -- the statement did not stop where it starts, but behind the body
      dsimp only
      rw [recoverItem_of_ne past reaches
          (Nat.ne_of_lt (Nat.lt_of_lt_of_le entered abreast.le_remaining)),
        recoverItem_of_ne past' reaches'
          (Nat.ne_of_lt (Nat.lt_of_lt_of_le entered' abreast.le_remaining'))]
      exact (abreast_skipToItem rests).resolve_left Revision.not_entered_after

end Cursor

namespace SourceUnit

open Revision

variable {r : Revision} {b c c' : Cursor}

/-- The rests of two files declare the same items and have the same errors, spans aside. -/
structure SameRest (r : Revision) (c c' : Cursor) : Prop where
  items : SameUnder (List.map Item.unplaced) (after c).1 (after c').1
  errors : List.Forall₂ r.SameError (after c).2 (after c').2

theorem SameRest.next {past : c.Past} {past' : c'.Past} (step : r.Step past past')
    (same : past.SameItem r past') (others : SameRest r past.itemEnd.val past'.itemEnd.val) :
    SameRest r c c' := by
  refine ⟨?_, ?_⟩ <;> rw [after_next step.isNext, after_next step.isNext']
  · exact same.items.append others.items
  · exact List.rel_append same.errors (List.rel_append same.error others.errors)

/-- Behind the body nothing differs any more. -/
theorem sameRest_behind {c c' : Cursor} (abreast : r.after.Abreast c c') :
    SameRest r.after c c' := by
  obtain ⟨isEnd, isEnd'⟩ | ⟨past, past', step⟩ := abreast.next_or
  · refine ⟨?_, ?_⟩ <;> rw [after_end isEnd, after_end isEnd']
    exact .nil
  · obtain ⟨ends, same⟩ := (abreast_itemEnd abreast step).resolve_left not_entered_after
    have := past.itemEnd.property.2
    exact .next step same (sameRest_behind ends)
termination_by c.remaining

/-- A file that skips the body declares the same as its revision, with the same errors. The
induction is over the statements in front of the one that skips it. -/
theorem sameRest_of_skips (isBody : b.remaining = r.gap.length) (skips : FileSkips b c)
    (abreast : r.Abreast c c') : SameRest r c c' := by
  induction skips generalizing c' with
  | here isNext skips =>
      obtain ⟨past', step⟩ := abreast.exists_step isNext
      obtain ⟨ends, same⟩ := abreast_itemEnd_body isBody abreast step skips
      have behind := sameRest_behind ends
      exact .next step same ⟨behind.items, behind.errors.imp fun _ _ same => same.of_after⟩
  | @later c past isNext further ih =>
      obtain ⟨past', step⟩ := abreast.exists_step isNext
      have front : ¬r.Entered past.itemEnd.val :=
        Nat.not_lt_of_le (isBody ▸ further.remaining_le)
      obtain ⟨ends, same⟩ := (abreast_itemEnd abreast step).resolve_left front
      exact .next step same (ih ends)

end SourceUnit

end InjectionCheck
