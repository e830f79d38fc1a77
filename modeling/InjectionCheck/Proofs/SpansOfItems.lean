import InjectionCheck.Grammar.SourceUnit
import InjectionCheck.Proofs.SpansOfClasses

/-!
# Where items stand

Each item lies in the text and what it declares within its span, and each error lies in the
text with what it points back at (`SourceUnit.lie_after`).
-/

set_option autoImplicit false

namespace InjectionCheck

open Cursor Outcome

variable {cuts : Nat → Prop}

/-! ## Trees -/

section

variable (cuts : Nat → Prop) (low high : Nat)

/-- The names and the source of an import lie between two places. -/
def ImportDeclaration.Lies (declaration : ImportDeclaration) : Prop :=
  declaration.sourceSpan.Lies cuts low high ∧
    ∀ specifier ∈ declaration.specifiers, specifier.span.Lies cuts low high

/-- The names and the source of an export lie between two places. -/
def ExportDeclaration.Lies (declaration : ExportDeclaration) : Prop :=
  declaration.sourceSpan.Lies cuts low high ∧
    ∀ specifier ∈ declaration.specifiers, specifier.span.Lies cuts low high

/-- The name, type and value of a binding lie between two places. -/
def BindingDeclaration.Lies (declaration : BindingDeclaration) : Prop :=
  declaration.nameSpan.Lies cuts low high ∧
    (∀ type ∈ declaration.type, type.Lies cuts low high) ∧
    ∀ value ∈ declaration.initial, value.Lies cuts low high

/-- The name, bases and members of an interface lie between two places. -/
def InterfaceDeclaration.Lies (declaration : InterfaceDeclaration) : Prop :=
  declaration.nameSpan.Lies cuts low high ∧
    (∀ base ∈ declaration.bases, base.span.Lies cuts low high) ∧
    ∀ member ∈ declaration.members, member.Lies cuts low high

/-- The name and the type of an alias lie between two places. -/
def AliasDeclaration.Lies (declaration : AliasDeclaration) : Prop :=
  declaration.nameSpan.Lies cuts low high ∧ declaration.type.Lies cuts low high

/-- What an item declares lies between two places. -/
def ItemForm.Lies : ItemForm → Prop
  | .importing declaration => declaration.Lies cuts low high
  | .exporting declaration => declaration.Lies cuts low high
  | .binding declaration => declaration.Lies cuts low high
  | .classType declaration => declaration.Lies cuts low high
  | .interfaceType declaration => declaration.Lies cuts low high
  | .typeAlias declaration => declaration.Lies cuts low high

/-- An item lies between two places, and what it declares within its span. -/
def Item.Lies (item : Item) : Prop :=
  item.span.Lies cuts low high ∧ item.form.Lies cuts item.span.start item.span.stop

end

/-- What an item declares, in wider places. -/
theorem ItemForm.Lies.mono {low low' high high' : Nat} {form : ItemForm}
    (lies : form.Lies cuts low high) (lower : low' ≤ low) (higher : high ≤ high') :
    form.Lies cuts low' high' := by
  cases form with
  | importing declaration | exporting declaration =>
    exact ⟨lies.1.mono lower higher, fun specifier member =>
      (lies.2 specifier member).mono lower higher⟩
  | binding declaration =>
    exact ⟨lies.1.mono lower higher, fun type member => (lies.2.1 type member).mono lower higher,
      fun value member => (lies.2.2 value member).mono lower higher⟩
  | classType declaration => exact ClassDeclaration.Lies.mono lies lower higher
  | interfaceType declaration =>
    exact ⟨lies.1.mono lower higher, fun base member => (lies.2.1 base member).mono lower higher,
      fun inner member => (lies.2.2 inner member).mono lower higher⟩
  | typeAlias declaration => exact ⟨lies.1.mono lower higher, lies.2.mono lower higher⟩

theorem Item.Lies.mono {low low' high high' : Nat} {item : Item} (lies : item.Lies cuts low high)
    (lower : low' ≤ low) (higher : high ≤ high') : item.Lies cuts low' high' :=
  ⟨lies.1.mono lower higher, lies.2⟩

/-- Items that a rule gives lie before the last place that it passed. -/
abbrev Item.AllBefore (cuts : Nat → Prop) (items : List Item) (d : Cursor) : Prop :=
  ∀ item ∈ items, item.Lies cuts 0 d.previousSpan.stop

/-! ## Sections -/

/-- The items of a statement lie in the text, and so do its errors. -/
structure Section.Sound {moves : Bool} {c : Cursor} (cuts : Nat → Prop)
    (statement : Section moves c) : Prop where
  items : ∀ item ∈ statement.items, item.Lies cuts 0 c.stop.start
  outcome : statement.outcome.Sound cuts

theorem Cursor.Placed.previousSpan_stop_le {c : Cursor} (placed : c.Placed cuts) :
    c.previousSpan.stop ≤ c.stop.start := by
  have := placed.previousSpan_le
  have := placed.stands_span.ordered
  have := placed.stands_span.le_high
  omega

namespace Section.Sound

variable {moves : Bool} {c : Cursor}

theorem ofOutcome (placed : c.Placed cuts) {outcome : Outcome moves c (List Item)}
    (gives : outcome.Yields cuts (Item.AllBefore cuts)) : Sound cuts (.ofOutcome outcome) := by
  refine ⟨?_, .map gives.sound⟩
  have inside : ∀ d, c.Reaches d → d.previousSpan.stop ≤ c.stop.start := fun d reaches => by
    have onward : Onward cuts c d := ⟨placed, reaches⟩
    rw [← onward.stop_eq]
    exact onward.placed_end.previousSpan_stop_le
  obtain ⟨⟨result, rest⟩, reaches, moved, errors⟩ := outcome
  cases result with
  | ok items =>
    have lie : Item.AllBefore cuts items rest := gives.result
    exact fun item member => (lie item member).mono (Nat.le_refl _) (inside rest reaches)
  | error error => simp [Section.ofOutcome, Outcome.result]

theorem ofSkipped {outcome : Outcome moves c Unit} (sound : outcome.Sound cuts) :
    Sound cuts (.ofSkipped outcome) :=
  ⟨by simp [Section.ofSkipped], sound⟩

theorem lax {statement : Section moves c} (sound : Sound cuts statement) :
    Sound cuts statement.lax :=
  ⟨sound.items, .lax sound.outcome⟩

theorem go {past : c.Past} (beyond : Beyond cuts c past.rest) {statement : Section moves past.rest}
    (sound : Sound cuts statement) : Sound cuts (past.goSection statement) := by
  obtain ⟨items, outcome⟩ := sound
  rw [beyond.stop_eq] at items
  exact ⟨items, .go beyond outcome⟩

theorem bind {α : Type} {good : α → Cursor → Prop} (placed : c.Placed cuts)
    {outcome : Outcome false c α} {next : (value : α) → (d : Cursor) → Section moves d}
    (first : outcome.Yields cuts good)
    (second : ∀ {value d}, Onward cuts c d → d.Placed cuts → good value d →
      Sound cuts (next value d)) :
    Sound cuts (outcome.bindSection next) := by
  obtain ⟨⟨result, rest⟩, reaches, moved, errors⟩ := outcome
  cases result with
  | ok value =>
    have onward : Onward cuts c rest := ⟨placed, reaches⟩
    obtain ⟨items, sound⟩ := second onward onward.placed_end first.result
    rw [onward.stop_eq] at items
    exact ⟨items, (Yields.following onward reaches sound).recording first.errors⟩
  | error error =>
    exact ⟨by simp [bindSection], (Yields.failed first.result).recording first.errors⟩

theorem ite {condition : Prop} [Decidable condition] {first second : Section moves c}
    (isTrue : condition → Sound cuts first) (isFalse : ¬condition → Sound cuts second) :
    Sound cuts (if condition then first else second) := by
  split
  · next holds => exact isTrue holds
  · next fails => exact isFalse fails

end Section.Sound

namespace Cursor

variable {c d : Cursor} {start : Span}

/-- An item that starts with a token that is passed. -/
theorem Opened.lies_item (opened : Opened cuts start d) (placed : d.Placed cuts) {form : ItemForm}
    {exported : Bool} (lies : form.Lies cuts start.start d.previousSpan.stop) :
    (Item.mk form exported (d.spanFrom start)).Lies cuts 0 d.previousSpan.stop := by
  refine ⟨(opened.lies_spanFrom placed).mono (Nat.zero_le _) (Nat.le_refl _), ?_⟩
  rwa [opened.spanFrom_eq]

theorem Opened.lie_itemFrom {α : Type} (opened : Opened cuts start d) (placed : d.Placed cuts)
    {exported : Bool} {form : α → ItemForm} {declaration : α}
    (lies : (form declaration).Lies cuts start.start d.previousSpan.stop) :
    Item.AllBefore cuts (itemFrom start exported form declaration d) d := by
  simpa [Item.AllBefore, itemFrom] using opened.lies_item placed lies

/-! ## Imports -/

theorem yields_moduleSource (placed : c.Placed cuts) :
    Yields cuts (fun source d => source.span.Lies cuts c.span.start d.previousSpan.stop)
      c.moduleSource := by
  unfold moduleSource
  refine placed.name_cases (.fail_expected placed) (fun past _ beyond => ?_) "from"
  have placed₁ := beyond.placed_end
  dsimp only
  refine placed₁.next_cases (.go beyond (.fail_expected placed₁)) fun source span further => ?_
  dsimp only
  split
  · refine .go beyond (.go further (.ok ?_))
    rw [span]
    exact further.lies_span.mono beyond.span_start_le (Nat.le_refl _)
  · exact .go beyond (.fail_expected placed₁)

theorem sound_skipImportAttributes (placed : c.Placed cuts) :
    Sound cuts c.skipImportAttributes := by
  unfold skipImportAttributes
  refine placed.next_cases (.ok trivial) fun past _ beyond => ?_
  dsimp only
  split
  · refine .ite (fun _ => ?_) fun _ => .ok trivial
    exact .lax (.go beyond (.map (sound_skipGroup beyond.placed_end)))
  · exact .ok trivial

theorem sound_skipImportEnd (placed : c.Placed cuts) : Sound cuts c.skipImportEnd := by
  unfold skipImportEnd
  exact (sound_skipImportAttributes placed).bind placed fun _ _ placed _ =>
    sound_optionalSemicolon placed

theorem yields_importSource {low : Nat} {specifiers : List ImportSpecifier}
    (after : low ≤ c.span.start)
    (before : ∀ specifier ∈ specifiers, specifier.span.Lies cuts low c.previousSpan.stop)
    (placed : c.Placed cuts) :
    Yields cuts (fun declaration d => declaration.Lies cuts low d.previousSpan.stop)
      (c.importSource specifiers) := by
  unfold importSource
  refine (yields_moduleSource placed).andThen placed fun {source d} _ step₁ placed₁ lies => ?_
  refine (sound_skipImportEnd placed₁).bind placed₁ fun {_ e} _ step₂ placed₂ _ => .ok ⟨?_, ?_⟩
  · exact lies.mono after (by grind)
  · exact fun specifier member => (before specifier member).mono (Nat.le_refl _) (by grind)

theorem sound_localName (otherwise : String) (placed : c.Placed cuts) :
    Sound cuts (c.localName otherwise) := by
  unfold localName
  refine placed.name_cases (.ok trivial) (fun past _ beyond => ?_) "as"
  exact .lax (.map (.go beyond (yields_expectName beyond.placed_end).sound))

theorem yields_importSpecifier (placed : c.Placed cuts) :
    Yields cuts (fun specifier d => specifier.span.Lies cuts c.span.start d.previousSpan.stop)
      c.importSpecifier := by
  unfold importSpecifier
  refine (sound_optionalModifier placed _).bind placed fun {_ d} _ step₁ placed₁ _ => ?_
  refine (yields_properName placed₁).andThen placed₁ fun {imported e} _ step₂ placed₂ span => ?_
  refine (sound_localName _ placed₂).bind placed₂ fun {_ f} _ step₃ placed₃ _ => .ok ?_
  rw [span]
  have whole := (step₂.opened.onward step₃).lies_spanFrom placed₃
  exact whole.mono step₁.span_start_le (Nat.le_refl _)

/-- Names in braces, of which each lies between the places of its rule. -/
theorem yields_bracedNames {α : Type} {place : α → Span}
    {specifier : (c : Cursor) → Outcome true c α}
    (each : ∀ {c : Cursor}, c.Placed cuts →
      Yields cuts (fun value d => (place value).Lies cuts c.span.start d.previousSpan.stop)
        (specifier c))
    (placed : c.Placed cuts) :
    Yields cuts (fun values d =>
      ∀ value ∈ values, (place value).Lies cuts c.span.start d.previousSpan.stop)
      (c.bracedNames specifier) := by
  unfold bracedNames
  refine (yields_expectMark placed .lbrace).andThen placed fun _ beyond placed span => ?_
  refine (Rules.yields_group (fun low high value => (place value).Lies cuts low high) .mono
    (fun _ => each) placed (span ▸ beyond.stands_span) (fun _ lies => lies) _).mono placed
      fun _ _ _ lie => ?_
  exact fun value member => (lie value member).mono beyond.span_start_le (Nat.le_refl _)

theorem yields_importedNames (placed : c.Placed cuts) :
    Yields cuts
      (fun names d => ∀ name ∈ names, name.span.Lies cuts c.span.start d.previousSpan.stop)
      c.importedNames := by
  unfold importedNames
  refine placed.mark_cases ?_ (fun past _ beyond => ?_) .star
  · exact .ite (fun _ => yields_bracedNames yields_importSpecifier placed) fun _ =>
      .fail_expected placed
  · have placed₁ := beyond.placed_end
    dsimp only
    refine placed₁.name_cases (.go beyond (.fail_expected placed₁)) (fun word _ further => ?_) "as"
    have placed₂ := further.placed_end
    exact .go beyond (.go further (.map ((yields_expectName placed₂).mono placed₂ (by simp))))

theorem sound_skipImportType (placed : c.Placed cuts) : Sound cuts c.skipImportType :=
  .ite (fun _ => .ok trivial) fun _ => .map (sound_optional placed _)

theorem yields_importClause (placed : c.Placed cuts) :
    Yields cuts (fun declaration d => declaration.Lies cuts c.span.start d.previousSpan.stop)
      c.importClause := by
  unfold importClause
  refine (sound_skipImportType placed).bind placed fun {_ d} _ step₁ placed₁ _ => ?_
  refine placed₁.next_cases (.fail_expected placed₁) fun past span step₂ => ?_
  have placed₂ := step₂.placed_end
  dsimp only
  split
  · -- The first name is that of the default export.
    have default {e : Cursor} (onward : Onward cuts past.rest e) :
        past.token.span.Lies cuts c.span.start e.previousSpan.stop := by
      rw [span]
      exact step₂.lies_span.mono step₁.span_start_le onward.previousSpan_stop_le
    refine placed₂.mark_cases ?_ (fun comma _ step₃ => ?_) .comma
    · refine .go step₂ (yields_importSource (by grind) ?_ placed₂)
      simpa using default placed₂.refl
    · have placed₃ := step₃.placed_end
      refine .go step₂ (.go step₃ ((yields_importedNames placed₃).andThen placed₃
        fun {names e} _ step₄ placed₄ lie => .lax (yields_importSource (by grind) ?_ placed₄)))
      refine List.forall_mem_cons.2 ⟨default (step₃.trans step₄).toOnward, fun name member => ?_⟩
      exact (lie name member).mono (by grind) (Nat.le_refl _)
  · refine (yields_importedNames placed₁).andThen placed₁
      fun {names e} _ step₃ placed₃ lie => .lax (yields_importSource (by grind) ?_ placed₃)
    exact fun name member => (lie name member).mono (by grind) (Nat.le_refl _)

theorem yields_importAfter (placed : c.Placed cuts) :
    Yields cuts (fun declaration d => declaration.Lies cuts c.span.start d.previousSpan.stop)
      c.importAfter := by
  unfold importAfter
  have clause := yields_importClause placed
  refine placed.next_cases clause fun past span beyond => ?_
  have placed₁ := beyond.placed_end
  dsimp only
  split
  · refine .go beyond (.map ((sound_skipImportEnd placed₁).mono placed₁
      fun _ _ onward _ => ⟨?_, ?_⟩))
    · rw [span]
      exact beyond.lies_span.mono (Nat.le_refl _) onward.previousSpan_stop_le
    · simp
  · exact clause

/-! ## Exports -/

theorem sound_exportedName (otherwise : String) (placed : c.Placed cuts) :
    Sound cuts (c.exportedName otherwise) := by
  unfold exportedName
  refine placed.name_cases (.ok trivial) (fun past _ beyond => ?_) "as"
  exact .lax (.map (.go beyond (yields_properName beyond.placed_end).sound))

theorem yields_exportSpecifier (placed : c.Placed cuts) :
    Yields cuts (fun specifier d => specifier.span.Lies cuts c.span.start d.previousSpan.stop)
      c.exportSpecifier := by
  unfold exportSpecifier
  refine (sound_optionalModifier placed _).bind placed fun {_ d} _ step₁ placed₁ _ => ?_
  refine (yields_properName placed₁).andThen placed₁ fun {exported e} _ step₂ placed₂ span => ?_
  refine (sound_exportedName _ placed₂).bind placed₂ fun {_ f} _ step₃ placed₃ _ => .ok ?_
  rw [span]
  have whole := (step₂.opened.onward step₃).lies_spanFrom placed₃
  exact whole.mono step₁.span_start_le (Nat.le_refl _)

theorem yields_exportAllAfter (placed : c.Placed cuts) :
    Yields cuts (fun declaration d => declaration.Lies cuts c.span.start d.previousSpan.stop)
      c.exportAllAfter := by
  unfold exportAllAfter
  refine .bind placed (?name : Sound cuts _) fun _ step₁ placed₁ _ => ?_
  case name =>
    refine placed.name_cases (.ok trivial) (fun past _ beyond => ?_) "as"
    exact .lax (.map (.go beyond (yields_propertyName beyond.placed_end).sound))
  refine (yields_moduleSource placed₁).andThen placed₁ fun _ step₂ placed₂ lies => .map ?_
  refine (sound_optionalSemicolon placed₂).mono placed₂ fun _ e step₃ _ => ⟨?_, by simp⟩
  exact lies.mono step₁.span_start_le step₃.previousSpan_stop_le

/-- The last token that is passed lies between the places of a rule. -/
theorem Beyond.lies_previousSpan (beyond : Beyond cuts c d) :
    d.previousSpan.Lies cuts c.span.start d.previousSpan.stop := by
  have opened := beyond.opened
  have placed := beyond.placed_end
  obtain ⟨behind, ahead, stop⟩ := d
  cases behind with
  | nil =>
    have := opened.nonempty
    have := opened.stop_le
    simp only [previousSpan, Span.origin, List.head?_nil, Option.map_none, Option.getD_none] at this
    omega
  | cons last behind =>
    have lies := placed.tokens last (by simp)
    exact ⟨opened.start_le, lies.nonempty, Nat.le_refl _, lies.cut_start, lies.cut_stop⟩

theorem yields_exportNames (placed : c.Placed cuts) :
    Yields cuts (fun declaration d => declaration.Lies cuts c.span.start d.previousSpan.stop)
      c.exportNames := by
  unfold exportNames
  refine (yields_bracedNames yields_exportSpecifier placed).andThen placed
    fun {specifiers d} _ step₁ placed₁ lie => ?_
  have specifiersLie {e : Cursor} (onward : Onward cuts d e) :
      ∀ specifier ∈ specifiers, specifier.span.Lies cuts c.span.start e.previousSpan.stop :=
    fun specifier member =>
      (lie specifier member).mono (Nat.le_refl _) onward.previousSpan_stop_le
  refine .ite (fun _ => .lax ?_) fun _ => .map ?_
  · refine (yields_moduleSource placed₁).andThen placed₁ fun _ step₂ placed₂ lies => .map ?_
    refine (sound_optionalSemicolon placed₂).mono placed₂ fun _ e step₃ _ => ⟨?_, ?_⟩
    · exact lies.mono step₁.span_start_le step₃.previousSpan_stop_le
    · exact specifiersLie (step₂.trans_onward step₃).toOnward
  · refine (sound_optionalSemicolon placed₁).mono placed₁ fun _ e step₂ _ =>
      ⟨?_, specifiersLie step₂⟩
    exact step₁.lies_previousSpan.mono (Nat.le_refl _) step₂.previousSpan_stop_le

theorem yields_exportList (placed : c.Placed cuts) :
    Yields cuts (fun declaration d => declaration.Lies cuts c.span.start d.previousSpan.stop)
      c.exportList := by
  unfold exportList
  refine placed.mark_cases (yields_exportNames placed) (fun past _ beyond => .go beyond ?_) .star
  have placed₁ := beyond.placed_end
  refine (yields_exportAllAfter placed₁).mono placed₁ fun declaration _ _ lies => ?_
  have lies : (ItemForm.exporting declaration).Lies cuts _ _ := lies
  exact lies.mono beyond.span_start_le (Nat.le_refl _)

end Cursor

/-- The export of a name as the default of its file. -/
theorem Item.lies_defaultExport {high : Nat} {name : NameUse} (lies : name.span.Lies cuts 0 high) :
    (Item.defaultExport name).Lies cuts 0 high := by
  have whole : name.span.Lies cuts name.span.start name.span.stop :=
    ⟨Nat.le_refl _, lies.nonempty, Nat.le_refl _, lies.cut_start, lies.cut_stop⟩
  exact ⟨lies, whole, by simpa [Item.defaultExport] using whole⟩

namespace Cursor

variable {c d : Cursor} {start : Span}

/-! ## Bindings -/

theorem yields_bindingTarget (placed : c.Placed cuts) :
    Yields cuts (fun name d => ∀ each ∈ name, each.span.Lies cuts c.span.start d.previousSpan.stop)
      c.bindingTarget := by
  unfold bindingTarget
  refine placed.next_cases (.fail_expected placed) fun past span beyond => ?_
  dsimp only
  split
  · refine .go beyond (.ok ?_)
    simpa [span] using beyond.lies_span
  · exact .map ((sound_skipGroup placed).mono placed (by simp))
  · exact .map ((sound_skipGroup placed).mono placed (by simp))
  · exact .fail_expected placed

theorem yields_binding (begun : Begun cuts start c) (exported : Bool) (placed : c.Placed cuts) :
    Yields cuts (Item.AllBefore cuts) (c.binding start exported) := by
  unfold binding
  refine (yields_bindingTarget placed).andThen placed
    fun {target c₁} _ step₁ placed₁ targetLies => ?_
  refine (sound_optionalMark placed₁ _).bind placed₁ fun {_ c₂} _ step₂ placed₂ _ => ?_
  refine (yields_ascription placed₂).bind placed₂ fun {type c₃} _ step₃ placed₃ typeLies => ?_
  refine (yields_initial placed₃).bind placed₃ fun {value c₄} _ step₄ placed₄ valueLies => .ok ?_
  have before := begun.start_le_span placed
  intro item among
  obtain ⟨name, member, rfl⟩ := List.mem_map.1 among
  refine Opened.lies_item (by grind) placed₄ ⟨?_, ?_, ?_⟩
  · exact (targetLies name (Option.mem_toList.1 member)).mono before (by grind)
  · exact fun type member => (typeLies type member).mono (by grind) (by grind)
  · exact fun value member => (valueLies value member).mono (by grind) (Nat.le_refl _)

theorem sound_bindings {c : Cursor} {start : Span} (begun : Begun cuts start c) (exported : Bool)
    (placed : c.Placed cuts) : (bindings start exported c).Sound cuts := by
  unfold bindings
  have gives := yields_binding begun exported placed
  generalize c.binding start exported = outcome at gives ⊢
  obtain ⟨⟨result, d⟩, reaches, moved, errors⟩ := outcome
  cases result with
  | ok items =>
    have lie : Item.AllBefore cuts items d := gives.result
    have less : d.remaining < c.remaining := less_of_moved moved
    have beyond : Beyond cuts c d := ⟨⟨placed, reaches⟩, less⟩
    have placed₁ := beyond.placed_end
    have here : ∀ item ∈ items, item.Lies cuts 0 c.stop.start := fun item member =>
      (lie item member).mono (Nat.le_refl _) (beyond.stop_eq ▸ placed₁.previousSpan_stop_le)
    dsimp only
    refine placed₁.mark_cases ?_ (fun past _ further => ?_) .comma
    · exact ⟨here, (Yields.seenFrom beyond.toOnward reaches less
        (sound_optionalSemicolon placed₁)).recording gives.errors⟩
    · have := past.less
      obtain ⟨later, outcome⟩ := sound_bindings (.inr rfl) exported further.placed_end
      have stop : past.rest.stop = c.stop := (beyond.trans further).stop_eq
      rw [stop] at later
      refine ⟨?_, (Yields.seenFrom beyond.toOnward reaches less
        (.go further outcome)).recording gives.errors⟩
      exact fun item member => (List.mem_append.1 member).elim (here item) (later item)
  | error error => exact ⟨by simp, (Yields.failed gives.result).recording gives.errors⟩
termination_by c.remaining

/-! ## Types and other declarations -/

theorem yields_interfaceDeclaration (placed : c.Placed cuts) :
    Yields cuts (fun declaration d => declaration.Lies cuts c.span.start d.previousSpan.stop)
      c.interfaceDeclaration := by
  unfold interfaceDeclaration
  refine (yields_expectKeyword placed _).andThen placed fun {_ c₁} _ step₁ placed₁ _ => ?_
  refine (yields_expectName placed₁).andThen placed₁ fun {name c₂} _ step₂ placed₂ span => ?_
  refine (sound_skipAnglesIfAny placed₂).bind placed₂ fun {_ c₃} _ step₃ placed₃ _ => ?_
  refine (yields_heritageClause _ placed₃).bind placed₃
    fun {bases c₄} _ step₄ placed₄ basesLie => ?_
  refine .lax (.map ((yields_typeMembers placed₄).mono placed₄
    fun members c₅ step₅ lie => ⟨?_, ?_, ?_⟩))
  · dsimp only
    rw [span]
    exact step₂.lies_span.mono (by grind) (by grind)
  · exact fun base member => (basesLie base member).mono (by grind) (by grind)
  · exact fun member among => (lie member among).mono (by grind) (Nat.le_refl _)

theorem yields_aliasAfter (placed : c.Placed cuts) :
    Yields cuts (fun declaration d => declaration.Lies cuts c.span.start d.previousSpan.stop)
      c.aliasAfter := by
  unfold aliasAfter
  refine (yields_expectName placed).andThen placed fun {name c₁} _ step₁ placed₁ span => ?_
  refine (sound_skipAnglesIfAny placed₁).bind placed₁ fun {_ c₂} _ step₂ placed₂ _ => ?_
  refine (yields_expectMark placed₂ _).lax.bind placed₂ fun {_ c₃} _ step₃ placed₃ _ => ?_
  refine (yields_type placed₃).lax.bind placed₃ fun {type c₄} _ step₄ placed₄ lies => .map ?_
  refine (sound_optionalSemicolon placed₄).mono placed₄ fun _ c₅ step₅ _ => ⟨?_, ?_⟩
  · dsimp only
    rw [span]
    exact step₁.lies_span.mono (by grind) (by grind)
  · exact lies.mono (by grind) (by grind)

theorem sound_skipEnum (placed : c.Placed cuts) : Sound cuts c.skipEnum := by
  unfold skipEnum
  refine (yields_expectKeyword placed _).andThen placed fun _ _ placed _ => ?_
  refine (yields_expectName placed).lax.bind placed fun _ _ placed _ => ?_
  exact .ite (fun _ => .lax (.map (sound_skipGroup placed))) fun _ => .fail_expected placed

section

variable {decorators : List Decorator} (begun : Begun cuts start c)
  (before : ∀ decorator ∈ decorators, decorator.Lies cuts start.start c.previousSpan.stop)
  (placed : c.Placed cuts)

include begun before placed

/-- A class, as an item that starts with its decorators. -/
theorem yields_classFrom (exported isAbstract : Bool) :
    (c.classDeclaration decorators isAbstract).Yields cuts fun declaration d =>
      Item.AllBefore cuts (itemFrom start exported .classType declaration d) d ∧
        declaration.nameSpan.Lies cuts start.start d.previousSpan.stop := by
  have gives := yields_classDeclaration (begun.start_le_span placed) before isAbstract placed
  refine gives.passing placed fun declaration d beyond lies => ⟨?_, lies.name⟩
  exact (begun.beyond beyond).lie_itemFrom beyond.placed_end lies

theorem sound_classItem (exported isAbstract : Bool) :
    (c.classItem start exported decorators isAbstract).Sound cuts := by
  have gives := yields_classFrom begun before placed exported isAbstract
  exact .ofOutcome placed (.mapAt (gives.mono placed fun _ _ _ lie => lie.1))

/-! ## Default exports -/

omit begun before placed in
/-- Items with the default export of a name that stands before their end. -/
theorem lie_withDefault {items : List Item} {name : String} {nameSpan : Span} {low : Nat}
    (lie : Item.AllBefore cuts items d) (lies : nameSpan.Lies cuts low d.previousSpan.stop) :
    Item.AllBefore cuts (items ++ [.defaultExport ⟨name, nameSpan⟩]) d := by
  intro item member
  rcases List.mem_append.1 member with here | there
  · exact lie item here
  · obtain rfl := List.mem_singleton.1 there
    exact Item.lies_defaultExport (lies.mono (Nat.zero_le _) (Nat.le_refl _))

theorem sound_defaultClass (isAbstract : Bool) :
    (c.defaultClass start decorators isAbstract).Sound cuts := by
  unfold defaultClass
  refine placed.next_cases (.ofSkipped (.fail_expected placed)) fun past _ beyond => ?_
  refine .ite (fun _ => .ofOutcome placed (.mapAt ?_)) fun _ => ?_
  · exact (yields_classFrom begun before placed true isAbstract).mono placed fun _ _ _ lie =>
      lie_withDefault lie.1 lie.2
  · exact .ofSkipped (.go beyond (sound_skipClassTail beyond.placed_end))

omit before in
theorem sound_defaultValue : (c.defaultValue start).Sound cuts := by
  unfold defaultValue
  refine .ofOutcome placed (.mapAt ?_)
  have before := begun.start_le_span placed
  refine (yields_expression placed).andThen placed fun {value d} _ step₁ placed₁ lies => .map ?_
  refine (sound_optionalSemicolon placed₁).mono placed₁ fun _ e step₂ _ => ?_
  have wider := lies.mono before step₂.previousSpan_stop_le
  refine (begun.beyond (step₁.trans_onward step₂)).lie_itemFrom step₂.placed_end ⟨?_, by simp, ?_⟩
  · exact wider.span
  · simpa using wider

omit before in
theorem sound_defaultName : (c.defaultName start).Sound cuts := by
  unfold defaultName
  have value := sound_defaultValue begun placed
  refine placed.next_cases value fun past span beyond => ?_
  have placed₁ := beyond.placed_end
  dsimp only
  split
  · refine .ite (fun _ => .ofOutcome placed ?_) fun _ => value
    refine .map (.go beyond ((sound_optionalSemicolon placed₁).mono placed₁ fun _ d onward _ => ?_))
    intro item member
    obtain rfl := List.mem_singleton.1 member
    refine Item.lies_defaultExport ?_
    rw [span]
    exact beyond.lies_span.mono (Nat.zero_le _) onward.previousSpan_stop_le
  · exact value

theorem sound_defaultAfter : (c.defaultAfter start decorators).Sound cuts := by
  unfold defaultAfter
  split
  · refine placed.next_cases (sound_defaultName begun placed) fun past _ beyond => .go beyond ?_
    exact sound_defaultClass (begun.onward beyond.toOnward)
      (fun decorator member =>
        (before decorator member).mono (Nat.le_refl _) beyond.previousSpan_stop_le)
      beyond.placed_end true
  · exact sound_defaultClass begun before placed false
  · refine .ofOutcome placed (.mapAt ?_)
    refine (yields_interfaceDeclaration placed).passing placed fun declaration d beyond lies => ?_
    have lies : (ItemForm.interfaceType declaration).Lies cuts _ _ := lies
    have wider := lies.mono (begun.start_le_span placed) (Nat.le_refl _)
    exact lie_withDefault ((begun.beyond beyond).lie_itemFrom beyond.placed_end wider) wider.1
  · exact .ofSkipped (sound_skipFunction placed)
  · exact sound_defaultName begun placed

end

/-! ## Statements -/

/-- An item that is the outcome of one rule. -/
theorem sound_itemFrom {α : Type} (begun : Begun cuts start c) (placed : c.Placed cuts)
    {outcome : Outcome true c α} {exported : Bool} {form : α → ItemForm}
    (gives : outcome.Yields cuts fun value d =>
      (form value).Lies cuts c.span.start d.previousSpan.stop) :
    Section.Sound cuts (.ofOutcome (outcome.mapAt (itemFrom start exported form))) := by
  refine .ofOutcome placed (.mapAt (gives.passing placed fun value d beyond lies => ?_))
  refine (begun.beyond beyond).lie_itemFrom beyond.placed_end ?_
  exact lies.mono (begun.start_le_span placed) (Nat.le_refl _)

/-- The same of a rule past the next token. -/
theorem sound_itemPast {α : Type} {past : c.Past} (begun : Begun cuts start c)
    (beyond : Beyond cuts c past.rest) {outcome : Outcome true past.rest α} {exported : Bool}
    {form : α → ItemForm}
    (gives : outcome.Yields cuts fun value d =>
      (form value).Lies cuts past.rest.span.start d.previousSpan.stop) :
    Section.Sound cuts (.ofOutcome ((past.go outcome).mapAt (itemFrom start exported form))) := by
  refine sound_itemFrom begun beyond.placed (.go beyond (gives.mono beyond.placed_end
    fun _ _ _ lies => ?_))
  exact lies.mono beyond.span_start_le (Nat.le_refl _)

theorem Past.sound_statement {past : c.Past} {decorators : List Decorator}
    (span : past.token.span = c.span) (beyond : Beyond cuts c past.rest)
    (begun : Begun cuts start c)
    (before : ∀ decorator ∈ decorators, decorator.Lies cuts start.start c.previousSpan.stop)
    (exported : Bool) : (past.statement start exported decorators).Sound cuts := by
  have placed := beyond.placed
  have placed₁ := beyond.placed_end
  have skipped : Section.Sound cuts (.ofSkipped past.skipStatement) :=
    .ofSkipped (sound_skipStatement span beyond)
  have bindings := Section.Sound.go beyond
    (sound_bindings (begun.onward beyond.toOnward) exported placed₁)
  unfold statement
  dsimp only
  split
  · exact .ite (fun _ => skipped) fun _ => sound_itemPast begun beyond (yields_importAfter placed₁)
  · exact .ite (fun _ => .ofSkipped (.go beyond (sound_skipEnum placed₁))) fun _ => bindings
  · exact bindings
  · exact bindings
  · exact sound_classItem begun before placed exported false
  · exact sound_itemFrom begun placed (yields_interfaceDeclaration placed)
  · exact .ofSkipped (sound_skipFunction placed)
  · exact .ofSkipped (sound_skipEnum placed)
  · exact .ofSkipped (.go beyond (.ok trivial))
  · refine .ite (fun _ => .go beyond ?_) fun _ => skipped
    exact sound_classItem (begun.onward beyond.toOnward)
      (fun decorator member =>
        (before decorator member).mono (Nat.le_refl _) beyond.previousSpan_stop_le)
      placed₁ exported true
  · exact .ite (fun _ => sound_itemPast begun beyond (yields_aliasAfter placed₁)) fun _ => skipped
  · exact .ite (fun _ => .ofSkipped (.go beyond (sound_skipFunction placed₁))) fun _ => skipped
  · exact skipped

section

variable {decorators : List Decorator} (opened : Opened cuts start c)
  (before : ∀ decorator ∈ decorators, decorator.Lies cuts start.start c.previousSpan.stop)
  (placed : c.Placed cuts)

include opened before placed

theorem sound_statementIfAny (exported : Bool) :
    (c.statementIfAny start exported decorators).Sound cuts := by
  unfold statementIfAny
  refine placed.next_cases (.ofSkipped (.ok trivial)) fun past span beyond => .lax ?_
  exact Past.sound_statement span beyond (.inl opened) before exported

theorem sound_exportAfter : (c.exportAfter start decorators).Sound cuts := by
  unfold exportAfter
  have first := yields_decorators start.start placed (opened.start_le_span placed)
  refine .bind placed first fun {more d} step₁ placed₁ lie => ?_
  have opened₁ := opened.onward step₁
  have all : ∀ decorator ∈ decorators ++ more,
      decorator.Lies cuts start.start d.previousSpan.stop := by
    intro decorator member
    rcases List.mem_append.1 member with here | there
    · exact (before decorator here).mono (Nat.le_refl _) step₁.previousSpan_stop_le
    · exact lie decorator there
  have later {e : Cursor} (onward : Onward cuts d e) :
      ∀ decorator ∈ decorators ++ more, decorator.Lies cuts start.start e.previousSpan.stop :=
    fun decorator member => (all decorator member).mono (Nat.le_refl _) onward.previousSpan_stop_le
  dsimp only
  refine placed₁.keyword_cases ?_ (fun past _ beyond => ?_) .default_
  · have word : Sound cuts (if d.peek? 1 = some (.mark .lbrace) then
        d.optional (· = .name "type") else .ok false) :=
      .ite (fun _ => sound_optional placed₁ _) fun _ => .ok trivial
    refine .bind placed₁ word fun {_ e} step₂ placed₂ _ => ?_
    have opened₂ := opened₁.onward step₂
    refine .ite (fun _ => .lax ?_) fun _ => sound_statementIfAny opened₂ (later step₂) placed₂ true
    exact sound_itemFrom (.inl opened₂) placed₂ (yields_exportList placed₂)
  · refine .lax (.go beyond (sound_defaultAfter ?_ (later beyond.toOnward) beyond.placed_end))
    exact .inl (opened₁.onward beyond.toOnward)

theorem sound_decoratedStatement : (c.decoratedStatement start decorators).Sound cuts := by
  unfold decoratedStatement
  refine placed.keyword_cases (sound_statementIfAny opened before placed false)
    (fun past _ beyond => ?_) .export_
  refine .lax (.go beyond (sound_exportAfter (opened.onward beyond.toOnward) ?_ beyond.placed_end))
  exact fun decorator member =>
    (before decorator member).mono (Nat.le_refl _) beyond.previousSpan_stop_le

end

theorem Past.sound_item {past : c.Past} (span : past.token.span = c.span)
    (beyond : Beyond cuts c past.rest) : past.item.Sound cuts := by
  have placed₁ := beyond.placed_end
  have opened : Opened cuts past.token.span past.rest := span ▸ beyond.opened
  unfold item
  split
  · refine .go beyond (.bind placed₁ (Rules.yields_decoratorAfter (Rules.give_all _) opened _
      placed₁).lax fun {first d} step₁ placed₂ firstLies => ?_)
    have opened₁ := opened.onward step₁
    have more := yields_decorators past.token.span.start placed₂
      (opened₁.start_le_span placed₂)
    refine .bind placed₂ more fun {others e} step₂ placed₃ lie => ?_
    refine sound_decoratedStatement (opened₁.onward step₂)
      (List.forall_mem_cons.2 ⟨?_, lie⟩) placed₃
    exact firstLies.mono (Nat.le_refl _) step₂.previousSpan_stop_le
  · exact .go beyond (sound_exportAfter opened (by simp) placed₁)
  · exact sound_statement span beyond (.inr span) (by simp) false

end Cursor

end InjectionCheck
