import InjectionCheck.Proofs.SpansOfExpressions

/-!
# Where classes and their members stand

The parts of a class lie in the text in their order, and so do the errors of the members that do
not parse, which the class records (`yields_membersAfter`).
-/

set_option autoImplicit false

namespace InjectionCheck

open Cursor Outcome

variable {cuts : Nat → Prop}

/-! ## Trees -/

/-- A constructor lies between two places, and its parameters within its span. -/
def Constructor.Lies (cuts : Nat → Prop) (low high : Nat) (member : Constructor) : Prop :=
  member.span.Lies cuts low high ∧
    ∀ parameter ∈ member.parameters, parameter.Lies cuts member.span.start member.span.stop

/-- A property lies between two places, and its type within its span. -/
def PropertyMember.Lies (cuts : Nat → Prop) (low high : Nat) (member : PropertyMember) : Prop :=
  member.span.Lies cuts low high ∧
    ∀ type ∈ member.type, type.Lies cuts member.span.start member.span.stop

/-- A method lies between two places, and its parameters and result within its span. -/
def MethodMember.Lies (cuts : Nat → Prop) (low high : Nat) (member : MethodMember) : Prop :=
  member.span.Lies cuts low high ∧
    (∀ parameter ∈ member.parameters,
      parameter.Lies cuts member.span.start member.span.stop) ∧
    ∀ type ∈ member.result, type.Lies cuts member.span.start member.span.stop

/-- A member of a class lies between two places, and its parts within its span. -/
def ClassMember.Lies (cuts : Nat → Prop) (low high : Nat) : ClassMember → Prop
  | .constructor member => member.Lies cuts low high
  | .property member => member.Lies cuts low high
  | .method member => member.Lies cuts low high

/-- The parts of a class lie between two places. -/
structure ClassDeclaration.Lies (cuts : Nat → Prop) (low high : Nat)
    (declaration : ClassDeclaration) : Prop where
  name : declaration.nameSpan.Lies cuts low high
  decorators : ∀ decorator ∈ declaration.decorators, decorator.Lies cuts low high
  base : ∀ base ∈ declaration.base, base.span.Lies cuts low high
  implemented : ∀ name ∈ declaration.implemented, name.span.Lies cuts low high
  members : ∀ member ∈ declaration.members, member.Lies cuts low high

theorem ClassMember.Lies.mono {low low' high high' : Nat} {member : ClassMember}
    (lies : member.Lies cuts low high) (lower : low' ≤ low) (higher : high ≤ high') :
    member.Lies cuts low' high' := by
  cases member <;> exact ⟨lies.1.mono lower higher, lies.2⟩

theorem ClassDeclaration.Lies.mono {low low' high high' : Nat} {declaration : ClassDeclaration}
    (lies : declaration.Lies cuts low high) (lower : low' ≤ low) (higher : high ≤ high') :
    declaration.Lies cuts low' high' where
  name := lies.name.mono lower higher
  decorators decorator member := (lies.decorators decorator member).mono lower higher
  base base member := (lies.base base member).mono lower higher
  implemented name member := (lies.implemented name member).mono lower higher
  members member among := (lies.members member among).mono lower higher

/-! ## Parts of a class -/

namespace Cursor

variable {c : Cursor}

theorem yields_decorators (low : Nat) (placed : c.Placed cuts) (after : low ≤ c.span.start) :
    Yields cuts (fun decorators d => ∀ each ∈ decorators, each.Lies cuts low d.previousSpan.stop)
      c.decorators := by
  simp only [← Decorator.lieAll_iff]
  exact Rules.yields_decorators (Rules.give_all c) c.le_self placed after (by simp)

theorem yields_parameters (placed : c.Placed cuts) :
    Yields cuts (fun parameters d => ∀ each ∈ parameters,
      each.Lies cuts c.span.start d.previousSpan.stop) c.parameters := by
  simp only [← Parameter.lieAll_iff]
  exact Rules.yields_parameters (Rules.give_all c) c.le_self placed

theorem yields_typeMembers (placed : c.Placed cuts) :
    Yields cuts (fun members d => ∀ each ∈ members, each.Lies cuts c.span.start d.previousSpan.stop)
      c.typeMembers := by
  simp only [← TypeMember.lieAll_iff]
  exact Rules.yields_typeMembers (Rules.give_all c) c.le_self placed

theorem sound_skipCallableTail (placed : c.Placed cuts) : Sound cuts c.skipCallableTail :=
  Rules.sound_skipCallableTail (Rules.give_all c) c.le_self placed

theorem sound_skipFunction (placed : c.Placed cuts) : Sound cuts c.skipFunction :=
  Rules.sound_skipFunction (Rules.give_all c) c.le_self placed

theorem yields_ascription (placed : c.Placed cuts) :
    Yields cuts (fun type d => ∀ each ∈ type, each.Lies cuts c.span.start d.previousSpan.stop)
      c.ascription := by
  unfold ascription
  refine placed.mark_cases (.ok (by simp)) (fun past _ beyond => ?_) .colon
  refine .lax (.map (.go beyond ((yields_type beyond.placed_end).mono beyond.placed_end
    fun _ _ _ lies => ?_)))
  simpa using lies.mono beyond.span_start_le (Nat.le_refl _)

theorem yields_resultAscription (placed : c.Placed cuts) :
    Yields cuts (fun type d => ∀ each ∈ type, each.Lies cuts c.span.start d.previousSpan.stop)
      c.resultAscription := by
  simp only [← TypeExpression.liesIfAny_iff]
  exact Rules.yields_resultAscription (Rules.give_all c) c.le_self placed

theorem yields_initial (placed : c.Placed cuts) :
    Yields cuts (fun value d => ∀ each ∈ value, each.Lies cuts c.span.start d.previousSpan.stop)
      c.initial := by
  unfold initial
  refine placed.mark_cases (.ok (by simp)) (fun past _ beyond => ?_) .eq
  refine .lax (.map (.go beyond ((yields_assignment beyond.placed_end).mono beyond.placed_end
    fun _ _ _ lies => ?_)))
  simpa using lies.mono beyond.span_start_le (Nat.le_refl _)

/-! ### Heritage -/

theorem sound_skipNameParts {c : Cursor} (qualified : Bool) (placed : c.Placed cuts) :
    Sound cuts (skipNameParts qualified c) := by
  unfold skipNameParts
  refine placed.mark_cases (.ok trivial) (fun past _ beyond => ?_) .dot
  have := past.less
  exact .lax (.go beyond ((yields_propertyName beyond.placed_end).andThen beyond.placed_end
    fun _ _ placed _ => sound_skipNameParts true placed))
termination_by c.remaining

theorem yields_heritageName (placed : c.Placed cuts) :
    Yields cuts (fun name d => ∀ each ∈ name, each.span.Lies cuts c.span.start d.previousSpan.stop)
      c.heritageName := by
  unfold heritageName
  refine (yields_expectName placed).andThen placed fun {name d} _ step₁ placed₁ span => ?_
  refine (sound_skipNameParts _ placed₁).bind placed₁ fun {qualified e} _ step₂ placed₂ _ => ?_
  refine (sound_skipAnglesIfAny placed₂).bind placed₂ fun {_ f} _ step₃ placed₃ _ => .ok ?_
  have lies : name.span.Lies cuts c.span.start f.previousSpan.stop := by
    rw [span]
    exact step₁.lies_span.mono (Nat.le_refl _) (by grind)
  split
  · simp
  · simpa using lies

theorem yields_heritageNames {c : Cursor} {low : Nat} {earlier : List NameUse}
    (after : low ≤ c.span.start)
    (before : ∀ name ∈ earlier, name.span.Lies cuts low c.previousSpan.stop)
    (placed : c.Placed cuts) :
    Yields cuts (fun names d => ∀ name ∈ names, name.span.Lies cuts low d.previousSpan.stop)
      (heritageNames earlier c) := by
  unfold heritageNames
  refine (yields_heritageName placed).andThen placed fun {name d} less step₁ placed₁ lies => ?_
  have all : ∀ each ∈ name.toList ++ earlier, each.span.Lies cuts low d.previousSpan.stop := by
    intro each among
    rcases List.mem_append.1 among with here | there
    · exact (lies each (Option.mem_toList.1 here)).mono after (Nat.le_refl _)
    · exact (before each there).mono (Nat.le_refl _) step₁.previousSpan_stop_le
  refine placed₁.mark_cases (.ok fun each among => all each (List.mem_reverse.1 among))
    (fun past _ step₂ => ?_) .comma
  have := past.less
  refine .lax (.go step₂ (yields_heritageNames (by grind) ?_ step₂.placed_end))
  exact fun each among => (all each among).mono (Nat.le_refl _) step₂.previousSpan_stop_le
termination_by c.remaining

theorem yields_heritageClause (word : Keyword) (placed : c.Placed cuts) :
    Yields cuts
      (fun names d => ∀ name ∈ names, name.span.Lies cuts c.span.start d.previousSpan.stop)
      (c.heritageClause word) := by
  unfold heritageClause
  refine placed.keyword_cases (.ok (by simp)) (fun past _ beyond => ?_) word
  exact .lax (.go beyond (yields_heritageNames beyond.span_start_le (by simp) beyond.placed_end))

theorem yields_baseClause (placed : c.Placed cuts) :
    Yields cuts (fun base d => ∀ each ∈ base, each.span.Lies cuts c.span.start d.previousSpan.stop)
      c.baseClause := by
  unfold baseClause
  refine placed.keyword_cases (.ok (by simp)) (fun past _ beyond => ?_) .extends_
  refine .lax (.go beyond ((yields_heritageName beyond.placed_end).mono beyond.placed_end
    fun _ _ _ lies each among => ?_))
  exact (lies each among).mono beyond.span_start_le (Nat.le_refl _)

/-! ## Members -/

theorem sound_skipBody (placed : c.Placed cuts) : Sound cuts c.skipBody :=
  .ite (fun _ => .lax (.map (sound_skipGroup placed))) fun _ => sound_optionalSemicolon placed

theorem sound_skipComputedClassMember (placed : c.Placed cuts) :
    Sound cuts c.skipComputedClassMember := by
  unfold skipComputedClassMember
  refine (sound_skipGroup placed).andThen placed fun _ _ placed _ => ?_
  refine (sound_optionalMark placed _).bind placed fun _ _ placed _ => ?_
  refine (yields_ascription placed).bind placed fun _ _ placed _ => ?_
  refine (yields_initial placed).bind placed fun _ _ placed _ => ?_
  refine .ite (fun _ => .lax (sound_skipCallableTail placed)) fun _ => ?_
  exact sound_optionalSemicolon placed

end Cursor

theorem Expression.Lies.literalType? {low high : Nat} {value : Expression}
    (lies : value.Lies cuts low high) : ∀ type ∈ value.literalType?, type.Lies cuts low high := by
  intro type member
  unfold Expression.literalType? at member
  split at member <;> simp only [Option.mem_def, Option.some.injEq, reduceCtorEq] at member
  all_goals
    subst member
    exact ⟨lies.span, trivial⟩

namespace Cursor

variable {c : Cursor} {start : Span}

section

variable (begun : Begun cuts start c) (placed : c.Placed cuts)

include begun placed

theorem yields_constructorAfter :
    Yields cuts (fun member d => member.Lies cuts start.start d.previousSpan.stop)
      (c.constructorAfter start) := by
  unfold constructorAfter
  refine (yields_parameters placed).andThen placed fun {parameters d} _ step₁ placed₁ lie => ?_
  refine (sound_skipBody placed₁).bind placed₁ fun {_ e} _ step₂ placed₂ _ => .ok ?_
  have atEnd : Opened cuts start e := by grind
  refine ⟨atEnd.lies_spanFrom placed₂, fun parameter member => ?_⟩
  rw [atEnd.spanFrom_eq]
  exact (lie parameter member).mono (by grind) (by grind)

theorem yields_methodAfter (modifiers : Modifiers) (isGetter : Bool) (name : String)
    (optional : Bool) :
    Yields cuts (fun member d => member.Lies cuts start.start d.previousSpan.stop)
      (c.methodAfter start modifiers isGetter name optional) := by
  unfold methodAfter
  refine (sound_skipAnglesIfAny placed).bind placed fun {_ c₁} _ step₁ placed₁ _ => ?_
  refine (yields_parameters placed₁).andThen placed₁ fun {parameters c₂} _ step₂ placed₂ lie => ?_
  refine (yields_resultAscription placed₂).bind placed₂ fun {result c₃} _ step₃ placed₃ lies => ?_
  refine (sound_skipBody placed₃).bind placed₃ fun {_ c₄} _ step₄ placed₄ _ => .ok ?_
  have atEnd : Opened cuts start c₄ := by grind
  have span := atEnd.lies_spanFrom placed₄
  have resultLies : ∀ type ∈ result, type.Lies cuts start.start c₄.previousSpan.stop :=
    fun type member => (lies type member).mono (by grind) (by grind)
  split
  · refine ⟨span, ?_⟩
    rwa [atEnd.spanFrom_eq]
  · refine ⟨span, fun parameter member => ?_, by rwa [atEnd.spanFrom_eq]⟩
    rw [atEnd.spanFrom_eq]
    exact (lie parameter member).mono (by grind) (by grind)

end

theorem yields_propertyAfter (opened : Opened cuts start c) (placed : c.Placed cuts)
    (modifiers : Modifiers) (name : String) (optional : Bool) :
    Yields cuts (fun member d => member.Lies cuts start.start d.previousSpan.stop)
      (c.propertyAfter start modifiers name optional) := by
  unfold propertyAfter
  refine (yields_ascription placed).bind placed fun {type c₁} _ step₁ placed₁ typeLies => ?_
  refine (yields_initial placed₁).bind placed₁ fun {value c₂} _ step₂ placed₂ valueLies => ?_
  refine (sound_optionalSemicolon placed₂).bind placed₂ fun {_ c₃} _ step₃ placed₃ _ => .ok ?_
  have atEnd : Opened cuts start c₃ := by grind
  refine ⟨atEnd.lies_spanFrom placed₃, ?_⟩
  rw [atEnd.spanFrom_eq]
  intro each member
  dsimp only at member
  cases type with
  | some type =>
    obtain rfl : type = each := by simpa using member
    exact (typeLies type rfl).mono (by grind) (by grind)
  | none =>
    obtain ⟨value, here, literal⟩ : ∃ v, value = some v ∧ v.literalType? = some each := by
      simpa [Option.bind_eq_some_iff] using member
    have lies : value.Lies cuts start.start c₃.previousSpan.stop :=
      (valueLies value here).mono (by grind) step₃.previousSpan_stop_le
    exact lies.literalType? each literal

theorem yields_namedMember (begun : Begun cuts start c) (placed : c.Placed cuts)
    (modifiers : Modifiers) (isGetter : Bool) :
    Yields cuts (fun member d => member.Lies cuts start.start d.previousSpan.stop)
      (c.namedMember start modifiers isGetter) := by
  unfold namedMember
  refine (sound_optionalMark placed _).bind placed fun {_ c₁} _ step₁ placed₁ _ => ?_
  refine (yields_propertyName placed₁).andThen placed₁ fun {property c₂} _ step₂ placed₂ _ => ?_
  refine (sound_optionalMark placed₂ _).bind placed₂ fun {optional c₃} _ step₃ placed₃ _ => ?_
  refine (sound_optionalMark placed₃ _).bind placed₃ fun {_ c₄} _ step₄ placed₄ _ => ?_
  have opened : Opened cuts start c₄ := by grind
  dsimp only
  refine .ite (fun _ => .lax (yields_constructorAfter (.inl opened) placed₄)) fun _ => ?_
  refine .ite (fun _ => .lax (yields_methodAfter (.inl opened) placed₄ ..)) fun _ => ?_
  exact yields_propertyAfter opened placed₄ ..

theorem yields_memberAfter (begun : Begun cuts start c) (placed : c.Placed cuts)
    (modifiers : Modifiers) :
    Yields cuts (fun member d => ∀ each ∈ member, each.Lies cuts start.start d.previousSpan.stop)
      (c.memberAfter start modifiers) := by
  unfold memberAfter
  have named : Yields cuts
      (fun member d => ∀ each ∈ some member, each.Lies cuts start.start d.previousSpan.stop)
      (c.namedMember start modifiers false) :=
    (yields_namedMember begun placed modifiers false).mono placed (by simp)
  refine .ite (fun _ => .map ((sound_skipGroup placed).mono placed (by simp))) fun _ => ?_
  refine .ite (fun _ => .map ((sound_skipComputedClassMember placed).mono placed (by simp)))
    fun _ => ?_
  refine placed.next_cases (.map named) fun past _ beyond => ?_
  have placed₁ := beyond.placed_end
  refine .ite (fun _ => .go beyond (.map ?_)) fun _ => ?_
  · exact (yields_namedMember (begun.onward beyond.toOnward) placed₁ modifiers true).mono placed₁
      (by simp)
  · refine .ite (fun _ => .go beyond ?_) fun _ => .map named
    refine (yields_propertyName placed₁).andThen placed₁ fun _ _ placed₂ _ => .map ?_
    exact (sound_skipCallableTail placed₂).mono placed₂ (by simp)

theorem yields_classMember (placed : c.Placed cuts) :
    Yields cuts (fun member d => ∀ each ∈ member, each.Lies cuts c.span.start d.previousSpan.stop)
      c.classMember := by
  unfold classMember
  refine placed.mark_cases ?_ (fun past _ beyond => .go beyond (.ok (by simp))) .semicolon
  refine (yields_decorators _ placed (Nat.le_refl _)).bind placed fun _ step₁ placed₁ _ => ?_
  refine (Rules.sound_modifiers _ placed₁).bind placed₁ fun _ step₂ placed₂ _ => ?_
  exact yields_memberAfter (.onward (.inr rfl) (step₁.trans step₂)) placed₂ _

/-! ## Bodies -/

theorem yields_membersAfter {c : Cursor} {low : Nat} {opening : Opening}
    {earlier : List ClassMember} (opened : opening.span.Stands cuts c.stop.start)
    (after : low ≤ c.span.start)
    (before : ∀ member ∈ earlier, member.Lies cuts low c.previousSpan.stop)
    (placed : c.Placed cuts) :
    (membersAfter opening earlier c).Yields cuts fun members d =>
      ∀ member ∈ members, member.Lies cuts low d.previousSpan.stop := by
  unfold membersAfter
  refine placed.mark_cases ?_ (fun past _ beyond => .go beyond (.ok ?_)) .rbrace
  · refine placed.next_cases (.fail (placed.lies_unclosed opened _)) fun past _ _ => ?_
    have gives := yields_classMember placed
    dsimp only
    generalize c.classMember = outcome at gives ⊢
    obtain ⟨⟨result, d⟩, reaches, moved, errors⟩ := outcome
    have lie : ∀ error ∈ errors, error.Lies cuts c.stop.start := gives.errors
    cases result with
    | ok member =>
      have less := less_of_moved moved
      have beyond : Beyond cuts c d := ⟨⟨placed, reaches⟩, less⟩
      have lies : ∀ each ∈ member, each.Lies cuts c.span.start d.previousSpan.stop := gives.result
      refine (Yields.seenFrom beyond.toOnward reaches less
        (yields_membersAfter (beyond.stands opened) (Nat.le_trans after beyond.span_start_le) ?_
          beyond.placed_end)).recording lie
      intro each among
      rcases List.mem_append.1 among with here | there
      · exact (lies each (Option.mem_toList.1 here)).mono after (Nat.le_refl _)
      · exact (before each there).mono (Nat.le_refl _) beyond.previousSpan_stop_le
    | error error =>
      have lies : error.Lies cuts c.stop.start := gives.result
      have reaches' := (recoverMember past d reaches).property.1
      have less := (recoverMember past d reaches).property.2
      have beyond : Beyond cuts c (recoverMember past d reaches).val := ⟨⟨placed, reaches'⟩, less⟩
      refine (Yields.seenFrom beyond.toOnward reaches' less
        (yields_membersAfter (beyond.stands opened) (Nat.le_trans after beyond.span_start_le) ?_
          beyond.placed_end)).recording ?_
      · exact fun each among => (before each among).mono (Nat.le_refl _) beyond.previousSpan_stop_le
      · exact List.forall_mem_append.2 ⟨lie, List.forall_mem_singleton.2 lies⟩
  · exact fun member among => (before member (List.mem_reverse.1 among)).mono (Nat.le_refl _)
      beyond.previousSpan_stop_le
termination_by c.remaining

theorem yields_classBody (placed : c.Placed cuts) :
    c.classBody.Yields cuts fun members d =>
      ∀ member ∈ members, member.Lies cuts c.span.start d.previousSpan.stop := by
  unfold classBody
  refine .andThen placed (yields_expectMark placed .lbrace) fun _ beyond placed span => ?_
  exact yields_membersAfter (span ▸ beyond.stands_span) beyond.span_start_le (by simp) placed

/-! ## Classes -/

theorem yields_classHead {low : Nat} {decorators : List Decorator} (after : low ≤ c.span.start)
    (before : ∀ decorator ∈ decorators, decorator.Lies cuts low c.previousSpan.stop)
    (isAbstract : Bool) (placed : c.Placed cuts) :
    Yields cuts (fun declaration d => declaration.Lies cuts low d.previousSpan.stop)
      (c.classHead decorators isAbstract) := by
  unfold classHead
  refine (yields_expectKeyword placed _).andThen placed fun {_ c₁} _ step₁ placed₁ _ => ?_
  refine (yields_expectName placed₁).andThen placed₁ fun {name c₂} _ step₂ placed₂ span => ?_
  refine (sound_skipAnglesIfAny placed₂).bind placed₂ fun {_ c₃} _ step₃ placed₃ _ => ?_
  refine (yields_baseClause placed₃).bind placed₃ fun {base c₄} _ step₄ placed₄ baseLies => ?_
  refine (yields_heritageClause _ placed₄).bind placed₄
    fun {implemented c₅} _ step₅ placed₅ implementedLie => .ok ?_
  constructor
  case name =>
    dsimp only
    rw [span]
    exact step₂.lies_span.mono (by grind) (by grind)
  case decorators =>
    exact fun each among => (before each among).mono (Nat.le_refl _) (by grind)
  case base => exact fun each among => (baseLies each among).mono (by grind) (by grind)
  case implemented =>
    exact fun each among => (implementedLie each among).mono (by grind) (Nat.le_refl _)
  case members => simp

theorem yields_classDeclaration {low : Nat} {decorators : List Decorator}
    (after : low ≤ c.span.start)
    (before : ∀ decorator ∈ decorators, decorator.Lies cuts low c.previousSpan.stop)
    (isAbstract : Bool) (placed : c.Placed cuts) :
    (c.classDeclaration decorators isAbstract).Yields cuts fun declaration d =>
      declaration.Lies cuts low d.previousSpan.stop := by
  unfold classDeclaration
  refine .andThen placed (yields_classHead after before _ placed)
    fun {head d} _ step₁ placed₁ lies => .map ?_
  refine (yields_classBody placed₁).mono placed₁ fun members e step₂ lie => ?_
  have lies := lies.mono (Nat.le_refl _) step₂.previousSpan_stop_le
  exact { lies with
    members := fun member among => (lie member among).mono (by grind) (Nat.le_refl _) }

end Cursor

end InjectionCheck
