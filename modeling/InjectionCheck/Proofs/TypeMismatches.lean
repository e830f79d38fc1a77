import InjectionCheck.Proofs.Dependents

/-!
# Types that do not fit

For a token that a class asks for, the registration that counts is the first one of the
builder itself, or else the first one of what the parents reach, depth first. If it
provides instances of a class whose type does not fit what is expected, this is reported
once, where the token is registered (`mismatches_reported`). Registrations behind the one
that counts do not matter, and neither does whether all references lead somewhere.
-/

set_option autoImplicit false

namespace InjectionCheck

namespace Wiring

variable {wiring : Wiring}

/-- The registration of a token that counts: that of the configuration itself before those
of the configurations above it. -/
def winner? (configuration : Configuration) (above : List Configuration) (token : Nat) :
    Option Registration :=
  (configuration.registrations.find? fun own => decide (own.token.declaration = token)).or
    ((above.flatMap Configuration.registrations).find? fun inherited =>
      decide (inherited.token.declaration = token))

/-- What is provided for a token is the registration that counts. -/
theorem provider?_provided_eq_winner? {configuration : Configuration}
    {above : List Configuration}
    (order : (wiring.ancestry configuration).nearestFirst = configuration :: above)
    (token : Nat) :
    provider? (wiring.provided configuration) token = winner? configuration above token := by
  rw [provider?_provided, order, List.flatMap_cons, List.find?_append, winner?]

/-- What a class asks for at one of its parameters is provided by instances of a class
whose type does not fit. -/
structure Misfits (wiring : Wiring) (builder : Configuration) (above : List Configuration)
    (number index : Nat) (dependent : DependentClass) (dependency : Dependency)
    (provider : Registration) (produced : Nat) : Prop extends
    wiring.Asks builder number index dependent dependency where
  wins : winner? builder above dependency.token.declaration = some provider
  produces : provider.provision = .instanceOf produced
  unfit : wiring.program.isAssignable (wiring.program.declarationType produced)
    dependency.expected = false

/-- The finding that a class whose instances are provided does not fit. -/
def mismatch (wiring : Wiring) (dependent : DependentClass) (dependency : Dependency)
    (provider : Registration) (produced : Nat) : Finding :=
  .typeMismatch dependent dependency provider
    (wiring.program.format (wiring.program.declarationType produced))
    (wiring.program.format dependency.expected)

/-- A type is found not to fit if it is that of a class whose instances are provided,
whatever else is known. -/
theorem dependencyFinding?_mismatch_iff {builder : Configuration} {complete : Bool}
    {bindings : List Registration} {dependent : DependentClass} {registration : Registration}
    {dependency : Dependency} {finding : Finding} :
    (wiring.dependencyFinding? builder complete bindings dependent registration dependency =
          some finding ∧
        finding.kind = .typeMismatch) ↔
      ∃ provider produced,
        provider? bindings dependency.token.declaration = some provider ∧
        provider.provision = .instanceOf produced ∧
        wiring.program.isAssignable (wiring.program.declarationType produced)
          dependency.expected = false ∧
        finding = wiring.mismatch dependent dependency provider produced := by
  constructor
  · rintro ⟨found, isMismatch⟩
    unfold dependencyFinding? at found
    split at found
    · next provider provides =>
        unfold providerFinding? at found
        split at found
        · next produced produces =>
            dsimp only at found
            split at found
            · cases found
            · next unfit =>
                cases found
                exact ⟨provider, produced, provides, produces, by simpa using unfit, rfl⟩
        · cases found
        · cases found
    · split at found
      · cases found
        cases isMismatch
      · cases found
  · rintro ⟨provider, produced, provides, produces, unfit, rfl⟩
    refine ⟨?_, rfl⟩
    simp only [dependencyFinding?, provides, providerFinding?, produces, unfit,
      Bool.false_eq_true, if_false, mismatch]

/-! ## What is reported -/

section Builder

variable {builder : Configuration} {above : List Configuration} {number index : Nat}
  {dependent : DependentClass} {dependency : Dependency} {provider : Registration}

/-- What does not fit is reported once. -/
theorem Misfits.filter_builderFindings {produced : Nat}
    (misfits : wiring.Misfits builder above number index dependent dependency provider produced)
    (inside : builder ∈ wiring.configurations)
    (order : (wiring.ancestry builder).nearestFirst = builder :: above) :
    (wiring.builderFindings builder (wiring.ancestry builder)).filter
        (Finding.isAbout .typeMismatch number index) =
      [wiring.mismatch dependent dependency provider produced] := by
  obtain ⟨asks, wins, produces, unfit⟩ := misfits
  have provides := (provider?_provided_eq_winner? order _).trans wins
  obtain ⟨_, _, pushed⟩ := asks.filter_eq_singleton inside fun registration =>
    dependencyFinding?_mismatch_iff.2 ⟨provider, produced, provides, produces, unfit, rfl⟩
  exact pushed

/-- What is reported not to fit does not fit. -/
theorem exists_misfits (inside : builder ∈ wiring.configurations)
    (order : (wiring.ancestry builder).nearestFirst = builder :: above) {finding : Finding}
    (pushed : finding ∈ wiring.builderFindings builder (wiring.ancestry builder))
    (about : finding.isAbout .typeMismatch number index = true) :
    ∃ dependent dependency provider produced,
      wiring.Misfits builder above number index dependent dependency provider produced := by
  obtain ⟨dependent, dependency, registration, asks, found⟩ := exists_asks inside pushed about
  obtain ⟨provider, produced, provides, produces, unfit, _⟩ :=
    dependencyFinding?_mismatch_iff.1 ⟨found, (Finding.isAbout_iff.1 about).1⟩
  rw [provider?_provided_eq_winner? order] at provides
  exact ⟨dependent, dependency, provider, produced, asks, provides, produces, unfit⟩

/-- Nothing is said of what a factory or a value gives. -/
theorem Asks.filter_eq_nil (asks : wiring.Asks builder number index dependent dependency)
    (inside : builder ∈ wiring.configurations)
    (order : (wiring.ancestry builder).nearestFirst = builder :: above)
    (wins : winner? builder above dependency.token.declaration = some provider)
    (untyped : provider.provision = .factory ∨ provider.provision = .value) :
    (wiring.builderFindings builder (wiring.ancestry builder)).filter
      (Finding.isAbout .typeMismatch number index) = [] := by
  obtain ⟨registration, _, pushed⟩ := asks.filter_dependentFindings inside
    (!wiring.isIncomplete (wiring.ancestry builder)) .typeMismatch
  have provides := (provider?_provided_eq_winner? order _).trans wins
  rw [builderFindings, pushed]
  rcases untyped with factory | value
  · simp only [dependencyFinding?, provides, providerFinding?, factory, Option.toList_none,
      List.filter_nil]
  · simp only [dependencyFinding?, provides, providerFinding?, value, Option.toList_none,
      List.filter_nil]

/-- Whether everything is known makes no difference to what is found not to fit. -/
theorem filter_dependencyFinding?_eq (complete complete' : Bool) (bindings : List Registration)
    (dependent : DependentClass) (registration : Registration) (dependency : Dependency) :
    (wiring.dependencyFinding? builder complete bindings dependent registration
        dependency).filter (fun finding => decide (finding.kind = .typeMismatch)) =
      (wiring.dependencyFinding? builder complete' bindings dependent registration
        dependency).filter (fun finding => decide (finding.kind = .typeMismatch)) := by
  unfold dependencyFinding?
  split
  · rfl
  · cases complete <;> cases complete' <;> rfl

theorem filter_dependentFindings_eq (ancestry : Ancestry) (complete complete' : Bool) :
    (wiring.dependentFindings builder ancestry complete).filter
        (fun finding => decide (finding.kind = .typeMismatch)) =
      (wiring.dependentFindings builder ancestry complete').filter
        (fun finding => decide (finding.kind = .typeMismatch)) := by
  simp only [dependentFindings, List.filter_flatMap]
  congr 1
  funext validated
  obtain ⟨number, registration⟩ := validated
  cases wiring.class? number with
  | none => rfl
  | some dependent =>
      simp only [List.filter_filterMap, filter_dependencyFinding?_eq complete complete']

end Builder

/-- **A mismatch is reported exactly where the registration that counts does not fit.** It
is reported once for each parameter, at that registration. Nothing is reported where a
factory or a value counts, and it does not matter whether the ancestry is complete. -/
theorem mismatches_reported {builder : Configuration}
    (inside : builder ∈ wiring.configurations) :
    ∃ above after,
      wiring.DepthFirst (NumberSet.insert ∅ builder.declaration)
        (builder.parents.map ParentReference.target) above after ∧
      (∀ number index,
        (∃ finding ∈ wiring.builderFindings builder (wiring.ancestry builder),
            finding.isAbout .typeMismatch number index = true) ↔
          ∃ dependent dependency provider produced,
            wiring.Misfits builder above.nearestFirst number index dependent dependency
              provider produced) ∧
      (∀ number index dependent dependency provider produced,
        wiring.Misfits builder above.nearestFirst number index dependent dependency provider
            produced →
          ∃ finding,
            (wiring.builderFindings builder (wiring.ancestry builder)).filter
                (Finding.isAbout .typeMismatch number index) = [finding] ∧
            finding = wiring.mismatch dependent dependency provider produced ∧
            finding.problem.location = provider.location) ∧
      (∀ number index dependent dependency provider,
        wiring.Asks builder number index dependent dependency →
        winner? builder above.nearestFirst dependency.token.declaration = some provider →
        provider.provision = .factory ∨ provider.provision = .value →
          (wiring.builderFindings builder (wiring.ancestry builder)).filter
            (Finding.isAbout .typeMismatch number index) = []) ∧
      (∀ complete,
        (wiring.dependentFindings builder (wiring.ancestry builder) complete).filter
            (fun finding => decide (finding.kind = .typeMismatch)) =
          (wiring.builderFindings builder (wiring.ancestry builder)).filter
            (fun finding => decide (finding.kind = .typeMismatch))) := by
  obtain ⟨above, after, parents, order⟩ := exists_depthFirst_parents inside
  refine ⟨above, after, parents, ?_, ?_, ?_, ?_⟩
  · intro number index
    constructor
    · rintro ⟨finding, pushed, about⟩
      exact exists_misfits inside order pushed about
    · rintro ⟨dependent, dependency, provider, produced, misfits⟩
      have reported := misfits.filter_builderFindings inside order
      exact ⟨_, List.mem_filter.1 (reported ▸ List.mem_cons_self)⟩
  · intro number index dependent dependency provider produced misfits
    exact ⟨_, misfits.filter_builderFindings inside order, rfl, rfl⟩
  · intro number index dependent dependency provider asks wins untyped
    exact asks.filter_eq_nil inside order wins untyped
  · intro complete
    exact filter_dependentFindings_eq _ _ _

/-- The right side of the diamond reaches the class by way of the base and the builder, and
registers what does not fit. -/
theorem misfits_diamond (above : List Configuration) :
    Diamond.wired.Misfits Diamond.right above 0 0 Diamond.service Diamond.registered
      ⟨Diamond.token 1, .instanceOf 0, ⟨0, ⟨12, 13⟩⟩⟩ 0 where
  registered := by
    have toBase : Diamond.wired.Extends Diamond.right Diamond.base := by
      refine ⟨_, List.mem_cons_self, ?_⟩
      rw [configuration?_eq_find?]
      rfl
    have toBuilder : Diamond.wired.Extends Diamond.base Diamond.builder := by
      refine ⟨_, List.mem_cons_self, ?_⟩
      rw [configuration?_eq_find?]
      rfl
    exact ⟨Diamond.builder, .tail (.single toBase) toBuilder, _, List.mem_cons_self, rfl⟩
  declared := by
    rw [class?_eq_find?]
    rfl
  asked := List.mem_cons_self
  place := rfl
  wins := rfl
  produces := rfl
  unfit := by
    unfold Program.isAssignable ShapeTable.isAssignable ShapeTable.fits
    decide

/-- What does not fit on the right side of the diamond is reported once. -/
theorem mismatches_reported_diamond :
    Diamond.right ∈ Diamond.wired.configurations ∧
      ∃ finding,
        (Diamond.wired.builderFindings Diamond.right
            (Diamond.wired.ancestry Diamond.right)).filter
          (Finding.isAbout .typeMismatch 0 0) = [finding] ∧
        finding.problem.location = ⟨0, ⟨12, 13⟩⟩ := by
  have inside : Diamond.right ∈ Diamond.wired.configurations := by decide
  obtain ⟨above, after, _, _, reported, _⟩ := mismatches_reported inside
  obtain ⟨finding, pushed, _, located⟩ :=
    reported 0 0 _ _ _ _ (misfits_diamond above.nearestFirst)
  exact ⟨inside, finding, pushed, located⟩

end Wiring

end InjectionCheck
