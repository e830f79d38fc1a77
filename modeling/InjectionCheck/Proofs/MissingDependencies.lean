import InjectionCheck.Proofs.Dependents

/-!
# Missing dependencies

What a class asks for is missing in a builder if the builder reaches a registration of
the class, no configuration that it reaches registers the token, and every reference on
the way leads to a configuration (`Lacks`). Exactly then it is reported, once, at the
nearest registration of the class (`missing_dependencies_reported`). Where a reference
leads nowhere the token could be registered there, so nothing is said to be missing.
-/

set_option autoImplicit false

namespace InjectionCheck

namespace Wiring

variable {wiring : Wiring}

/-! ## Complete ancestries -/

/-- Every reference in what a configuration reaches leads to a configuration. -/
def Complete (wiring : Wiring) (configuration : Configuration) : Prop :=
  ∀ reached, wiring.Reaches configuration reached →
    reached.hasUnresolvedParent = false ∧
      ∀ reference ∈ reached.parents, ∃ parent,
        wiring.configuration? reference.target = some parent

theorem isIncomplete_eq_false_iff {configuration : Configuration}
    (inside : configuration ∈ wiring.configurations) :
    wiring.isIncomplete (wiring.ancestry configuration) = false ↔
      wiring.Complete configuration := by
  simp only [isIncomplete, List.any_eq_false, mem_nearestFirst_ancestry inside,
    Bool.or_eq_true, not_or, Bool.not_eq_true, List.any_eq_false, Option.isNone_eq_false_iff,
    Option.isSome_iff_exists, Complete]

/-! ## What is missing -/

/-- What a class asks for at one of its parameters is missing in a builder. -/
structure Lacks (wiring : Wiring) (builder : Configuration) (number index : Nat)
    (dependent : DependentClass) (dependency : Dependency) : Prop extends
    wiring.Asks builder number index dependent dependency where
  complete : wiring.Complete builder
  /-- No configuration that the builder reaches registers the token. -/
  unprovided : ∀ reached, wiring.Reaches builder reached →
    ∀ registration ∈ reached.registrations,
      registration.token.declaration ≠ dependency.token.declaration

theorem provider?_provided_eq_none_iff {configuration : Configuration}
    (inside : configuration ∈ wiring.configurations) (token : Nat) :
    provider? (wiring.provided configuration) token = none ↔
      ∀ reached, wiring.Reaches configuration reached →
        ∀ registration ∈ reached.registrations, registration.token.declaration ≠ token := by
  rw [← Option.not_isSome_iff_eq_none, provider?_provided, isSome_find?_ancestry inside]
  simp only [decide_eq_true_eq, not_exists, not_and]

/-- Something is found to be missing if nothing is provided and everything is known. -/
theorem dependencyFinding?_missing_iff {builder : Configuration} {complete : Bool}
    {bindings : List Registration} {dependent : DependentClass} {registration : Registration}
    {dependency : Dependency} {finding : Finding} :
    (wiring.dependencyFinding? builder complete bindings dependent registration dependency =
          some finding ∧
        finding.kind = .missingDependency) ↔
      complete = true ∧ provider? bindings dependency.token.declaration = none ∧
        finding = .missingDependency builder dependent dependency registration := by
  constructor
  · rintro ⟨found, isMissing⟩
    unfold dependencyFinding? at found
    split at found
    · unfold providerFinding? at found
      split at found
      · dsimp only at found
        split at found
        · cases found
        · cases found
          cases isMissing
      · cases found
      · cases found
    · next unprovided =>
        split at found
        · next known =>
            cases found
            exact ⟨known, unprovided, rfl⟩
        · cases found
  · rintro ⟨rfl, unprovided, rfl⟩
    simp only [dependencyFinding?, unprovided, if_true, Finding.kind, and_self]

/-- What is missing is pushed once, at the nearest registration of the class. -/
theorem Lacks.filter_builderFindings {builder : Configuration} {number index : Nat}
    {dependent : DependentClass} {dependency : Dependency}
    (lacks : wiring.Lacks builder number index dependent dependency)
    (inside : builder ∈ wiring.configurations) :
    ∃ registration,
      ((wiring.ancestry builder).nearestFirst.flatMap Configuration.registrations).find?
          (fun other => decide (other.provision = .instanceOf number)) =
        some registration ∧
      (wiring.builderFindings builder (wiring.ancestry builder)).filter
          (Finding.isAbout .missingDependency number index) =
        [.missingDependency builder dependent dependency registration] := by
  have known : (!wiring.isIncomplete (wiring.ancestry builder)) = true := by
    rw [(isIncomplete_eq_false_iff inside).2 lacks.complete, Bool.not_false]
  have unprovided := (provider?_provided_eq_none_iff inside _).2 lacks.unprovided
  exact lacks.toAsks.filter_eq_singleton inside fun registration =>
    dependencyFinding?_missing_iff.2 ⟨known, unprovided, rfl⟩

/-- What is found to be missing is missing. -/
theorem exists_lacks {builder : Configuration} (inside : builder ∈ wiring.configurations)
    {number index : Nat} {finding : Finding}
    (pushed : finding ∈ wiring.builderFindings builder (wiring.ancestry builder))
    (about : finding.isAbout .missingDependency number index = true) :
    ∃ dependent dependency, wiring.Lacks builder number index dependent dependency := by
  obtain ⟨dependent, dependency, registration, asks, found⟩ := exists_asks inside pushed about
  obtain ⟨known, unprovided, _⟩ :=
    dependencyFinding?_missing_iff.1 ⟨found, (Finding.isAbout_iff.1 about).1⟩
  refine ⟨dependent, dependency, asks, ?_, ?_⟩
  · rw [Bool.not_eq_true'] at known
    exact (isIncomplete_eq_false_iff inside).1 known
  · exact (provider?_provided_eq_none_iff inside _).1 unprovided

/-! ## What is reported -/

/-- What is found when a builder is checked is found when everything is checked. -/
theorem builderFindings_subset_findings {builder : Configuration}
    (inside : builder ∈ wiring.configurations) (builds : builder.isBuilder = true)
    {finding : Finding}
    (pushed : finding ∈ wiring.builderFindings builder (wiring.ancestry builder)) :
    finding ∈ wiring.findings := by
  refine List.mem_append_right _ (List.mem_flatMap.2 ⟨builder, inside, ?_⟩)
  simp only [configurationFindings, builds, if_true]
  exact List.mem_append_right _ pushed

/-- What is reported is what is found, in words. -/
theorem mem_problems {problem : Problem} :
    problem ∈ wiring.problems ↔ ∃ finding ∈ wiring.findings, finding.problem = problem := by
  rw [problems, mem_distinctBy_id, List.mem_map]

/-- No problem is reported twice. -/
theorem nodup_problems : wiring.problems.Nodup := by
  have distinct := nodup_map_distinctBy id (wiring.findings.map Finding.problem)
  rwa [List.map_id] at distinct

/-- **What is missing in a builder is reported, and nothing else is reported as missing.**
It is reported once, at the nearest registration of the class, depth first, and together
with the place of the parameter. Of what all checks find, each problem is kept once. -/
theorem missing_dependencies_reported {builder : Configuration}
    (inside : builder ∈ wiring.configurations) (builds : builder.isBuilder = true) :
    (∃ after, wiring.DepthFirst ∅ [builder.declaration] (wiring.ancestry builder) after) ∧
      (∀ number index,
        (∃ finding ∈ wiring.builderFindings builder (wiring.ancestry builder),
            finding.isAbout .missingDependency number index = true) ↔
          ∃ dependent dependency, wiring.Lacks builder number index dependent dependency) ∧
      (∀ number index dependent dependency,
        wiring.Lacks builder number index dependent dependency →
          ∃ registration finding,
            ((wiring.ancestry builder).nearestFirst.flatMap Configuration.registrations).find?
                (fun other => decide (other.provision = .instanceOf number)) =
              some registration ∧
            (wiring.builderFindings builder (wiring.ancestry builder)).filter
                (Finding.isAbout .missingDependency number index) = [finding] ∧
            finding = .missingDependency builder dependent dependency registration ∧
            finding.problem.location = registration.location ∧
            finding.problem.related.map RelatedPlace.location = [dependency.location]) ∧
      (∀ finding ∈ wiring.builderFindings builder (wiring.ancestry builder),
        finding.problem ∈ wiring.problems) ∧
      wiring.problems.Nodup ∧
      (∀ problem, problem ∈ wiring.problems ↔
        ∃ finding ∈ wiring.findings, finding.problem = problem) := by
  refine ⟨wiring.depthFirst_ancestry builder, ?_, ?_, ?_, nodup_problems, fun _ => mem_problems⟩
  · intro number index
    constructor
    · rintro ⟨finding, pushed, about⟩
      exact exists_lacks inside pushed about
    · rintro ⟨dependent, dependency, lacks⟩
      obtain ⟨registration, _, pushed⟩ := lacks.filter_builderFindings inside
      exact ⟨_, List.mem_filter.1 (pushed ▸ List.mem_cons_self)⟩
  · intro number index dependent dependency lacks
    obtain ⟨registration, nearest, pushed⟩ := lacks.filter_builderFindings inside
    exact ⟨registration, _, nearest, pushed, rfl, rfl, rfl⟩
  · intro finding pushed
    exact mem_problems.2 ⟨finding, builderFindings_subset_findings inside builds pushed, rfl⟩

/-- In the diamond, which is closed to a circle, the second token is missing. -/
theorem lacks_diamond :
    Diamond.wired.Lacks Diamond.builder 0 1 Diamond.service Diamond.unregistered where
  registered := ⟨Diamond.builder, .refl, _, List.mem_cons_self, rfl⟩
  declared := by
    rw [class?_eq_find?]
    rfl
  asked := List.mem_cons_of_mem _ List.mem_cons_self
  place := rfl
  complete := by
    intro reached reaches
    have everywhere : ∀ configuration ∈ Diamond.wired.configurations,
        configuration.hasUnresolvedParent = false ∧ ∀ reference ∈ configuration.parents,
          (Diamond.wired.configurations.find? (·.declaration = reference.target)).isSome := by
      decide
    obtain ⟨resolved, parents⟩ := everywhere reached
      (mem_configurations_of_reaches Diamond.builder_mem reaches)
    refine ⟨resolved, fun reference isReference => ?_⟩
    rw [← Option.isSome_iff_exists, configuration?_eq_find?]
    exact parents reference isReference
  unprovided := by
    intro reached reaches
    have nowhere : ∀ configuration ∈ Diamond.wired.configurations,
        ∀ registration ∈ configuration.registrations,
          registration.token.declaration ≠ Diamond.unregistered.token.declaration := by
      decide
    exact nowhere reached (mem_configurations_of_reaches Diamond.builder_mem reaches)

/-- The token that is missing in the diamond is reported once, though the builder extends
one side twice. -/
theorem missing_dependencies_reported_diamond :
    Diamond.builder ∈ Diamond.wired.configurations ∧ Diamond.builder.isBuilder = true ∧
      ∃ registration,
        (Diamond.wired.builderFindings Diamond.builder
            (Diamond.wired.ancestry Diamond.builder)).filter
          (Finding.isAbout .missingDependency 0 1) =
        [.missingDependency Diamond.builder Diamond.service Diamond.unregistered
          registration] := by
  have reported := (missing_dependencies_reported Diamond.builder_mem rfl).2.2.1 0 1
    Diamond.service Diamond.unregistered lacks_diamond
  obtain ⟨registration, finding, _, pushed, rfl, _⟩ := reported
  exact ⟨Diamond.builder_mem, rfl, registration, pushed⟩

end Wiring

end InjectionCheck
