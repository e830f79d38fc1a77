import InjectionCheck.Proofs.CycleSearch
import InjectionCheck.Proofs.Dependents

/-!
# What tokens are called

A token carries what messages call it. Here the names of all tokens of a wiring are taken
away (`Wiring.bare`). The wiring without names has the same ancestries, provides the same
and finds the same (`findings_bare`): every step of the checks looks at the declaration of
a token, and none at its name.
-/

set_option autoImplicit false

namespace InjectionCheck

/-! ## Taking names away -/

/-- A token without what messages call it. -/
def InjectionToken.bare (token : InjectionToken) : InjectionToken := { token with display := "" }

/-- A registration whose token has no name. -/
def Registration.bare (registration : Registration) : Registration :=
  { registration with token := registration.token.bare }

/-- A listener whose tokens have no names. -/
def ListenerBinding.bare (binding : ListenerBinding) : ListenerBinding :=
  { binding with event := binding.event.bare, listener := binding.listener.bare }

/-- A configuration whose tokens have no names. -/
def Configuration.bare (configuration : Configuration) : Configuration :=
  { configuration with
    registrations := configuration.registrations.map .bare
    listeners := configuration.listeners.map .bare }

/-- A dependency whose token has no name. -/
def Dependency.bare (dependency : Dependency) : Dependency :=
  { dependency with token := dependency.token.bare }

/-- A class that depends on tokens without names. -/
def DependentClass.bare (dependent : DependentClass) : DependentClass where
  declaration := dependent.declaration
  name := dependent.name
  file := dependent.file
  dependencies := dependent.dependencies.map .bare
  distinct := by
    rw [List.map_map]
    exact dependent.distinct

/-- An ancestry whose tokens have no names. -/
def Ancestry.bare (ancestry : Ancestry) : Ancestry :=
  ⟨ancestry.nearestFirst.map .bare, ancestry.ancestorsFirst.map .bare⟩

/-- A finding whose tokens have no names. -/
def Finding.bare : Finding → Finding
  | .missingDependency builder dependent dependency registration =>
    .missingDependency builder.bare dependent.bare dependency.bare registration.bare
  | .typeMismatch dependent dependency provider actual expected =>
    .typeMismatch dependent.bare dependency.bare provider.bare actual expected
  | .duplicateToken again first => .duplicateToken again.bare first.bare
  | .duplicateListener again first => .duplicateListener again.bare first.bare
  | .extendsCycle first others last reference =>
    .extendsCycle first.bare (others.map .bare) last.bare reference

/-- The types of a program, and nothing else of it. -/
def Program.onlyTypes (program : Program) : Program :=
  { program with files := #[], linkage := ⟨#[], #[]⟩, diagnostics := [] }

/-- A wiring whose tokens have no names, and of whose program only the types are known. -/
def Wiring.bare (wiring : Wiring) : Wiring where
  program := wiring.program.onlyTypes
  configurations := wiring.configurations.map .bare
  skipped := []
  classes := wiring.classes.map .bare
  configurations_distinct := by
    rw [List.map_map]
    exact wiring.configurations_distinct
  classes_distinct := by
    rw [List.map_map]
    exact wiring.classes_distinct

/-! ## Lists -/

section Lists

variable {α β κ : Type} [DecidableEq κ] (key : β → κ) (change : α → β)

theorem distinctBy_map (items : List α) :
    distinctBy key (items.map change) = (distinctBy (key ∘ change) items).map change := by
  induction items with
  | nil => rfl
  | cons item others ih =>
      rw [List.map_cons, distinctBy_cons, distinctBy_cons, List.map_cons, ih, List.filter_map]
      rfl

theorem repeats_go_map (firsts items : List α) :
    repeats.go key (firsts.map change) (items.map change) =
      (repeats.go (key ∘ change) firsts items).map (Prod.map change change) := by
  induction items generalizing firsts with
  | nil => rfl
  | cons item others ih =>
      rw [List.map_cons, repeats.go, repeats.go, List.find?_map]
      simp only [Function.comp_def] at ih ⊢
      cases firsts.find? fun first => decide (key (change first) = key (change item)) with
      | none => exact ih (item :: firsts)
      | some first =>
          rw [Option.map_some, List.map_cons, ih]
          rfl

theorem repeats_map (items : List α) :
    repeats key (items.map change) =
      (repeats (key ∘ change) items).map (Prod.map change change) :=
  repeats_go_map key change [] items

end Lists

namespace Wiring

variable (wiring : Wiring)

/-! ## Ancestries -/

theorem configuration?_bare (declaration : Nat) :
    wiring.bare.configuration? declaration =
      (wiring.configuration? declaration).map .bare := by
  rw [configuration?_eq_find?, configuration?_eq_find?]
  exact List.find?_map ..

theorem class?_bare (declaration : Nat) :
    wiring.bare.class? declaration = (wiring.class? declaration).map .bare := by
  rw [class?_eq_find?, class?_eq_find?]
  exact List.find?_map ..

variable {wiring}

/-- A depth-first visit is one of the wiring without names. -/
theorem DepthFirst.bare {visited after : NumberSet} {pending : List Nat} {met : Ancestry}
    (visit : wiring.DepthFirst visited pending met after) :
    wiring.bare.DepthFirst visited pending met.bare after := by
  induction visit with
  | done visited => exact .done visited
  | missing absent _ ih => exact .missing (by rw [configuration?_bare, absent]; rfl) ih
  | again known _ ih => exact .again known ih
  | @enter _ _ _ target _ configuration above further found fresh _ _ ihAbove ihFurther =>
      have foundBare : wiring.bare.configuration? target = some configuration.bare := by
        rw [configuration?_bare, found]
        rfl
      have visit := DepthFirst.enter foundBare fresh ihAbove ihFurther
      simpa only [Ancestry.bare, List.map_append, List.map_cons] using visit

variable (wiring)

theorem ancestry_bare (configuration : Configuration) :
    wiring.bare.ancestry configuration.bare = (wiring.ancestry configuration).bare := by
  obtain ⟨after, visit⟩ := wiring.depthFirst_ancestry configuration
  exact ancestry_eq_of_depthFirst visit.bare

theorem registrations_bare (configurations : List Configuration) :
    (configurations.map Configuration.bare).flatMap Configuration.registrations =
      (configurations.flatMap Configuration.registrations).map Registration.bare := by
  rw [List.flatMap_map, List.map_flatMap]
  rfl

theorem listeners_bare (configurations : List Configuration) :
    (configurations.map Configuration.bare).flatMap Configuration.listeners =
      (configurations.flatMap Configuration.listeners).map ListenerBinding.bare := by
  rw [List.flatMap_map, List.map_flatMap]
  rfl

theorem provided_bare (configuration : Configuration) :
    wiring.bare.provided configuration.bare =
      (wiring.provided configuration).map Registration.bare := by
  rw [provided_eq_effective, provided_eq_effective, ancestry_bare, Ancestry.bare,
    registrations_bare, effective, distinctBy_map]
  rfl

theorem isIncomplete_bare (ancestry : Ancestry) :
    wiring.bare.isIncomplete ancestry.bare = wiring.isIncomplete ancestry := by
  simp only [isIncomplete, Ancestry.bare, List.any_map, Function.comp_def, configuration?_bare,
    Option.isNone_map]
  rfl

theorem classesToValidate_bare (ancestry : Ancestry) :
    ancestry.bare.classesToValidate =
      ancestry.classesToValidate.map (Prod.map id Registration.bare) := by
  have classes : ancestry.bare.registeredClasses =
      ancestry.registeredClasses.map (Prod.map id Registration.bare) := by
    rw [Ancestry.registeredClasses, Ancestry.bare, registrations_bare, List.filterMap_map,
      Ancestry.registeredClasses, List.map_filterMap]
    refine List.filterMap_congr fun registration _ => ?_
    simp only [Function.comp_apply, Option.map_map]
    rfl
  rw [Ancestry.classesToValidate, classes, distinctBy_map]
  rfl

/-! ## Findings -/

theorem dependencyFinding?_bare (builder : Configuration) (complete : Bool)
    (bindings : List Registration) (dependent : DependentClass) (registration : Registration)
    (dependency : Dependency) :
    wiring.bare.dependencyFinding? builder.bare complete (bindings.map .bare) dependent.bare
        registration.bare dependency.bare =
      (wiring.dependencyFinding? builder complete bindings dependent registration
        dependency).map .bare := by
  have provider : provider? (bindings.map .bare) dependency.bare.token.declaration =
      (provider? bindings dependency.token.declaration).map .bare :=
    List.find?_map ..
  rw [dependencyFinding?, dependencyFinding?, provider]
  cases provider? bindings dependency.token.declaration with
  | none => cases complete <;> rfl
  | some provider =>
      simp only [Option.map_some, providerFinding?]
      have provision : provider.bare.provision = provider.provision := rfl
      rw [provision]
      cases provider.provision with
      | factory => rfl
      | value => rfl
      | instanceOf declaration =>
          have assignable : wiring.bare.program.isAssignable
              (wiring.bare.program.declarationType declaration) dependency.bare.expected =
            wiring.program.isAssignable (wiring.program.declarationType declaration)
              dependency.expected := rfl
          simp only [assignable]
          split <;> rfl

theorem dependentFindings_bare (builder : Configuration) (ancestry : Ancestry)
    (complete : Bool) :
    wiring.bare.dependentFindings builder.bare ancestry.bare complete =
      (wiring.dependentFindings builder ancestry complete).map .bare := by
  rw [dependentFindings, dependentFindings, provided_bare, classesToValidate_bare,
    List.flatMap_map, List.map_flatMap]
  refine List.flatMap_congr fun dependent _ => ?_
  obtain ⟨number, registration⟩ := dependent
  simp only [Prod.map_apply, id_eq, class?_bare]
  cases wiring.class? number with
  | none => rfl
  | some dependent =>
      simp only [Option.map_some, DependentClass.bare, List.filterMap_map, List.map_filterMap]
      refine List.filterMap_congr fun dependency _ => ?_
      exact wiring.dependencyFinding?_bare builder complete _ dependent registration dependency

theorem configurationFindings_bare (configuration : Configuration) :
    wiring.bare.configurationFindings configuration.bare =
      (wiring.configurationFindings configuration).map .bare := by
  have tokens : duplicateTokens (wiring.ancestry configuration).bare =
      (duplicateTokens (wiring.ancestry configuration)).map .bare := by
    rw [duplicateTokens, Ancestry.registrations, Ancestry.bare, registrations_bare, repeats_map,
      List.map_map, duplicateTokens, List.map_map]
    rfl
  have listeners : duplicateListeners (wiring.ancestry configuration).bare =
      (duplicateListeners (wiring.ancestry configuration)).map .bare := by
    rw [duplicateListeners, Ancestry.listeners, Ancestry.bare, listeners_bare, repeats_map,
      List.map_map, duplicateListeners, List.map_map]
    rfl
  have isBuilder : configuration.bare.isBuilder = configuration.isBuilder := rfl
  simp only [configurationFindings, builderFindings, ancestry_bare, tokens, listeners, isBuilder,
    isIncomplete_bare, dependentFindings_bare, List.map_append]
  split <;> rfl

/-! ## Cycles -/

theorem closedCycle_bare (inner : Configuration) (outer : List Configuration)
    (parent : Configuration) (reference : ParentReference) :
    closedCycle inner.bare (outer.map .bare) parent.bare reference =
      (closedCycle inner outer parent reference).bare := by
  rw [closedCycle, ← List.map_cons, List.takeWhile_map, ← List.map_reverse]
  rfl

theorem follow_bare (visited : NumberSet) (inner : Configuration) (outer : List Configuration)
    (references : List ParentReference) :
    wiring.bare.follow visited inner.bare (outer.map .bare) references =
      ⟨(wiring.follow visited inner outer references).entered,
        (wiring.follow visited inner outer references).findings.map .bare⟩ := by
  induction visited, inner, outer, references using follow.induct wiring with
  | case1 visited inner outer => rw [follow_nil, follow_nil, List.map_nil]
  | case2 visited inner outer reference others absent ih =>
      have absentBare : wiring.bare.configuration? reference.target = none := by
        rw [configuration?_bare, absent]
        rfl
      rw [follow_missing absent, follow_missing absentBare, ih]
  | case3 visited inner outer reference others parent found fresh _ above _ ihAbove ihFurther =>
      have foundBare : wiring.bare.configuration? reference.target = some parent.bare := by
        rw [configuration?_bare, found]
        rfl
      have parents : parent.bare.parents = parent.parents := rfl
      rw [follow_enter found fresh, follow_enter foundBare fresh, parents]
      rw [List.map_cons] at ihAbove
      simp only [ihAbove, List.map_append]
      rw [ihFurther]
  | case4 visited inner outer reference others parent found known onPath ih =>
      have foundBare : wiring.bare.configuration? reference.target = some parent.bare := by
        rw [configuration?_bare, found]
        rfl
      rw [follow_again found (not_not.1 known), follow_again foundBare (not_not.1 known)]
      have onPathBare : (inner.bare :: outer.map Configuration.bare).any
          (fun configuration => decide (configuration.declaration = reference.target)) =
            true := by
        rw [← List.map_cons, List.any_map]
        exact onPath
      simp only [if_pos onPath, if_pos onPathBare, ih, closedCycle_bare, List.map_cons]
  | case5 visited inner outer reference others parent found known offPath ih =>
      have foundBare : wiring.bare.configuration? reference.target = some parent.bare := by
        rw [configuration?_bare, found]
        rfl
      rw [follow_again found (not_not.1 known), follow_again foundBare (not_not.1 known)]
      have offPathBare : ¬(inner.bare :: outer.map Configuration.bare).any
          (fun configuration => decide (configuration.declaration = reference.target)) =
            true := by
        rw [← List.map_cons, List.any_map]
        exact offPath
      simp only [if_neg offPath, if_neg offPathBare, ih]

theorem cyclesFrom_bare (visited : NumberSet) (configurations : List Configuration) :
    wiring.bare.cyclesFrom visited (configurations.map .bare) =
      (wiring.cyclesFrom visited configurations).map .bare := by
  induction configurations generalizing visited with
  | nil => rfl
  | cons configuration others ih =>
      have declaration : configuration.bare.declaration = configuration.declaration := rfl
      have parents : configuration.bare.parents = configuration.parents := rfl
      have followed := wiring.follow_bare (visited.insert configuration.declaration)
        configuration [] configuration.parents
      rw [List.map_nil] at followed
      rw [List.map_cons, cyclesFrom, cyclesFrom, declaration, parents, followed]
      split
      · exact ih visited
      · simp only [List.map_append, ih]

/-- **The wiring without names finds the same.** -/
theorem findings_bare : wiring.bare.findings = wiring.findings.map .bare := by
  have cycles : wiring.bare.cycles = wiring.cycles.map .bare :=
    wiring.cyclesFrom_bare ∅ wiring.configurations
  have configurations : wiring.bare.configurations = wiring.configurations.map .bare := rfl
  rw [findings, findings, cycles, configurations, List.map_append, List.flatMap_map,
    List.map_flatMap]
  simp only [configurationFindings_bare]

end Wiring

end InjectionCheck
