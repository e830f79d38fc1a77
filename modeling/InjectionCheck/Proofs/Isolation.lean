import InjectionCheck.Proofs.AncestryOrder
import InjectionCheck.Proofs.Duplicates
import InjectionCheck.Proofs.MissingDependencies

/-!
# Configurations are checked by themselves

What is found in a configuration depends on the configurations that it reaches and on
nothing else in the wiring. Two wirings of one program may list their configurations in
different orders, and each may have some that the other does not have: as long as none of
those is reached from a configuration, the configuration has the same findings in both
(`configurationFindings_eq`).

The depth-first visit of the one wiring is a visit of the other one
(`SameBeside.depthFirst`), so both give the same ancestry, and everything that is found
is read off the ancestry. Apart from cycles, which concern all configurations together,
the problems of a wiring are therefore those of its configurations
(`configurations_checked_in_isolation`).
-/

set_option autoImplicit false

namespace InjectionCheck

namespace Wiring

variable {wiring first second : Wiring} {start : Configuration}

/-! ## Looking up by declaration -/

/-- What is found for a declaration is the configuration of the wiring that it holds. -/
theorem configuration?_eq_some_iff {target : Nat} {configuration : Configuration} :
    wiring.configuration? target = some configuration ↔
      configuration ∈ wiring.configurations ∧ configuration.declaration = target := by
  constructor
  · intro found
    refine ⟨?_, declaration_of_configuration? found⟩
    rw [configuration?_eq_find?] at found
    exact List.mem_of_find?_eq_some found
  · rintro ⟨inside, rfl⟩
    exact configuration?_declaration inside

/-- What is found for a declaration is the class of the wiring that it declares. -/
theorem class?_eq_some_iff {number : Nat} {dependent : DependentClass} :
    wiring.class? number = some dependent ↔
      dependent ∈ wiring.classes ∧ dependent.declaration = number := by
  constructor
  · intro declared
    refine ⟨?_, declaration_of_class? declared⟩
    rw [class?_eq_find?] at declared
    exact List.mem_of_find?_eq_some declared
  · rintro ⟨inside, rfl⟩
    cases declared : wiring.class? dependent.declaration with
    | none =>
        rw [class?_eq_find?] at declared
        have differs := List.find?_eq_none.1 declared dependent inside
        simp at differs
    | some other =>
        have same := declaration_of_class? declared
        rw [class?_eq_find?] at declared
        have isClass := List.mem_of_find?_eq_some declared
        exact congrArg some (List.inj_on_of_nodup_map wiring.classes_distinct isClass inside same)

/-! ## Wirings that differ in what is not reached -/

/-- Two wirings have the same program and the same classes. -/
structure SameBase (first second : Wiring) : Prop where
  program : first.program = second.program
  classes : ∀ dependent, dependent ∈ first.classes ↔ dependent ∈ second.classes

/-- The configurations of two wirings differ only in their order and by configurations that
are not reached from a given one. -/
structure SameBeside (first second : Wiring) (start : Configuration) : Prop where
  /-- What the second wiring leaves out is not reached in the first one. -/
  removed : ∀ configuration ∈ first.configurations, configuration ∉ second.configurations →
    ¬first.Reaches start configuration
  /-- What the second wiring adds is not reached in it. -/
  added : ∀ configuration ∈ second.configurations, configuration ∉ first.configurations →
    ¬second.Reaches start configuration

namespace SameBeside

/-- The difference is the same, seen from the second wiring. -/
theorem symm (beside : first.SameBeside second start) : second.SameBeside first start :=
  ⟨beside.added, beside.removed⟩

/-- What is reached in the first wiring is a configuration of the second one. -/
theorem mem_second (beside : first.SameBeside second start)
    (inside : start ∈ first.configurations) {reached : Configuration}
    (reaches : first.Reaches start reached) : reached ∈ second.configurations := by
  by_contra absent
  exact beside.removed reached (mem_configurations_of_reaches inside reaches) absent reaches

/-- What is reached in the first wiring is reached in the second one. -/
theorem reaches_second (beside : first.SameBeside second start)
    (inside : start ∈ first.configurations) {reached : Configuration}
    (reaches : first.Reaches start reached) : second.Reaches start reached := by
  induction reaches with
  | refl => exact .refl
  | tail reaches extended ih =>
      have isSecond := beside.mem_second inside (reaches.tail extended)
      obtain ⟨reference, isReference, found⟩ := extended
      refine ih.tail ⟨reference, isReference, ?_⟩
      exact configuration?_eq_some_iff.2 ⟨isSecond, declaration_of_configuration? found⟩

/-- A reference of what is reached leads to the same configuration in both wirings, or to
none in both. -/
theorem configuration?_eq (beside : first.SameBeside second start)
    (inside : start ∈ first.configurations) {reached : Configuration}
    (reaches : first.Reaches start reached) {reference : ParentReference}
    (isReference : reference ∈ reached.parents) :
    first.configuration? reference.target = second.configuration? reference.target := by
  have insideSecond := beside.mem_second inside .refl
  ext parent
  constructor
  · intro found
    have isSecond := beside.mem_second inside (reaches.tail ⟨reference, isReference, found⟩)
    exact configuration?_eq_some_iff.2 ⟨isSecond, declaration_of_configuration? found⟩
  · intro found
    have reachesSecond := beside.reaches_second inside reaches
    have isFirst := beside.symm.mem_second insideSecond
      (reachesSecond.tail ⟨reference, isReference, found⟩)
    exact configuration?_eq_some_iff.2 ⟨isFirst, declaration_of_configuration? found⟩

/-- The same configurations are reached in both wirings. -/
theorem reaches_iff (beside : first.SameBeside second start)
    (inside : start ∈ first.configurations) {reached : Configuration} :
    first.Reaches start reached ↔ second.Reaches start reached :=
  ⟨beside.reaches_second inside, beside.symm.reaches_second (beside.mem_second inside .refl)⟩

/-- **A visit of what is reached in the first wiring is one in the second wiring.** -/
theorem depthFirst (beside : first.SameBeside second start)
    (inside : start ∈ first.configurations) {visited after : NumberSet} {pending : List Nat}
    {met : Ancestry} (visit : first.DepthFirst visited pending met after)
    (agree : ∀ target ∈ pending, first.configuration? target = second.configuration? target)
    (pends : ∀ target ∈ pending, ∀ configuration,
      first.configuration? target = some configuration → first.Reaches start configuration) :
    second.DepthFirst visited pending met after := by
  induction visit with
  | done visited => exact .done visited
  | missing absent _ ih =>
      rw [List.forall_mem_cons] at agree pends
      exact .missing (agree.1 ▸ absent) (ih agree.2 pends.2)
  | again known _ ih =>
      rw [List.forall_mem_cons] at agree pends
      exact .again known (ih agree.2 pends.2)
  | enter found fresh _ _ above further =>
      rw [List.forall_mem_cons] at agree pends
      have reaches := pends.1 _ found
      refine .enter (agree.1 ▸ found) fresh (above ?_ ?_) (further agree.2 pends.2)
      · rw [List.forall_mem_map]
        intro reference isReference
        exact beside.configuration?_eq inside reaches isReference
      · rw [List.forall_mem_map]
        intro reference isReference parent foundParent
        exact reaches.tail ⟨reference, isReference, foundParent⟩

/-- **Both wirings give the same ancestry.** -/
theorem ancestry_eq (beside : first.SameBeside second start)
    (inside : start ∈ first.configurations) : first.ancestry start = second.ancestry start := by
  have found := configuration?_declaration inside
  have foundSecond := configuration?_declaration (beside.mem_second inside .refl)
  obtain ⟨after, visit⟩ := first.depthFirst_ancestry start
  refine (ancestry_eq_of_depthFirst (beside.depthFirst inside visit ?_ ?_)).symm
  · rw [List.forall_mem_singleton, found, foundSecond]
  · rw [List.forall_mem_singleton]
    intro configuration same
    rw [found] at same
    cases same
    exact .refl

/-- Both wirings know the same of whether something is missing in the ancestry. -/
theorem isIncomplete_eq (beside : first.SameBeside second start)
    (inside : start ∈ first.configurations) :
    first.isIncomplete (first.ancestry start) = second.isIncomplete (second.ancestry start) := by
  rw [Bool.eq_iff_iff, isIncomplete_ancestry_iff inside,
    isIncomplete_ancestry_iff (beside.mem_second inside .refl)]
  refine exists_congr fun reached => ?_
  rw [← beside.reaches_iff inside]
  refine and_congr_right fun reaches => or_congr_right (exists_congr fun reference => ?_)
  exact and_congr_right fun isReference => by
    rw [beside.configuration?_eq inside reaches isReference]

end SameBeside

/-! ## What is found -/

/-- Wirings with the same classes find the same class for a declaration. -/
theorem SameBase.class?_eq (base : first.SameBase second) (number : Nat) :
    first.class? number = second.class? number := by
  ext dependent
  rw [class?_eq_some_iff, class?_eq_some_iff, base.classes]

/-- Wirings of one program find the same in one and the same provider. -/
theorem SameBase.dependencyFinding?_eq (base : first.SameBase second) :
    first.dependencyFinding? = second.dependencyFinding? := by
  funext builder complete bindings dependent registration dependency
  unfold dependencyFinding? providerFinding?
  rw [base.program]

/-- **A configuration has the same findings in wirings that differ in what it does not
reach.** -/
theorem configurationFindings_eq (base : first.SameBase second)
    (beside : first.SameBeside second start) (inside : start ∈ first.configurations) :
    first.configurationFindings start = second.configurationFindings start := by
  have ancestry := beside.ancestry_eq inside
  have provided : first.provided start = second.provided start := by
    rw [provided_eq_effective, provided_eq_effective, ancestry]
  simp only [configurationFindings, builderFindings, beside.isIncomplete_eq inside]
  simp only [dependentFindings, ancestry, provided, base.class?_eq, base.dependencyFinding?_eq]

/-! ## What is reported -/

/-- What is found in a configuration by itself is no cycle. -/
theorem kind_of_mem_configurationFindings {configuration : Configuration} {finding : Finding}
    (pushed : finding ∈ wiring.configurationFindings configuration) :
    finding.kind ≠ .extendsCycle := by
  rw [configurationFindings, List.mem_append, List.mem_append] at pushed
  rcases pushed with (again | again) | ofBuilder
  · obtain ⟨_, _, rfl⟩ := List.mem_map.1 again
    intro same
    cases same
  · obtain ⟨_, _, rfl⟩ := List.mem_map.1 again
    intro same
    cases same
  · split at ofBuilder
    · have isParameter := parameter?_of_mem_builderFindings ofBuilder
      cases finding with
      | extendsCycle => exact absurd rfl isParameter
      | _ =>
          intro same
          cases same
    · simp at ofBuilder

/-- **Apart from cycles, what is reported is what is found in each configuration.** -/
theorem mem_problems_and_kind_ne_iff {problem : Problem} :
    (problem ∈ wiring.problems ∧ problem.kind ≠ .extendsCycle) ↔
      ∃ configuration ∈ wiring.configurations,
        problem ∈ (wiring.configurationFindings configuration).map Finding.problem := by
  rw [mem_problems]
  constructor
  · rintro ⟨⟨finding, pushed, rfl⟩, noCycle⟩
    rcases List.mem_append.1 pushed with cycle | alone
    · obtain ⟨_, _, _, _, rfl, _⟩ := isCycle_of_mem_cycles cycle
      exact absurd rfl noCycle
    · obtain ⟨configuration, inside, given⟩ := List.mem_flatMap.1 alone
      exact ⟨configuration, inside, List.mem_map_of_mem given⟩
  · rintro ⟨configuration, inside, given⟩
    obtain ⟨finding, pushed, rfl⟩ := List.mem_map.1 given
    refine ⟨⟨finding, ?_, rfl⟩, kind_of_mem_configurationFindings pushed⟩
    exact List.mem_append_right _ (List.mem_flatMap.2 ⟨configuration, inside, pushed⟩)

/-- The order of the configurations makes no difference to what is found in one of them. -/
theorem SameBeside.of_perm (order : first.configurations.Perm second.configurations) :
    first.SameBeside second start :=
  ⟨fun _ inside absent _ => absent (order.mem_iff.1 inside),
    fun _ inside absent _ => absent (order.mem_iff.2 inside)⟩

/-- A configuration that is left out makes no difference to what does not reach it. -/
theorem SameBeside.of_perm_cons {skipped : Configuration}
    (order : second.configurations.Perm (skipped :: first.configurations))
    (unreached : ¬second.Reaches start skipped) : first.SameBeside second start := by
  refine ⟨fun configuration inside absent _ => absent ?_, fun configuration inside absent => ?_⟩
  · exact order.mem_iff.2 (List.mem_cons_of_mem _ inside)
  · rcases List.mem_cons.1 (order.mem_iff.1 inside) with rfl | other
    · exact unreached
    · exact absurd other absent

/-- **Configurations are checked in isolation.** In two wirings with the same program and
the same classes, a configuration has the same list of findings if the configurations
differ only in their order and by some that it does not reach. The problems of a wiring
that are no cycles are those that are found in its configurations, in whatever order these
stand; and a configuration that is left out makes a difference only to those that reach
it. -/
theorem configurations_checked_in_isolation (base : first.SameBase second) :
    (∀ start ∈ first.configurations, first.SameBeside second start →
      first.configurationFindings start = second.configurationFindings start) ∧
    (∀ problem, (problem ∈ first.problems ∧ problem.kind ≠ .extendsCycle) ↔
      ∃ configuration ∈ first.configurations,
        problem ∈ (first.configurationFindings configuration).map Finding.problem) ∧
    (first.configurations.Perm second.configurations →
      ∀ problem, (problem ∈ first.problems ∧ problem.kind ≠ .extendsCycle) ↔
        (problem ∈ second.problems ∧ problem.kind ≠ .extendsCycle)) ∧
    (∀ skipped, second.configurations.Perm (skipped :: first.configurations) →
      ∀ start ∈ first.configurations, ¬second.Reaches start skipped →
        first.configurationFindings start = second.configurationFindings start) := by
  refine ⟨?_, fun problem => mem_problems_and_kind_ne_iff, ?_, ?_⟩
  · intro start inside beside
    exact configurationFindings_eq base beside inside
  · intro order problem
    rw [mem_problems_and_kind_ne_iff, mem_problems_and_kind_ne_iff]
    refine exists_congr fun configuration => ?_
    rw [← order.mem_iff]
    refine and_congr_right fun inside => ?_
    rw [configurationFindings_eq base (.of_perm order) inside]
  · intro skipped order start inside unreached
    exact configurationFindings_eq base (.of_perm_cons order unreached) inside

namespace Diamond

/-- A configuration beside the diamond, which extends the builder. -/
def stranger : Configuration :=
  configuration 14 .fragment [⟨token 1, .value, ⟨0, ⟨14, 15⟩⟩⟩] [10]

/-- The diamond in the opposite order. -/
def turned : Wiring where
  program := program
  configurations := [base, right, left, builder]
  skipped := []
  classes := [service]
  configurations_distinct := by decide
  classes_distinct := nodup_service

/-- The diamond in the opposite order, with the stranger in between. -/
def visited : Wiring where
  program := program
  configurations := [base, right, stranger, left, builder]
  skipped := []
  classes := [service]
  configurations_distinct := by decide
  classes_distinct := nodup_service

/-- The stranger is not reached from the diamond. -/
theorem not_reaches_stranger : ¬visited.Reaches builder stranger := by
  have stays : ∀ configuration ∈ visited.configurations, configuration ≠ stranger →
      ∀ reference ∈ configuration.parents, reference.target ≠ stranger.declaration := by
    decide
  have others : ∀ {reached : Configuration}, visited.Reaches builder reached →
      reached ∈ visited.configurations ∧ reached ≠ stranger := by
    intro reached reaches
    induction reaches with
    | refl => exact ⟨by decide, by decide⟩
    | tail _ extended ih =>
        refine ⟨extended.mem_configurations, ?_⟩
        rintro rfl
        obtain ⟨reference, isReference, found⟩ := extended
        exact stays _ ih.1 ih.2 reference isReference (declaration_of_configuration? found).symm
  exact fun reaches => (others reaches).2 rfl

end Diamond

/-- The builder of the diamond is found to have the same faults when the configurations are
turned round, and when a stranger extends it. -/
theorem configurations_checked_in_isolation_diamond :
    Diamond.wired.configurations.Perm Diamond.turned.configurations ∧
      Diamond.visited.configurations.Perm (Diamond.stranger :: Diamond.wired.configurations) ∧
      ¬Diamond.visited.Reaches Diamond.builder Diamond.stranger ∧
      Diamond.wired.configurationFindings Diamond.builder =
        Diamond.turned.configurationFindings Diamond.builder ∧
      Diamond.wired.configurationFindings Diamond.builder =
        Diamond.visited.configurationFindings Diamond.builder ∧
      ∀ problem, (problem ∈ Diamond.wired.problems ∧ problem.kind ≠ .extendsCycle) ↔
        (problem ∈ Diamond.turned.problems ∧ problem.kind ≠ .extendsCycle) := by
  have order : Diamond.wired.configurations.Perm Diamond.turned.configurations := by decide
  have more : Diamond.visited.configurations.Perm
      (Diamond.stranger :: Diamond.wired.configurations) := by
    decide
  obtain ⟨alone, _, reordered, _⟩ := @configurations_checked_in_isolation
    Diamond.wired Diamond.turned ⟨rfl, fun _ => .rfl⟩
  obtain ⟨_, _, _, skipping⟩ := @configurations_checked_in_isolation
    Diamond.wired Diamond.visited ⟨rfl, fun _ => .rfl⟩
  refine ⟨order, more, Diamond.not_reaches_stranger, ?_, ?_, reordered order⟩
  · exact alone _ Diamond.builder_mem (.of_perm order)
  · exact skipping _ more _ Diamond.builder_mem Diamond.not_reaches_stranger

end Wiring

end InjectionCheck
