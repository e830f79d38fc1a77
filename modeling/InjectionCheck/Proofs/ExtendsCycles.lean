import InjectionCheck.Proofs.CycleSearch
import InjectionCheck.Proofs.Provision

/-!
# Cycles of configurations

A configuration may extend itself, directly or not. Each finding of the search for cycles is
about a reference that closes a cycle, and its message spells this cycle. In the order in
which the search leaves the configurations, a reference that is not reported leads to an
earlier one, so without the reported references no cycle is left. Hence a cycle is reported
if and only if there is one, and every cycle has a reported reference on it
(`reported_references_cut_cycles`).
-/

set_option autoImplicit false

namespace InjectionCheck

namespace Wiring

variable (wiring : Wiring)

/-! ## What is left without the reported references -/

/-- A configuration extends another one by a reference that is not reported. -/
def Keeps (configuration parent : Configuration) : Prop :=
  ∃ reference ∈ configuration.parents, wiring.configuration? reference.target = some parent ∧
    ¬Reports wiring.cycles configuration reference

/-- A way from one configuration to another one, with the references that it follows. -/
inductive Route : Configuration → List (Configuration × ParentReference) → Configuration → Prop
  | here (configuration : Configuration) : Route configuration [] configuration
  | follow {configuration parent goal : Configuration} {reference : ParentReference}
      {steps : List (Configuration × ParentReference)} :
      reference ∈ configuration.parents → wiring.configuration? reference.target = some parent →
        Route parent steps goal → Route configuration ((configuration, reference) :: steps) goal

variable {wiring}

theorem Keeps.extends {configuration parent : Configuration}
    (keeps : wiring.Keeps configuration parent) : wiring.Extends configuration parent := by
  obtain ⟨reference, isReference, found, _⟩ := keeps
  exact ⟨reference, isReference, found⟩

theorem mem_configurations_of_transGen {configuration reached : Configuration}
    (reaches : Relation.TransGen wiring.Extends configuration reached) :
    reached ∈ wiring.configurations := by
  cases reaches with
  | single extended => exact extended.mem_configurations
  | tail _ extended => exact extended.mem_configurations

variable (wiring)

/-- The order in which the search leaves the configurations: each one is settled by those
before it. -/
theorem exists_settled_order :
    ∃ order : List Configuration, InOrder (wiring.Settled wiring.cycles) [] order ∧
      ∀ configuration ∈ wiring.configurations, configuration ∈ order := by
  obtain ⟨met, after, visit, settled, _⟩ := wiring.exists_visit_cyclesFrom
    .start fun configuration inside => configuration?_declaration inside
  refine ⟨met.ancestorsFirst, settled, fun configuration inside => ?_⟩
  have found := configuration?_declaration inside
  have visited := visit.pending_visited (List.mem_map_of_mem inside) found
  exact visit.perm.mem_iff.1 (visit.mem_of_mem_after found visited)

variable {wiring}

/-- A reference that is not reported leads to a configuration that comes earlier. -/
theorem Keeps.idxOf_lt {order : List Configuration}
    (settled : InOrder (wiring.Settled wiring.cycles) [] order)
    {configuration parent : Configuration} (inside : configuration ∈ order)
    (keeps : wiring.Keeps configuration parent) :
    order.idxOf parent < order.idxOf configuration := by
  obtain ⟨reference, isReference, found, unreported⟩ := keeps
  obtain ⟨before, after, rfl, first, holds⟩ := settled.exists_before inside
  have earlier := (holds reference isReference parent found).resolve_right unreported
  rw [List.idxOf_append_of_mem earlier, List.idxOf_append_of_notMem first]
  exact Nat.lt_add_right _ (List.idxOf_lt_length_of_mem earlier)

variable (wiring)

/-- **Without the reported references no configuration extends itself.** -/
theorem not_transGen_keeps (configuration : Configuration) :
    ¬Relation.TransGen wiring.Keeps configuration configuration := by
  obtain ⟨order, settled, complete⟩ := wiring.exists_settled_order
  have descends : ∀ {reached : Configuration},
      Relation.TransGen wiring.Keeps configuration reached →
        configuration ∈ wiring.configurations →
          order.idxOf reached < order.idxOf configuration := by
    intro reached reaches inside
    induction reaches with
    | single keeps => exact keeps.idxOf_lt settled (complete _ inside)
    | tail reaches keeps ih =>
        have between := mem_configurations_of_transGen (.mono (fun _ _ => Keeps.extends) _ _ reaches)
        exact (keeps.idxOf_lt settled (complete _ between)).trans ih
  intro cycle
  have inside := mem_configurations_of_transGen (.mono (fun _ _ => Keeps.extends) _ _ cycle)
  exact Nat.lt_irrefl _ (descends cycle inside)

variable {wiring}

/-- A way along which nothing is reported stays when the reported references are deleted. -/
theorem Route.reflTransGen_keeps {start goal : Configuration}
    {steps : List (Configuration × ParentReference)} (route : wiring.Route start steps goal)
    (unreported : ∀ step ∈ steps, ¬Reports wiring.cycles step.1 step.2) :
    Relation.ReflTransGen wiring.Keeps start goal := by
  induction route with
  | here => exact .refl
  | follow isReference found _ ih =>
      have first := unreported _ List.mem_cons_self
      have others := ih fun step inside => unreported step (List.mem_cons_of_mem _ inside)
      exact .head ⟨_, isReference, found, first⟩ others

/-- Every way from a configuration back to itself follows a reported reference. -/
theorem Route.exists_reported {configuration : Configuration}
    {steps : List (Configuration × ParentReference)}
    (route : wiring.Route configuration steps configuration) (moves : steps ≠ []) :
    ∃ step ∈ steps, Reports wiring.cycles step.1 step.2 := by
  by_contra none
  have unreported : ∀ step ∈ steps, ¬Reports wiring.cycles step.1 step.2 :=
    fun step inside reported => none ⟨step, inside, reported⟩
  cases route with
  | here => exact moves rfl
  | follow isReference found rest =>
      have keeps : wiring.Keeps _ _ := ⟨_, isReference, found, unreported _ List.mem_cons_self⟩
      have back := rest.reflTransGen_keeps fun step inside =>
        unreported step (List.mem_cons_of_mem _ inside)
      exact wiring.not_transGen_keeps _ (.head' keeps back)

/-! ## What is reported -/

/-- The configurations of a cycle that is closed extend each other all around. -/
theorem ClosesCycle.isChain {first last : Configuration} {others : List Configuration}
    {reference : ParentReference} (closes : wiring.ClosesCycle first others last reference) :
    List.IsChain wiring.Extends (first :: others ++ [first]) := by
  refine closes.chain.append (.singleton first) ?_
  intro final isLast start isFirst
  rw [List.getLast?_eq_some_getLast (List.cons_ne_nil _ _), closes.ends] at isLast
  obtain rfl := Option.some.inj isLast
  obtain rfl := Option.some.inj isFirst
  exact ⟨reference, closes.isReference, closes.target⟩

theorem ClosesCycle.reaches {first last : Configuration} {others : List Configuration}
    {reference : ParentReference} (closes : wiring.ClosesCycle first others last reference) :
    wiring.Reaches first last :=
  List.relationReflTransGen_of_exists_isChain_cons others closes.chain closes.ends

/-- Whatever is reported is a cycle. -/
theorem isCycle_of_mem_cycles {finding : Finding} (reported : finding ∈ wiring.cycles) :
    wiring.IsCycle finding := by
  obtain ⟨_, _, _, _, cycles⟩ := wiring.exists_visit_cyclesFrom
    .start fun configuration inside => configuration?_declaration inside
  exact cycles finding reported

/-- A cycle is reported if and only if a configuration extends itself. -/
theorem exists_mem_cycles_iff :
    (∃ finding, finding ∈ wiring.cycles) ↔
      ∃ configuration ∈ wiring.configurations,
        Relation.TransGen wiring.Extends configuration configuration := by
  constructor
  · rintro ⟨finding, reported⟩
    obtain ⟨first, others, last, reference, _, closes⟩ := isCycle_of_mem_cycles reported
    have extended : wiring.Extends last first := ⟨reference, closes.isReference, closes.target⟩
    exact ⟨first, extended.mem_configurations, .tail' closes.reaches extended⟩
  · rintro ⟨configuration, _, cycle⟩
    by_contra none
    refine wiring.not_transGen_keeps configuration (.mono ?_ _ _ cycle)
    rintro child parent ⟨reference, isReference, found⟩
    refine ⟨reference, isReference, found, ?_⟩
    rintro ⟨first, others, reported⟩
    exact none ⟨_, reported⟩

/-- **The reported references cut all cycles, and each of them closes one.** A finding is
placed at a reference of a configuration to one from which the configuration is reached, and
its message spells a cycle from there to the configuration and back. When the reported
references are deleted no cycle is left. So a cycle is reported if and only if a configuration
extends itself, and every cycle follows a reported reference. -/
theorem reported_references_cut_cycles (wiring : Wiring) :
    (∀ finding ∈ wiring.cycles, ∃ first others last reference,
      finding = .extendsCycle first others last reference ∧
      last ∈ wiring.configurations ∧ reference ∈ last.parents ∧
      wiring.configuration? reference.target = some first ∧ wiring.Reaches first last ∧
      finding.problem.location = ⟨last.location.file, reference.span⟩ ∧
      List.IsChain wiring.Extends (first :: others ++ [first]) ∧
      (first :: others).getLast (List.cons_ne_nil _ _) = last ∧
      finding.problem.message = first.describe ++ " extends itself: " ++
        " -> ".intercalate ((first :: others ++ [first]).map Configuration.name)) ∧
    (∀ configuration, ¬Relation.TransGen wiring.Keeps configuration configuration) ∧
    ((∃ finding, finding ∈ wiring.cycles) ↔ ∃ configuration ∈ wiring.configurations,
      Relation.TransGen wiring.Extends configuration configuration) ∧
    (∀ configuration steps, wiring.Route configuration steps configuration → steps ≠ [] →
      ∃ step ∈ steps, Reports wiring.cycles step.1 step.2) := by
  refine ⟨?_, wiring.not_transGen_keeps, exists_mem_cycles_iff, ?_⟩
  · intro finding reported
    obtain ⟨first, others, last, reference, rfl, closes⟩ := isCycle_of_mem_cycles reported
    have extended : wiring.Extends last first := ⟨reference, closes.isReference, closes.target⟩
    have inside := mem_configurations_of_reaches extended.mem_configurations closes.reaches
    exact ⟨first, others, last, reference, rfl, inside, closes.isReference, closes.target,
      closes.reaches, rfl, closes.isChain, closes.ends, rfl⟩
  · intro configuration steps route moves
    exact route.exists_reported moves

/-- In the diamond the base extends the builder, and this is reported. -/
theorem reported_references_cut_cycles_diamond :
    ∃ finding ∈ Diamond.wired.cycles, ∃ first others last reference,
      finding = .extendsCycle first others last reference ∧
        List.IsChain Diamond.wired.Extends (first :: others ++ [first]) := by
  obtain ⟨described, _, reports, _⟩ := reported_references_cut_cycles Diamond.wired
  have toLeft : Diamond.wired.Extends Diamond.builder Diamond.left :=
    extends_of_mem (by decide) (by decide)
  have toBase : Diamond.wired.Extends Diamond.left Diamond.base :=
    extends_of_mem (by decide) (by decide)
  have back : Diamond.wired.Extends Diamond.base Diamond.builder :=
    extends_of_mem (by decide) (by decide)
  have cycle : Relation.TransGen Diamond.wired.Extends Diamond.builder Diamond.builder :=
    .tail (.tail (.single toLeft) toBase) back
  obtain ⟨finding, reported⟩ := reports.2 ⟨Diamond.builder, Diamond.builder_mem, cycle⟩
  obtain ⟨first, others, last, reference, same, _, _, _, _, _, chain, _⟩ :=
    described finding reported
  exact ⟨finding, reported, first, others, last, reference, same, chain⟩

end Wiring

end InjectionCheck
