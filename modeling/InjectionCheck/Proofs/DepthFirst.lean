import InjectionCheck.Validation.Wiring
import Mathlib.Logic.Relation

/-!
# Depth-first visits

A configuration reaches itself, what it extends, what that extends, and so on. The
relation `DepthFirst` says in which order a depth-first visit meets what some
declarations reach, without what was visited before: a configuration, then what its
parents reach, one parent after the other, then the rest.

Every visit comes to an end (`exists_depthFirst`), whatever refers to what, and `walk`
follows it on its list of steps (`walk_of_depthFirst`). The ancestry of a configuration
is therefore its depth-first visit (`depthFirst_ancestry`), and it has the
configurations that are reached and no others (`mem_nearestFirst_ancestry`).
-/

set_option autoImplicit false

namespace InjectionCheck

namespace Wiring

variable (wiring : Wiring)

/-! ## Reaching configurations -/

/-- A configuration extends another one: one of its references leads there. -/
def Extends (configuration parent : Configuration) : Prop :=
  ∃ reference ∈ configuration.parents, wiring.configuration? reference.target = some parent

/-- A configuration reaches itself and what it extends, directly or not. -/
abbrev Reaches : Configuration → Configuration → Prop :=
  Relation.ReflTransGen wiring.Extends

variable {wiring}

/-- What is found for a declaration is the configuration that the declaration holds. -/
theorem declaration_of_configuration? {target : Nat} {configuration : Configuration}
    (found : wiring.configuration? target = some configuration) :
    configuration.declaration = target := by
  rw [configuration?_eq_find?] at found
  simpa using List.find?_some found

/-- A configuration is found by its declaration, since no other one has it. -/
theorem configuration?_declaration {configuration : Configuration}
    (inside : configuration ∈ wiring.configurations) :
    wiring.configuration? configuration.declaration = some configuration := by
  have distinct := wiring.configurations_distinct
  rw [configuration?_eq_find?]
  generalize wiring.configurations = configurations at inside distinct
  induction configurations with
  | nil => simp at inside
  | cons first others ih =>
      rw [List.map_cons, List.nodup_cons] at distinct
      rcases List.mem_cons.1 inside with rfl | later
      · simp
      · have differs : first.declaration ≠ configuration.declaration := fun same =>
          distinct.1 (same ▸ List.mem_map_of_mem later)
        rw [List.find?_cons_of_neg (by simpa using differs)]
        exact ih later distinct.2

/-- A configuration extends another one that one of its references names. -/
theorem extends_of_mem {configuration parent : Configuration}
    (inside : parent ∈ wiring.configurations)
    (named : parent.declaration ∈ configuration.parents.map ParentReference.target) :
    wiring.Extends configuration parent := by
  obtain ⟨reference, isReference, same⟩ := List.mem_map.1 named
  exact ⟨reference, isReference, same ▸ configuration?_declaration inside⟩

/-- What is extended is a configuration of the wiring. -/
theorem Extends.mem_configurations {configuration parent : Configuration}
    (extended : wiring.Extends configuration parent) : parent ∈ wiring.configurations := by
  obtain ⟨reference, _, found⟩ := extended
  rw [configuration?_eq_find?] at found
  exact List.mem_of_find?_eq_some found

/-- What a configuration reaches is a configuration of the wiring. -/
theorem mem_configurations_of_reaches {configuration reached : Configuration}
    (inside : configuration ∈ wiring.configurations)
    (reaches : wiring.Reaches configuration reached) : reached ∈ wiring.configurations := by
  cases reaches with
  | refl => exact inside
  | tail _ extended => exact extended.mem_configurations

/-! ## The visit -/

variable (wiring)

/-- `DepthFirst visited pending met after`: from the configurations that the pending
declarations hold, a depth-first visit that has visited some configurations meets those
of `met`, and then has visited those of `after`. -/
inductive DepthFirst : NumberSet → List Nat → Ancestry → NumberSet → Prop where
  /-- Nothing is left to visit. -/
  | done (visited : NumberSet) : DepthFirst visited [] ⟨[], []⟩ visited
  /-- The declaration holds no configuration. -/
  | missing {visited after : NumberSet} {target : Nat} {others : List Nat} {met : Ancestry} :
      wiring.configuration? target = none → DepthFirst visited others met after →
        DepthFirst visited (target :: others) met after
  /-- The configuration has been visited. -/
  | again {visited after : NumberSet} {target : Nat} {others : List Nat} {met : Ancestry} :
      target ∈ visited → DepthFirst visited others met after →
        DepthFirst visited (target :: others) met after
  /-- The configuration is visited, then its parents, then the others. -/
  | enter {visited between after : NumberSet} {target : Nat} {others : List Nat}
      {configuration : Configuration} {above further : Ancestry} :
      wiring.configuration? target = some configuration → target ∉ visited →
        DepthFirst (visited.insert target) (configuration.parents.map ParentReference.target)
          above between →
        DepthFirst between others further after →
        DepthFirst visited (target :: others)
          ⟨configuration :: above.nearestFirst ++ further.nearestFirst,
            above.ancestorsFirst ++ configuration :: further.ancestorsFirst⟩ after

variable {wiring}

/-- Afterwards those are visited that were before, and those that were met. -/
theorem DepthFirst.mem_after {visited after : NumberSet} {pending : List Nat} {met : Ancestry}
    (visit : wiring.DepthFirst visited pending met after) (number : Nat) :
    number ∈ after ↔ number ∈ visited ∨
      ∃ configuration ∈ met.nearestFirst, configuration.declaration = number := by
  induction visit with
  | done => simp
  | missing _ _ ih => exact ih
  | again _ _ ih => exact ih
  | enter found _ _ _ above further =>
      have same := declaration_of_configuration? found
      rw [further, above, NumberSet.mem_insert]
      simp only [List.cons_append, List.mem_cons, List.mem_append, or_and_right, exists_or,
        exists_eq_left, same, eq_comm (a := number)]
      rw [or_assoc, or_assoc, or_left_comm]

/-- What was visited stays visited. -/
theorem DepthFirst.mem_after_of_mem {visited after : NumberSet} {pending : List Nat}
    {met : Ancestry} (visit : wiring.DepthFirst visited pending met after) {number : Nat}
    (inside : number ∈ visited) : number ∈ after :=
  (visit.mem_after number).2 (.inl inside)

variable (wiring)

/-- **Every visit comes to an end**, whatever extends what. -/
theorem exists_depthFirst (visited : NumberSet) (pending : List Nat) :
    ∃ met after, wiring.DepthFirst visited pending met after := by
  match pending with
  | [] => exact ⟨_, _, .done visited⟩
  | target :: others =>
    cases found : wiring.configuration? target with
    | none =>
        obtain ⟨met, after, visit⟩ := exists_depthFirst visited others
        exact ⟨met, after, .missing found visit⟩
    | some configuration =>
        by_cases fresh : target ∈ visited
        · obtain ⟨met, after, visit⟩ := exists_depthFirst visited others
          exact ⟨met, after, .again fresh visit⟩
        · have fewer := unvisited_insert_lt (mem_nodes found) fresh
          obtain ⟨above, between, parents⟩ := exists_depthFirst (visited.insert target)
            (configuration.parents.map ParentReference.target)
          have fewerStill := Nat.lt_of_le_of_lt (unvisited_le_of_subset wiring.nodes
            fun _ inside => parents.mem_after_of_mem inside) fewer
          obtain ⟨further, after, rest⟩ := exists_depthFirst between others
          exact ⟨_, after, .enter found fresh parents rest⟩
termination_by (unvisited wiring.nodes visited, pending.length)
decreasing_by
  · exact .right _ (Nat.lt_succ_self _)
  · exact .right _ (Nat.lt_succ_self _)
  · exact .left _ _ fewer
  · exact .left _ _ fewerStill

/-! ## The walk follows the visit -/

variable {wiring}

theorem walk_nil (visited : NumberSet) : wiring.walk visited [] = ⟨[], []⟩ := by
  rw [walk]

theorem walk_leave (visited : NumberSet) (configuration : Configuration)
    (others : List WalkStep) :
    wiring.walk visited (.leave configuration :: others) =
      ⟨(wiring.walk visited others).nearestFirst,
        configuration :: (wiring.walk visited others).ancestorsFirst⟩ := by
  rw [walk]

theorem walk_missing {target : Nat} (absent : wiring.configuration? target = none)
    (visited : NumberSet) (others : List WalkStep) :
    wiring.walk visited (.enter target :: others) = wiring.walk visited others := by
  rw [walk]
  split
  · rfl
  · next found => simp [absent] at found

theorem walk_again {visited : NumberSet} {target : Nat} (inside : target ∈ visited)
    (others : List WalkStep) :
    wiring.walk visited (.enter target :: others) = wiring.walk visited others := by
  rw [walk]
  split
  · rfl
  · rw [dif_neg (not_not_intro inside)]

theorem walk_enter {visited : NumberSet} {target : Nat} {configuration : Configuration}
    (found : wiring.configuration? target = some configuration) (fresh : target ∉ visited)
    (others : List WalkStep) :
    wiring.walk visited (.enter target :: others) =
      let after := wiring.walk (visited.insert target)
        ((configuration.parents.map ParentReference.target).map WalkStep.enter ++
          .leave configuration :: others)
      ⟨configuration :: after.nearestFirst, after.ancestorsFirst⟩ := by
  rw [walk]
  split
  · next absent => simp [found] at absent
  · next other same =>
      obtain rfl := Option.some.inj (found.symm.trans same)
      rw [dif_pos fresh, List.map_map]
      rfl

/-- **The walk meets what the visit meets, and goes on with the steps that are left.** -/
theorem walk_of_depthFirst {visited after : NumberSet} {pending : List Nat} {met : Ancestry}
    (visit : wiring.DepthFirst visited pending met after) (steps : List WalkStep) :
    wiring.walk visited (pending.map WalkStep.enter ++ steps) =
      ⟨met.nearestFirst ++ (wiring.walk after steps).nearestFirst,
        met.ancestorsFirst ++ (wiring.walk after steps).ancestorsFirst⟩ := by
  induction visit generalizing steps with
  | done => rfl
  | missing absent _ ih =>
      rw [List.map_cons, List.cons_append, walk_missing absent]
      exact ih steps
  | again inside _ ih =>
      rw [List.map_cons, List.cons_append, walk_again inside]
      exact ih steps
  | enter found fresh _ _ above further =>
      rw [List.map_cons, List.cons_append, walk_enter found fresh, above, walk_leave, further]
      simp only [List.cons_append, List.append_assoc]

/-- The ancestry of a configuration is what any depth-first visit of it meets. -/
theorem ancestry_eq_of_depthFirst {configuration : Configuration} {met : Ancestry}
    {after : NumberSet}
    (visit : wiring.DepthFirst ∅ [configuration.declaration] met after) :
    wiring.ancestry configuration = met := by
  have walked := walk_of_depthFirst visit []
  rw [List.append_nil, walk_nil, List.append_nil, List.append_nil] at walked
  exact walked

variable (wiring)

/-- **The ancestry of a configuration is its depth-first visit.** -/
theorem depthFirst_ancestry (configuration : Configuration) :
    ∃ after, wiring.DepthFirst ∅ [configuration.declaration] (wiring.ancestry configuration)
      after := by
  obtain ⟨met, after, visit⟩ := wiring.exists_depthFirst ∅ [configuration.declaration]
  rw [ancestry_eq_of_depthFirst visit]
  exact ⟨after, visit⟩

variable {wiring}

/-- In its ancestry a configuration comes before or after everything else, and the rest is the
visit of its parents. -/
theorem exists_ancestry_eq {configuration : Configuration}
    (inside : configuration ∈ wiring.configurations) :
    ∃ above after,
      wiring.DepthFirst (NumberSet.insert ∅ configuration.declaration)
        (configuration.parents.map ParentReference.target) above after ∧
      wiring.ancestry configuration =
        ⟨configuration :: above.nearestFirst, above.ancestorsFirst ++ [configuration]⟩ := by
  have found := configuration?_declaration inside
  obtain ⟨after, visit⟩ := wiring.depthFirst_ancestry configuration
  generalize wiring.ancestry configuration = met at visit
  cases visit with
  | missing absent _ => simp [absent] at found
  | again impossible _ => exact absurd impossible (NumberSet.not_mem_empty _)
  | enter foundSame _ parents rest =>
      rw [found] at foundSame
      cases foundSame
      cases rest with
      | done => exact ⟨_, _, parents, by rw [List.append_nil]⟩

/-- In its ancestry a configuration comes first, and then the visit of its parents. -/
theorem exists_depthFirst_parents {configuration : Configuration}
    (inside : configuration ∈ wiring.configurations) :
    ∃ above after,
      wiring.DepthFirst (NumberSet.insert ∅ configuration.declaration)
        (configuration.parents.map ParentReference.target) above after ∧
      (wiring.ancestry configuration).nearestFirst = configuration :: above.nearestFirst := by
  obtain ⟨above, after, parents, order⟩ := exists_ancestry_eq inside
  exact ⟨above, after, parents, by rw [order]⟩

/-! ## What is met -/

/-- What is met is reached from what was pending. -/
theorem DepthFirst.reaches {visited after : NumberSet} {pending : List Nat} {met : Ancestry}
    (visit : wiring.DepthFirst visited pending met after) {configuration : Configuration}
    (inside : configuration ∈ met.nearestFirst) :
    ∃ target ∈ pending, ∃ start, wiring.configuration? target = some start ∧
      wiring.Reaches start configuration := by
  induction visit with
  | done => simp at inside
  | missing _ _ ih =>
      obtain ⟨target, pends, start, found, reached⟩ := ih inside
      exact ⟨target, List.mem_cons_of_mem _ pends, start, found, reached⟩
  | again _ _ ih =>
      obtain ⟨target, pends, start, found, reached⟩ := ih inside
      exact ⟨target, List.mem_cons_of_mem _ pends, start, found, reached⟩
  | @enter _ _ _ target _ entered _ _ found _ _ _ above further =>
      simp only [List.cons_append, List.mem_cons, List.mem_append] at inside
      rcases inside with rfl | higher | later
      · exact ⟨target, List.mem_cons_self, configuration, found, .refl⟩
      · obtain ⟨parent, pends, start, foundParent, reached⟩ := above higher
        obtain ⟨reference, isReference, rfl⟩ := List.mem_map.1 pends
        refine ⟨target, List.mem_cons_self, entered, found, ?_⟩
        exact .head ⟨reference, isReference, foundParent⟩ reached
      · obtain ⟨other, pends, start, foundOther, reached⟩ := further later
        exact ⟨other, List.mem_cons_of_mem _ pends, start, foundOther, reached⟩

/-- What is met is found by its declaration. -/
theorem DepthFirst.configuration?_eq_some {visited after : NumberSet} {pending : List Nat}
    {met : Ancestry} (visit : wiring.DepthFirst visited pending met after)
    {configuration : Configuration} (inside : configuration ∈ met.nearestFirst) :
    wiring.configuration? configuration.declaration = some configuration := by
  induction visit with
  | done => simp at inside
  | missing _ _ ih => exact ih inside
  | again _ _ ih => exact ih inside
  | enter found _ _ _ above further =>
      simp only [List.cons_append, List.mem_cons, List.mem_append] at inside
      rcases inside with rfl | higher | later
      · rw [declaration_of_configuration? found]
        exact found
      · exact above higher
      · exact further later

/-- The two orders of a visit have the same configurations. -/
theorem DepthFirst.perm {visited after : NumberSet} {pending : List Nat} {met : Ancestry}
    (visit : wiring.DepthFirst visited pending met after) :
    met.nearestFirst.Perm met.ancestorsFirst := by
  induction visit with
  | done => exact .nil
  | missing _ _ ih => exact ih
  | again _ _ ih => exact ih
  | enter _ _ _ _ above further =>
      rw [List.cons_append]
      exact ((above.append further).cons _).trans List.perm_middle.symm

/-- Nothing is met that was visited before. -/
theorem DepthFirst.not_mem_visited {visited after : NumberSet} {pending : List Nat}
    {met : Ancestry} (visit : wiring.DepthFirst visited pending met after)
    {configuration : Configuration} (inside : configuration ∈ met.nearestFirst) :
    configuration.declaration ∉ visited := by
  induction visit with
  | done => simp at inside
  | missing _ _ ih => exact ih inside
  | again _ _ ih => exact ih inside
  | enter found fresh parents _ above further =>
      simp only [List.cons_append, List.mem_cons, List.mem_append] at inside
      rcases inside with rfl | higher | later
      · rwa [declaration_of_configuration? found]
      · exact fun before => above higher (NumberSet.mem_insert.2 (.inr before))
      · exact fun before => further later
          (parents.mem_after_of_mem (NumberSet.mem_insert.2 (.inr before)))

/-- **Nothing is met twice.** -/
theorem DepthFirst.nodup {visited after : NumberSet} {pending : List Nat} {met : Ancestry}
    (visit : wiring.DepthFirst visited pending met after) :
    (met.nearestFirst.map Configuration.declaration).Nodup := by
  induction visit with
  | done => exact List.nodup_nil
  | missing _ _ ih => exact ih
  | again _ _ ih => exact ih
  | @enter visited _ _ target _ entered _ _ found _ parents rest above further =>
      have here : entered.declaration = target := declaration_of_configuration? found
      have now : target ∈ visited.insert target := NumberSet.mem_insert.2 (.inl rfl)
      rw [List.cons_append, List.map_cons, List.nodup_cons, List.map_append, here]
      refine ⟨fun again => ?_, List.nodup_append.2 ⟨above, further, ?_⟩⟩
      · rcases List.mem_append.1 again with higher | later
        · obtain ⟨other, isMet, same⟩ := List.mem_map.1 higher
          exact parents.not_mem_visited isMet (same ▸ now)
        · obtain ⟨other, isMet, same⟩ := List.mem_map.1 later
          exact rest.not_mem_visited isMet (same ▸ parents.mem_after_of_mem now)
      · rintro number higher _ later rfl
        obtain ⟨other, isMet, same⟩ := List.mem_map.1 later
        have before := (parents.mem_after number).2 (.inr (List.mem_map.1 higher))
        exact rest.not_mem_visited isMet (same ▸ before)

/-- What was pending is visited. -/
theorem DepthFirst.pending_visited {visited after : NumberSet} {pending : List Nat}
    {met : Ancestry} (visit : wiring.DepthFirst visited pending met after) {target : Nat}
    (pends : target ∈ pending) {configuration : Configuration}
    (found : wiring.configuration? target = some configuration) : target ∈ after := by
  induction visit with
  | done => simp at pends
  | missing absent _ ih =>
      rcases List.mem_cons.1 pends with rfl | later
      · simp [absent] at found
      · exact ih later
  | again inside rest ih =>
      rcases List.mem_cons.1 pends with rfl | later
      · exact rest.mem_after_of_mem inside
      · exact ih later
  | enter _ _ parents rest _ further =>
      rcases List.mem_cons.1 pends with rfl | later
      · exact rest.mem_after_of_mem
          (parents.mem_after_of_mem (NumberSet.mem_insert.2 (.inl rfl)))
      · exact further later

/-- What extends is met only together with what it extends. -/
theorem DepthFirst.parent_visited {visited after : NumberSet} {pending : List Nat}
    {met : Ancestry} (visit : wiring.DepthFirst visited pending met after)
    {configuration parent : Configuration} (inside : configuration ∈ met.nearestFirst)
    (extended : wiring.Extends configuration parent) : parent.declaration ∈ after := by
  induction visit with
  | done => simp at inside
  | missing _ _ ih => exact ih inside
  | again _ _ ih => exact ih inside
  | enter _ _ parents rest above further =>
      simp only [List.cons_append, List.mem_cons, List.mem_append] at inside
      rcases inside with rfl | higher | later
      · obtain ⟨reference, isReference, found⟩ := extended
        rw [declaration_of_configuration? found]
        exact rest.mem_after_of_mem
          (parents.pending_visited (List.mem_map_of_mem isReference) found)
      · exact rest.mem_after_of_mem (above higher)
      · exact further later

/-- Where nothing was visited before, what has been visited has been met. -/
theorem DepthFirst.mem_of_mem_after {after : NumberSet} {pending : List Nat} {met : Ancestry}
    (visit : wiring.DepthFirst ∅ pending met after) {target : Nat} {configuration : Configuration}
    (found : wiring.configuration? target = some configuration) (visited : target ∈ after) :
    configuration ∈ met.nearestFirst := by
  rcases (visit.mem_after target).1 visited with impossible | ⟨same, isMet, declares⟩
  · exact absurd impossible (NumberSet.not_mem_empty target)
  · have foundSame := visit.configuration?_eq_some isMet
    rw [declares, found] at foundSame
    cases foundSame
    exact isMet

/-- **The ancestry of a configuration has what the configuration reaches, and nothing
else.** -/
theorem mem_nearestFirst_ancestry {configuration reached : Configuration}
    (inside : configuration ∈ wiring.configurations) :
    reached ∈ (wiring.ancestry configuration).nearestFirst ↔
      wiring.Reaches configuration reached := by
  have found := configuration?_declaration inside
  obtain ⟨after, visit⟩ := wiring.depthFirst_ancestry configuration
  constructor
  · intro isMet
    obtain ⟨target, pends, start, foundStart, reaches⟩ := visit.reaches isMet
    rw [List.mem_singleton.1 pends, found] at foundStart
    cases foundStart
    exact reaches
  · intro reaches
    induction reaches with
    | refl => exact visit.mem_of_mem_after found (visit.pending_visited List.mem_cons_self found)
    | tail _ extended ih =>
        have visited := visit.parent_visited ih extended
        obtain ⟨reference, _, foundParent⟩ := extended
        rw [declaration_of_configuration? foundParent] at visited
        exact visit.mem_of_mem_after foundParent visited

end Wiring

end InjectionCheck
