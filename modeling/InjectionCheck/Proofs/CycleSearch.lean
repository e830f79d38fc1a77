import InjectionCheck.Proofs.DepthFirst
import InjectionCheck.Validation.Check
import Mathlib.Data.List.Chain
import Mathlib.Tactic.Tauto

/-!
# The search for cycles

The search follows references depth first. It keeps the path of the configurations that
have been entered and not yet left, and it reports a reference that leads back to the path.
It meets the same configurations as the depth-first visit, and leaves them in the same order
(`exists_searched`, `exists_visit_cyclesFrom`).

When a configuration is left, everything that it refers to has been left before, but for
what its reported references lead to (`Settled`). What a reported reference closes is a
cycle, and the path gives its other configurations (`ClosesCycle`).
-/

set_option autoImplicit false

namespace InjectionCheck

/-! ## Lists in order -/

section InOrder

variable {α : Type} {holds : List α → α → Prop}

/-- Something holds of each element of a list and of the elements before it. -/
def InOrder (holds : List α → α → Prop) (before : List α) : List α → Prop
  | [] => True
  | item :: others => holds before item ∧ InOrder holds (before ++ [item]) others

theorem inOrder_append {before first second : List α} :
    InOrder holds before (first ++ second) ↔
      InOrder holds before first ∧ InOrder holds (before ++ first) second := by
  induction first generalizing before with
  | nil => simp only [List.nil_append, List.append_nil, InOrder, true_and]
  | cons item others ih =>
      rw [List.cons_append, InOrder, InOrder, ih, List.append_assoc, List.singleton_append,
        and_assoc]

theorem InOrder.imp {more : List α → α → Prop} (weaker : ∀ before item, holds before item →
    more before item) {before items : List α} (ordered : InOrder holds before items) :
    InOrder more before items := by
  induction items generalizing before with
  | nil => trivial
  | cons item others ih =>
      obtain ⟨first, rest⟩ := ordered
      exact ⟨weaker before item first, ih rest⟩

/-- Something holds of an element and of those before its first place. -/
theorem InOrder.exists_before {items : List α} (ordered : InOrder holds [] items) {item : α}
    (inside : item ∈ items) :
    ∃ before after, items = before ++ item :: after ∧ item ∉ before ∧ holds before item := by
  obtain ⟨before, after, rfl, first⟩ := List.eq_append_cons_of_mem inside
  rw [inOrder_append, List.nil_append] at ordered
  exact ⟨before, after, rfl, first, ordered.2.1⟩

end InOrder

namespace Wiring

/-! ## Reported references -/

/-- Some findings report that a reference of a configuration closes a cycle. -/
def Reports (findings : List Finding) (configuration : Configuration)
    (reference : ParentReference) : Prop :=
  ∃ first others, .extendsCycle first others configuration reference ∈ findings

theorem Reports.mono {findings more : List Finding} (subset : findings ⊆ more)
    {configuration : Configuration} {reference : ParentReference}
    (reported : Reports findings configuration reference) :
    Reports more configuration reference := by
  obtain ⟨first, others, inside⟩ := reported
  exact ⟨first, others, subset inside⟩

variable (wiring : Wiring)

/-- A reference closes a cycle: some configurations extend each other in a row, and the last
one extends the first one by the reference. -/
structure ClosesCycle (first : Configuration) (others : List Configuration)
    (last : Configuration) (reference : ParentReference) : Prop where
  isReference : reference ∈ last.parents
  target : wiring.configuration? reference.target = some first
  chain : List.IsChain wiring.Extends (first :: others)
  ends : (first :: others).getLast (List.cons_ne_nil _ _) = last

/-- A finding says that a reference closes a cycle, and it does. -/
def IsCycle (finding : Finding) : Prop :=
  ∃ first others last reference, finding = .extendsCycle first others last reference ∧
    wiring.ClosesCycle first others last reference

/-- What some references of a configuration lead to is among some earlier configurations, but
for what the reported ones lead to. -/
def Followed (findings : List Finding) (earlier : List Configuration)
    (configuration : Configuration) (references : List ParentReference) : Prop :=
  ∀ reference ∈ references, ∀ parent, wiring.configuration? reference.target = some parent →
    parent ∈ earlier ∨ Reports findings configuration reference

/-- Everything that a configuration refers to is among some earlier configurations, but for
what its reported references lead to. -/
def Settled (findings : List Finding) (earlier : List Configuration)
    (configuration : Configuration) : Prop :=
  wiring.Followed findings earlier configuration configuration.parents

variable {wiring}

section Followed

variable {findings more : List Finding} {earlier later : List Configuration}
  {configuration : Configuration}

theorem Followed.mono {references : List ParentReference}
    (followed : wiring.Followed findings earlier configuration references)
    (subset : findings ⊆ more) (grows : earlier ⊆ later) :
    wiring.Followed more later configuration references := by
  intro reference isReference parent found
  exact (followed reference isReference parent found).imp (fun before => grows before)
    (·.mono subset)

theorem Settled.mono (subset : findings ⊆ more)
    (settled : wiring.Settled findings earlier configuration) :
    wiring.Settled more earlier configuration :=
  Followed.mono settled subset (List.Subset.refl earlier)

end Followed

/-! ## The path -/

variable (wiring)

/-- The path of a search, innermost configuration first, when some configurations have been
left: on it each one is extended by the next one, and what has been visited is on it or has
been left. -/
structure OnPath (visited : NumberSet) (left path : List Configuration) : Prop where
  chain : List.IsChain (fun parent child => wiring.Extends child parent) path
  found : ∀ configuration ∈ path,
    wiring.configuration? configuration.declaration = some configuration
  covered : ∀ number ∈ visited, ∃ configuration,
    wiring.configuration? number = some configuration ∧
      (configuration ∈ left ∨ configuration ∈ path)

variable {wiring}

theorem OnPath.start : wiring.OnPath ∅ [] [] where
  chain := .nil
  found := fun _ inside => absurd inside List.not_mem_nil
  covered := fun number inside => absurd inside (NumberSet.not_mem_empty number)

section Path

variable {visited : NumberSet} {left path : List Configuration}

/-- The path gets longer by a configuration that its innermost one extends. -/
theorem OnPath.enter (onPath : wiring.OnPath visited left path) {target : Nat}
    {configuration : Configuration}
    (found : wiring.configuration? target = some configuration)
    (extended : ∀ inner ∈ path.head?, wiring.Extends inner configuration) :
    wiring.OnPath (visited.insert target) left (configuration :: path) where
  chain := onPath.chain.cons extended
  found := by
    intro other inside
    rcases List.mem_cons.1 inside with rfl | outer
    · rw [declaration_of_configuration? found]
      exact found
    · exact onPath.found other outer
  covered := by
    intro number inside
    rcases NumberSet.mem_insert.1 inside with rfl | before
    · exact ⟨configuration, found, .inr List.mem_cons_self⟩
    · obtain ⟨other, foundOther, place⟩ := onPath.covered number before
      exact ⟨other, foundOther, place.imp_right (List.mem_cons_of_mem _)⟩

/-- What a visit has met has been left. -/
theorem OnPath.visit (onPath : wiring.OnPath visited left path) {pending : List Nat}
    {met : Ancestry} {after : NumberSet} (visit : wiring.DepthFirst visited pending met after) :
    wiring.OnPath after (left ++ met.ancestorsFirst) path where
  chain := onPath.chain
  found := onPath.found
  covered := by
    intro number inside
    rcases (visit.mem_after number).1 inside with before | ⟨configuration, isMet, rfl⟩
    · obtain ⟨other, found, place⟩ := onPath.covered number before
      exact ⟨other, found, place.imp_left (List.mem_append_left _)⟩
    · refine ⟨configuration, visit.configuration?_eq_some isMet, .inl ?_⟩
      exact List.mem_append_right _ (visit.perm.mem_iff.1 isMet)

/-- The innermost configuration of the path is left. -/
theorem OnPath.leave {configuration : Configuration}
    (onPath : wiring.OnPath visited left (configuration :: path)) :
    wiring.OnPath visited (left ++ [configuration]) path where
  chain := onPath.chain.tail
  found := fun other inside => onPath.found other (List.mem_cons_of_mem _ inside)
  covered := by
    intro number inside
    obtain ⟨other, found, before | here⟩ := onPath.covered number inside
    · exact ⟨other, found, .inl (List.mem_append_left _ before)⟩
    · rcases List.mem_cons.1 here with rfl | outer
      · exact ⟨other, found, .inl (List.mem_append_right _ List.mem_cons_self)⟩
      · exact ⟨other, found, .inr outer⟩

/-- A configuration that has been visited and is not on the path has been left. -/
theorem OnPath.mem_left (onPath : wiring.OnPath visited left path) {target : Nat}
    (inside : target ∈ visited) {parent : Configuration}
    (found : wiring.configuration? target = some parent)
    (off : path.any (·.declaration = target) = false) : parent ∈ left := by
  obtain ⟨configuration, foundSame, place⟩ := onPath.covered target inside
  rw [found] at foundSame
  cases foundSame
  refine place.resolve_right fun onIt => ?_
  have differs := List.any_eq_false.1 off parent onIt
  exact differs (decide_eq_true (declaration_of_configuration? found))

/-- A configuration on the path splits it. -/
theorem OnPath.exists_split (onPath : wiring.OnPath visited left path) {target : Nat}
    {parent : Configuration} (found : wiring.configuration? target = some parent)
    (on : path.any (·.declaration = target) = true) :
    ∃ outer, path =
      (path.takeWhile fun configuration => configuration.declaration ≠ parent.declaration) ++
        parent :: outer := by
  obtain ⟨configuration, inside, same⟩ := List.any_eq_true.1 on
  have isParent : configuration = parent := by
    have foundSame := onPath.found configuration inside
    rw [of_decide_eq_true same, found] at foundSame
    exact (Option.some.inj foundSame).symm
  subst isParent
  clear same found on
  have unique : ∀ other ∈ path, other.declaration = configuration.declaration →
      other = configuration := by
    intro other isOther same
    have foundOther := onPath.found other isOther
    rw [same, onPath.found configuration inside] at foundOther
    exact (Option.some.inj foundOther).symm
  clear onPath
  induction path with
  | nil => cases inside
  | cons inner outer ih =>
      by_cases here : inner.declaration = configuration.declaration
      · refine ⟨outer, ?_⟩
        rw [List.takeWhile_cons_of_neg (by simpa using here), List.nil_append,
          unique inner List.mem_cons_self here]
      · have later : configuration ∈ outer := by
          rcases List.mem_cons.1 inside with rfl | later
          · exact absurd rfl here
          · exact later
        obtain ⟨rest, split⟩ := ih later fun other isOther =>
          unique other (List.mem_cons_of_mem _ isOther)
        refine ⟨rest, ?_⟩
        rw [List.takeWhile_cons_of_pos (by simpa using here), List.cons_append, ← split]

/-- **A reference back to the path closes a cycle.** -/
theorem OnPath.isCycle_closedCycle {inner : Configuration} {outer : List Configuration}
    (onPath : wiring.OnPath visited left (inner :: outer)) {reference : ParentReference}
    (isReference : reference ∈ inner.parents) {parent : Configuration}
    (found : wiring.configuration? reference.target = some parent)
    (on : (inner :: outer).any (·.declaration = reference.target) = true) :
    wiring.IsCycle (closedCycle inner outer parent reference) := by
  obtain ⟨rest, split⟩ := onPath.exists_split found on
  have chain := onPath.chain
  have ends : (inner :: outer).head? = some inner := rfl
  unfold closedCycle
  dsimp only
  generalize (inner :: outer).takeWhile _ = after at split ⊢
  rw [split, List.append_cons] at chain ends
  have turned : (after ++ [parent]).reverse = parent :: after.reverse := by
    rw [List.reverse_append, List.reverse_singleton, List.singleton_append]
  refine ⟨parent, after.reverse, inner, reference, rfl, isReference, found, ?_, ?_⟩
  · rw [← turned]
    exact List.isChain_reverse.2 chain.left_of_append
  · rw [List.head?_append_of_ne_nil _ (by simp), ← List.getLast?_reverse, turned,
      List.getLast?_eq_some_getLast (List.cons_ne_nil _ _)] at ends
    exact Option.some.inj ends

end Path

/-! ## The search follows the visit -/

theorem follow_nil (visited : NumberSet) (inner : Configuration) (outer : List Configuration) :
    wiring.follow visited inner outer [] = ⟨∅, []⟩ := by
  rw [follow]

section Reference

variable {visited : NumberSet} {inner : Configuration} {outer : List Configuration}
  {reference : ParentReference}

theorem follow_missing (absent : wiring.configuration? reference.target = none)
    (others : List ParentReference) :
    wiring.follow visited inner outer (reference :: others) =
      wiring.follow visited inner outer others := by
  rw [follow]
  split
  · rfl
  · next found => simp [absent] at found

theorem follow_enter {parent : Configuration}
    (found : wiring.configuration? reference.target = some parent)
    (fresh : reference.target ∉ visited) (others : List ParentReference) :
    wiring.follow visited inner outer (reference :: others) =
      let above := wiring.follow (visited.insert reference.target) parent (inner :: outer)
        parent.parents
      let further := wiring.follow (visited.insert reference.target ∪ above.entered) inner outer
        others
      ⟨above.entered.insert reference.target ∪ further.entered,
        above.findings ++ further.findings⟩ := by
  rw [follow]
  split
  · next absent => simp [found] at absent
  · next other same =>
      obtain rfl := Option.some.inj (found.symm.trans same)
      rw [dif_pos fresh]

theorem follow_again {parent : Configuration}
    (found : wiring.configuration? reference.target = some parent)
    (inside : reference.target ∈ visited) (others : List ParentReference) :
    wiring.follow visited inner outer (reference :: others) =
      let further := wiring.follow visited inner outer others
      if (inner :: outer).any (·.declaration = reference.target) then
        ⟨further.entered, closedCycle inner outer parent reference :: further.findings⟩
      else further := by
  rw [follow]
  split
  · next absent => simp [found] at absent
  · next other same =>
      obtain rfl := Option.some.inj (found.symm.trans same)
      rw [dif_neg (not_not_intro inside)]

end Reference

variable (wiring)

/-- What a search below a path has done, when it has followed some references of the innermost
configuration: it has met the configurations of a depth-first visit, each one is settled when
it is left, and so are the references; and what it has found are cycles. -/
structure Searched (visited : NumberSet) (left : List Configuration) (inner : Configuration)
    (references : List ParentReference) (search : CycleSearch) (met : Ancestry) : Prop where
  visit : wiring.DepthFirst visited (references.map ParentReference.target) met
    (visited ∪ search.entered)
  settled : InOrder (wiring.Settled search.findings) left met.ancestorsFirst
  followed : wiring.Followed search.findings (left ++ met.ancestorsFirst) inner references
  cycles : ∀ finding ∈ search.findings, wiring.IsCycle finding

variable {wiring}

section Searched

variable {visited : NumberSet} {left : List Configuration} {inner : Configuration}
  {others : List ParentReference} {reference : ParentReference} {search : CycleSearch}
  {met : Ancestry}

theorem Searched.nil : wiring.Searched visited left inner [] ⟨∅, []⟩ ⟨[], []⟩ where
  visit := by
    have same : visited ∪ (⟨∅, []⟩ : CycleSearch).entered = visited := by
      ext number
      simp
    rw [same]
    exact .done visited
  settled := trivial
  followed := fun _ inside => absurd inside List.not_mem_nil
  cycles := fun _ inside => absurd inside List.not_mem_nil

/-- A reference that leads nowhere is passed over. -/
theorem Searched.missing (searched : wiring.Searched visited left inner others search met)
    (absent : wiring.configuration? reference.target = none) :
    wiring.Searched visited left inner (reference :: others) search met where
  visit := .missing absent searched.visit
  settled := searched.settled
  followed := by
    intro other inside parent found
    rcases List.mem_cons.1 inside with rfl | later
    · simp [absent] at found
    · exact searched.followed other later parent found
  cycles := searched.cycles

/-- A reference to a configuration that has been left is passed over. -/
theorem Searched.again (searched : wiring.Searched visited left inner others search met)
    (known : reference.target ∈ visited) {parent : Configuration}
    (found : wiring.configuration? reference.target = some parent) (isLeft : parent ∈ left) :
    wiring.Searched visited left inner (reference :: others) search met where
  visit := .again known searched.visit
  settled := searched.settled
  followed := by
    intro other inside parent' foundParent
    rcases List.mem_cons.1 inside with rfl | later
    · rw [found] at foundParent
      cases foundParent
      exact .inl (List.mem_append_left _ isLeft)
    · exact searched.followed other later parent' foundParent
  cycles := searched.cycles

/-- A reference that closes a cycle is reported. -/
theorem Searched.report (searched : wiring.Searched visited left inner others search met)
    (known : reference.target ∈ visited) {first : Configuration} {rest : List Configuration}
    (closes : wiring.IsCycle (.extendsCycle first rest inner reference)) :
    wiring.Searched visited left inner (reference :: others)
      ⟨search.entered, .extendsCycle first rest inner reference :: search.findings⟩ met where
  visit := .again known searched.visit
  settled := searched.settled.imp fun _ _ => Settled.mono (List.subset_cons_self _ _)
  followed := by
    intro other inside parent found
    rcases List.mem_cons.1 inside with rfl | later
    · exact .inr ⟨first, rest, List.mem_cons_self⟩
    · exact (searched.followed other later parent found).imp_right
        (·.mono (List.subset_cons_self _ _))
  cycles := by
    intro finding inside
    rcases List.mem_cons.1 inside with rfl | later
    · exact closes
    · exact searched.cycles finding later

/-- When all its references have been followed, a configuration is left settled. -/
theorem Searched.settled_leave
    (searched : wiring.Searched visited left inner inner.parents search met) :
    InOrder (wiring.Settled search.findings) left (met.ancestorsFirst ++ [inner]) :=
  inOrder_append.2 ⟨searched.settled, searched.followed, trivial⟩

/-- A configuration is entered and left, and then the search goes on. -/
theorem Searched.enter {parent : Configuration} {above : CycleSearch} {metAbove : Ancestry}
    (found : wiring.configuration? reference.target = some parent)
    (fresh : reference.target ∉ visited)
    (searchedAbove : wiring.Searched (visited.insert reference.target) left parent
      parent.parents above metAbove)
    (searched : wiring.Searched (visited.insert reference.target ∪ above.entered)
      (left ++ (metAbove.ancestorsFirst ++ [parent])) inner others search met) :
    wiring.Searched visited left inner (reference :: others)
      ⟨above.entered.insert reference.target ∪ search.entered,
        above.findings ++ search.findings⟩
      ⟨parent :: metAbove.nearestFirst ++ met.nearestFirst,
        metAbove.ancestorsFirst ++ parent :: met.ancestorsFirst⟩ where
  visit := by
    have same : visited ∪ (above.entered.insert reference.target ∪ search.entered) =
        visited.insert reference.target ∪ above.entered ∪ search.entered := by
      ext number
      simp only [NumberSet.mem_union, NumberSet.mem_insert]
      tauto
    rw [same]
    exact .enter found fresh searchedAbove.visit searched.visit
  settled := by
    rw [List.append_cons]
    refine inOrder_append.2 ⟨?_, ?_⟩
    · exact searchedAbove.settled_leave.imp fun _ _ =>
        Settled.mono (List.subset_append_left _ _)
    · exact searched.settled.imp fun _ _ => Settled.mono (List.subset_append_right _ _)
  followed := by
    have split : left ++ (metAbove.ancestorsFirst ++ parent :: met.ancestorsFirst) =
        left ++ (metAbove.ancestorsFirst ++ [parent]) ++ met.ancestorsFirst := by
      simp only [List.append_assoc, List.singleton_append]
    intro other inside parent' foundParent
    rcases List.mem_cons.1 inside with rfl | later
    · rw [found] at foundParent
      cases foundParent
      exact .inl (List.mem_append_right _ (List.mem_append_right _ List.mem_cons_self))
    · rw [split]
      exact (searched.followed other later parent' foundParent).imp_right
        (·.mono (List.subset_append_right _ _))
  cycles := by
    intro finding inside
    rcases List.mem_append.1 inside with higher | later
    · exact searchedAbove.cycles finding higher
    · exact searched.cycles finding later

end Searched

/-- **The search below a path follows the depth-first visit.** -/
theorem exists_searched {visited : NumberSet} {left outer : List Configuration}
    {inner : Configuration} {references : List ParentReference}
    (onPath : wiring.OnPath visited left (inner :: outer))
    (own : ∀ reference ∈ references, reference ∈ inner.parents) :
    ∃ met, wiring.Searched visited left inner references
      (wiring.follow visited inner outer references) met := by
  match references with
  | [] =>
    rw [follow_nil]
    exact ⟨_, .nil⟩
  | reference :: others =>
    have isOwn := own reference List.mem_cons_self
    have ownOthers : ∀ other ∈ others, other ∈ inner.parents := fun other inside =>
      own other (List.mem_cons_of_mem _ inside)
    cases found : wiring.configuration? reference.target with
    | none =>
        obtain ⟨met, searched⟩ := exists_searched onPath ownOthers
        rw [follow_missing found]
        exact ⟨met, searched.missing found⟩
    | some parent =>
        by_cases known : reference.target ∈ visited
        · obtain ⟨met, searched⟩ := exists_searched onPath ownOthers
          rw [follow_again found known]
          dsimp only
          by_cases on : (inner :: outer).any (·.declaration = reference.target) = true
          · rw [if_pos on]
            exact ⟨met, searched.report known (onPath.isCycle_closedCycle isOwn found on)⟩
          · rw [if_neg on]
            have isLeft := onPath.mem_left known found (Bool.eq_false_iff.2 on)
            exact ⟨met, searched.again known found isLeft⟩
        · have fewer := unvisited_insert_lt (mem_nodes found) known
          have entered := onPath.enter found fun configuration isInner =>
            Option.some.inj isInner ▸ ⟨reference, isOwn, found⟩
          obtain ⟨metAbove, above⟩ := exists_searched entered fun _ isReference => isReference
          have fewerStill := unvisited_union_insert_lt (mem_nodes found) known
            (wiring.follow (visited.insert reference.target) parent (inner :: outer)
              parent.parents).entered
          have onPathAfter := (entered.visit above.visit).leave
          rw [List.append_assoc] at onPathAfter
          obtain ⟨met, searched⟩ := exists_searched onPathAfter ownOthers
          rw [follow_enter found known]
          exact ⟨_, .enter found known above searched⟩
termination_by (unvisited wiring.nodes visited, references.length)
decreasing_by
  · exact .right _ (Nat.lt_succ_self _)
  · exact .right _ (Nat.lt_succ_self _)
  · exact .left _ _ fewer
  · exact .left _ _ fewerStill

/-- **The search for cycles follows the depth-first visit.** When a configuration is left, it
is settled, and what is found are cycles. -/
theorem exists_visit_cyclesFrom {visited : NumberSet} {left configurations : List Configuration}
    (onPath : wiring.OnPath visited left [])
    (found : ∀ configuration ∈ configurations,
      wiring.configuration? configuration.declaration = some configuration) :
    ∃ met after,
      wiring.DepthFirst visited (configurations.map Configuration.declaration) met after ∧
      InOrder (wiring.Settled (wiring.cyclesFrom visited configurations)) left
        met.ancestorsFirst ∧
      ∀ finding ∈ wiring.cyclesFrom visited configurations, wiring.IsCycle finding := by
  induction configurations generalizing visited left with
  | nil => exact ⟨_, _, .done visited, trivial, fun _ inside => absurd inside List.not_mem_nil⟩
  | cons configuration others ih =>
      have foundFirst := found configuration List.mem_cons_self
      have foundOthers : ∀ other ∈ others,
          wiring.configuration? other.declaration = some other := fun other inside =>
        found other (List.mem_cons_of_mem _ inside)
      rw [cyclesFrom]
      by_cases known : configuration.declaration ∈ visited
      · obtain ⟨met, after, visit, settled, cycles⟩ := ih onPath foundOthers
        rw [if_pos known]
        exact ⟨met, after, .again known visit, settled, cycles⟩
      · rw [if_neg known]
        have entered := onPath.enter foundFirst fun _ isInner => absurd isInner (by simp)
        obtain ⟨metAbove, above⟩ := exists_searched entered fun _ isReference => isReference
        have onPathAfter := (entered.visit above.visit).leave
        rw [List.append_assoc] at onPathAfter
        obtain ⟨met, after, visit, settled, cycles⟩ := ih onPathAfter foundOthers
        refine ⟨_, after, .enter foundFirst known above.visit visit, ?_, ?_⟩
        · rw [List.append_cons]
          refine inOrder_append.2 ⟨?_, ?_⟩
          · exact above.settled_leave.imp fun _ _ => Settled.mono (List.subset_append_left _ _)
          · exact settled.imp fun _ _ => Settled.mono (List.subset_append_right _ _)
        · intro finding inside
          rcases List.mem_append.1 inside with higher | later
          · exact above.cycles finding higher
          · exact cycles finding later

end Wiring

end InjectionCheck
