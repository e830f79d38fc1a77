/-!
# Why walks end

Several parts of the checker walk a finite graph: exports refer to exports, type
aliases to type aliases, configurations to configurations. A walk keeps the nodes
that it has visited, in a list or in a set, and never enters a node twice. What ends
it is that the number of nodes not yet visited gets smaller with every node that is
entered (`unvisited_lt_of_mem`) and never gets larger (`unvisited_le_of_subset`). Nodes
that are known only as the walk comes across them are counted without repetition
(`nodup_eraseDups`, `unvisited_le_of_nodup`).
-/

set_option autoImplicit false

namespace InjectionCheck

section Visited

variable {α σ : Type} [Membership α σ] [∀ (node : α) (visited : σ), Decidable (node ∈ visited)]

/-- How many of some nodes are not among the visited ones. -/
def unvisited (nodes : List α) (visited : σ) : Nat := nodes.countP fun node => node ∉ visited

/-- Visiting more leaves no more to visit. -/
theorem unvisited_le_of_subset (nodes : List α) {earlier later : σ}
    (grows : ∀ node, node ∈ earlier → node ∈ later) :
    unvisited nodes later ≤ unvisited nodes earlier := by
  refine List.countP_mono_left fun node _ absent => ?_
  simp only [decide_eq_true_eq] at absent ⊢
  exact fun visited => absent (grows node visited)

/-- Visiting a node that was not visited leaves fewer to visit. -/
theorem unvisited_lt_of_mem {nodes : List α} {earlier later : σ} {node : α}
    (present : node ∈ nodes) (fresh : node ∉ earlier)
    (grows : ∀ node, node ∈ earlier → node ∈ later) (visited : node ∈ later) :
    unvisited nodes later < unvisited nodes earlier := by
  induction nodes with
  | nil => simp at present
  | cons first rest ih =>
    have whole := unvisited_le_of_subset rest grows
    simp only [unvisited, List.countP_cons, decide_eq_true_eq] at ih whole ⊢
    rcases List.mem_cons.1 present with same | later'
    · subst same
      simp only [visited, fresh, not_true, not_false_eq_true, if_true, if_false]
      omega
    · have less := ih later'
      by_cases inside : first ∈ earlier
      · simp only [inside, grows first inside, not_true, if_false]
        omega
      · by_cases inside' : first ∈ later
        · simp only [inside, inside', not_true, not_false_eq_true, if_true, if_false]
          omega
        · simp only [inside, inside', not_false_eq_true, if_true]
          omega

end Visited

/-- Visiting one more node leaves fewer to visit. -/
theorem unvisited_cons_lt {α : Type}
    [∀ (node : α) (visited : List α), Decidable (node ∈ visited)] {nodes visited : List α}
    {node : α} (present : node ∈ nodes) (fresh : node ∉ visited) :
    unvisited nodes (node :: visited) < unvisited nodes visited :=
  unvisited_lt_of_mem present fresh (fun _ inside => List.mem_cons_of_mem node inside)
    List.mem_cons_self

/-- A list without its repetitions has none. -/
theorem nodup_eraseDups {α : Type} [BEq α] [LawfulBEq α] (nodes : List α) :
    nodes.eraseDups.Nodup := by
  induction size : nodes.length using Nat.strongRecOn generalizing nodes with
  | ind size ih =>
    cases nodes with
    | nil => simp
    | cons first rest =>
      rw [List.eraseDups_cons, List.nodup_cons]
      refine ⟨by simp [List.mem_eraseDups], ?_⟩
      have shorter := List.length_filter_le (fun node => !node == first) rest
      exact ih _ (by simp only [List.length_cons] at size; omega) _ rfl

/-- Fewer nodes leave no more to visit. -/
theorem unvisited_le_of_nodup {α : Type}
    [∀ (node : α) (visited : List α), Decidable (node ∈ visited)] {nodes more visited : List α}
    (nodup : nodes.Nodup) (within : nodes ⊆ more) :
    unvisited nodes visited ≤ unvisited more visited := by
  have nodup : (nodes.filter fun node => node ∉ visited).Nodup := List.Pairwise.filter _ nodup
  simp only [unvisited, List.countP_eq_length_filter]
  exact nodup.length_le_of_subset (List.filter_subset _ within)

end InjectionCheck
