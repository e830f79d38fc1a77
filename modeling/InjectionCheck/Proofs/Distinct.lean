import InjectionCheck.Validation.Wiring

/-!
# Leaving out repetitions

`distinctBy` keeps the elements of a list whose keys have not occurred before them. What
it keeps is one element for each key (`nodup_map_distinctBy`), and a search for a key
finds in it what it finds in the whole list (`find?_distinctBy`). Of two lists one after
the other it keeps what it keeps of the first, and of the second what has other keys
(`distinctBy_append`).

Where the elements of a list have different keys and give elements of another list, only
one of them can give the elements that are about its key (`filter_flatMap_of_distinct`).
-/

set_option autoImplicit false

namespace InjectionCheck

section Distinct

variable {α κ : Type} [DecidableEq κ] (key : α → κ)

@[simp] theorem distinctBy_nil : distinctBy key [] = [] := rfl

/-- Keys that have been seen are left out of what is kept when none has been seen. -/
theorem distinctBy_go_eq_filter (seen : List κ) (items : List α) :
    distinctBy.go key seen items =
      (distinctBy key items).filter fun item => decide (key item ∉ seen) := by
  induction items generalizing seen with
  | nil => rfl
  | cons item others ih =>
      have first : distinctBy key (item :: others) =
          item :: distinctBy.go key [key item] others := by
        simp [distinctBy, distinctBy.go]
      rw [first, ih [key item], distinctBy.go]
      by_cases known : key item ∈ seen
      · rw [if_pos known, ih seen, List.filter_cons_of_neg (by simpa using known),
          List.filter_filter]
        refine List.filter_congr fun other _ => ?_
        by_cases same : key other = key item
        · simp [same, known]
        · simp [same]
      · rw [if_neg known, ih, List.filter_cons_of_pos (by simpa using known),
          List.filter_filter]
        congr 1
        refine List.filter_congr fun other _ => ?_
        rw [Bool.eq_iff_iff]
        simp only [List.mem_cons, List.not_mem_nil, or_false, not_or, Bool.and_eq_true,
          decide_eq_true_eq]
        exact and_comm

theorem distinctBy_cons (item : α) (others : List α) :
    distinctBy key (item :: others) =
      item :: (distinctBy key others).filter fun other => decide (key other ≠ key item) := by
  have first : distinctBy key (item :: others) =
      item :: distinctBy.go key [key item] others := by
    simp [distinctBy, distinctBy.go]
  rw [first, distinctBy_go_eq_filter]
  simp only [List.mem_singleton, ne_eq]

theorem distinctBy_sublist (items : List α) : (distinctBy key items).Sublist items := by
  induction items with
  | nil => exact .slnil
  | cons item others ih =>
      rw [distinctBy_cons]
      exact (List.filter_sublist.trans ih).cons_cons item

/-- What is kept has one element for each key. -/
theorem nodup_map_distinctBy (items : List α) : ((distinctBy key items).map key).Nodup := by
  induction items with
  | nil => exact List.nodup_nil
  | cons item others ih =>
      rw [distinctBy_cons, List.map_cons, List.nodup_cons]
      constructor
      · intro inside
        obtain ⟨other, kept, same⟩ := List.mem_map.1 inside
        rw [List.mem_filter, decide_eq_true_eq] at kept
        exact kept.2 same
      · exact (List.filter_sublist.map key).nodup ih

/-- **A search for a key finds in what is kept what it finds in the whole list.** -/
theorem find?_distinctBy (items : List α) (wanted : κ) :
    (distinctBy key items).find? (fun item => decide (key item = wanted)) =
      items.find? fun item => decide (key item = wanted) := by
  induction items with
  | nil => rfl
  | cons item others ih =>
      rw [distinctBy_cons]
      by_cases same : key item = wanted
      · rw [List.find?_cons_of_pos (by simpa using same),
          List.find?_cons_of_pos (by simpa using same)]
      · rw [List.find?_cons_of_neg (by simpa using same),
          List.find?_cons_of_neg (by simpa using same), ← ih, List.find?_filter]
        congr 1
        funext other
        by_cases found : key other = wanted
        · simp [found, Ne.symm same]
        · simp [found]

/-- What is kept is what a search for its key finds. -/
theorem mem_distinctBy {items : List α} {item : α} :
    item ∈ distinctBy key items ↔
      items.find? (fun other => decide (key other = key item)) = some item := by
  rw [← find?_distinctBy]
  constructor
  · intro kept
    induction items with
    | nil => simp at kept
    | cons first others ih =>
        rw [distinctBy_cons] at kept ⊢
        rcases List.mem_cons.1 kept with rfl | later
        · simp
        · obtain ⟨inside, differs⟩ := List.mem_filter.1 later
          rw [decide_eq_true_eq] at differs
          rw [List.find?_cons_of_neg (by simpa using Ne.symm differs), List.find?_filter,
            ← ih inside]
          congr 1
          funext other
          by_cases same : key other = key item
          · simp [same, differs]
          · simp [same]
  · exact List.mem_of_find?_eq_some

/-- Every element has an equal one that is kept. -/
theorem mem_distinctBy_id [DecidableEq α] {items : List α} {item : α} :
    item ∈ distinctBy id items ↔ item ∈ items := by
  constructor
  · intro kept
    exact (distinctBy_sublist id items).subset kept
  · intro inside
    rw [mem_distinctBy]
    cases found : items.find? fun other => decide (id other = id item) with
    | none => exact absurd (decide_eq_true rfl) (List.find?_eq_none.1 found item inside)
    | some other =>
        have same := List.find?_some found
        rw [decide_eq_true_eq] at same
        exact congrArg some same

/-- **Of two lists, what is kept of the first stays, and of the second what has other
keys.** -/
theorem distinctBy_append (first second : List α) :
    distinctBy key (first ++ second) =
      distinctBy key first ++ (distinctBy key second).filter fun item =>
        !(distinctBy key first).any fun earlier => decide (key earlier = key item) := by
  induction first with
  | nil =>
      rw [List.nil_append, distinctBy_nil, List.nil_append]
      exact (List.filter_eq_self.2 fun _ _ => rfl).symm
  | cons item others ih =>
      rw [List.cons_append, distinctBy_cons, distinctBy_cons, ih, List.filter_append,
        List.filter_filter, List.cons_append]
      congr 2
      refine List.filter_congr fun later _ => ?_
      rw [Bool.eq_iff_iff]
      simp only [List.any_cons, List.any_filter, Bool.and_eq_true, Bool.not_eq_true',
        Bool.or_eq_false_iff, decide_eq_true_eq, decide_eq_false_iff_not, List.any_eq_false,
        not_and]
      constructor
      · rintro ⟨differs, absent⟩
        exact ⟨Ne.symm differs, fun earlier kept _ => absent earlier kept⟩
      · rintro ⟨differs, absent⟩
        refine ⟨Ne.symm differs, fun earlier kept same => ?_⟩
        exact absent earlier kept (same ▸ Ne.symm differs) same

end Distinct

/-- Where elements with different keys give other elements, and an element gives all that
is about its key, what is about a key is what its element gives. -/
theorem filter_flatMap_of_distinct {α β κ : Type} (key : α → κ) (give : α → List β)
    (about : β → Bool) {items : List α} (distinct : (items.map key).Nodup) {item : α}
    (inside : item ∈ items)
    (elsewhere : ∀ other, key other ≠ key item → ∀ given ∈ give other, about given = false) :
    (items.flatMap give).filter about = (give item).filter about := by
  have silent : ∀ others : List α, key item ∉ others.map key →
      (others.flatMap give).filter about = [] := by
    intro others absent
    rw [List.filter_eq_nil_iff]
    intro given isGiven
    obtain ⟨other, isOther, from_⟩ := List.mem_flatMap.1 isGiven
    have differs : key other ≠ key item := fun same =>
      absent (List.mem_map.2 ⟨other, isOther, same⟩)
    rw [elsewhere other differs given from_]
    exact Bool.false_ne_true
  induction items with
  | nil => simp at inside
  | cons first others ih =>
      rw [List.map_cons, List.nodup_cons] at distinct
      rw [List.flatMap_cons, List.filter_append]
      rcases List.mem_cons.1 inside with rfl | later
      · rw [silent others distinct.1, List.append_nil]
      · have differs : key first ≠ key item := fun same =>
          distinct.1 (List.mem_map.2 ⟨item, later, same.symm⟩)
        have nothing : (give first).filter about = [] := by
          rw [List.filter_eq_nil_iff]
          intro given isGiven
          rw [elsewhere first differs given isGiven]
          exact Bool.false_ne_true
        rw [nothing, List.nil_append, ih distinct.2 later]

end InjectionCheck
