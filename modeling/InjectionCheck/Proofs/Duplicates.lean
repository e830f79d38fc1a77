import InjectionCheck.Proofs.Dependents
import Mathlib.Data.List.Nodup

/-!
# What is registered or bound again

Of the registrations of a token in an ancestry, ancestors first, every one but the first is
reported, with the first one as the place that it repeats. The same holds of the entries that
bind a listener to an event (`ReportsRepetitions`). An ancestry has every configuration that
is reached once, whatever the number of ways that lead to it, so an entry never repeats
itself (`repetitions_reported`).

Both checks are `repeats` with a key. What it gives for one key is what comes after the first
entry with the key (`filter_repeats`).
-/

set_option autoImplicit false

namespace InjectionCheck

/-! ## Entries with the same key -/

/-- The elements of a list after the first one, each with the first one. -/
def afterFirst {α : Type} : List α → List (α × α)
  | [] => []
  | first :: others => others.map fun again => (again, first)

section Repeats

variable {α κ : Type}

theorem length_afterFirst (items : List α) : (afterFirst items).length = items.length - 1 := by
  cases items with
  | nil => rfl
  | cons first others => rw [afterFirst, List.length_map, List.length_cons, Nat.add_sub_cancel]

/-- An element after the first one is another entry of the list. -/
theorem sublist_of_mem_afterFirst {items : List α} {again first : α}
    (inside : (again, first) ∈ afterFirst items) : [first, again].Sublist items := by
  cases items with
  | nil => simp [afterFirst] at inside
  | cons head others =>
      obtain ⟨other, isOther, same⟩ := List.mem_map.1 inside
      cases same
      exact .cons_cons _ (List.singleton_sublist.2 isOther)

variable [DecidableEq κ] (key : α → κ)

/-- What is given for a key when the first elements of some keys have been seen. -/
theorem filter_repeats_go (firsts items : List α) (wanted : κ) :
    (repeats.go key firsts items).filter (fun pair => decide (key pair.1 = wanted)) =
      afterFirst ((firsts.find? fun first => decide (key first = wanted)).toList ++
        items.filter fun item => decide (key item = wanted)) := by
  induction items generalizing firsts with
  | nil =>
      rw [repeats.go, List.filter_nil, List.filter_nil, List.append_nil]
      cases firsts.find? fun first => decide (key first = wanted) <;> rfl
  | cons item others ih =>
      rw [repeats.go]
      cases found : firsts.find? fun first => decide (key first = key item) with
      | some first =>
          by_cases same : key item = wanted
          · rw [List.filter_cons_of_pos (by simpa using same),
              List.filter_cons_of_pos (by simpa using same), ih, ← same, found]
            rfl
          · rw [List.filter_cons_of_neg (by simpa using same),
              List.filter_cons_of_neg (by simpa using same), ih]
      | none =>
          by_cases same : key item = wanted
          · rw [List.filter_cons_of_pos (by simpa using same), ih, ← same, found,
              List.find?_cons_of_pos (by simp)]
            rfl
          · rw [List.filter_cons_of_neg (by simpa using same), ih,
              List.find?_cons_of_neg (by simpa using same)]

/-- **What is given for a key are the elements after the first one with the key.** -/
theorem filter_repeats (items : List α) (wanted : κ) :
    (repeats key items).filter (fun pair => decide (key pair.1 = wanted)) =
      afterFirst (items.filter fun item => decide (key item = wanted)) :=
  filter_repeats_go key [] items wanted

/-- Nothing is given if and only if no two elements have the same key. -/
theorem repeats_eq_nil_iff (items : List α) :
    repeats key items = [] ↔ (items.map key).Nodup := by
  have counted : ∀ wanted, (items.map key).count wanted ≤ 1 ↔
      (repeats key items).filter (fun pair => decide (key pair.1 = wanted)) = [] := by
    intro wanted
    rw [filter_repeats, ← List.length_eq_zero_iff, length_afterFirst, Nat.sub_eq_zero_iff_le,
      ← List.countP_eq_length_filter, List.count, List.countP_map]
    rfl
  simp only [List.nodup_iff_count_le_one, counted, List.filter_eq_nil_iff, decide_eq_true_eq]
  constructor
  · rintro nothing wanted pair inside
    simp [nothing] at inside
  · intro nothing
    exact List.eq_nil_iff_forall_not_mem.2 fun pair inside => nothing (key pair.1) pair inside rfl

end Repeats

namespace Finding

/-- Whether a finding says that a token is registered again. -/
def repeatsToken (token : Nat) : Finding → Bool
  | .duplicateToken again _ => again.token.declaration = token
  | _ => false

/-- Whether a finding says that a listener is bound again to an event. -/
def repeatsListener (pair : Nat × Nat) : Finding → Bool
  | .duplicateListener again _ =>
    (again.event.declaration, again.listener.declaration) = pair
  | _ => false

/-- Where a finding is placed, and the places that have to do with it. -/
def places (finding : Finding) : Location × List Location :=
  (finding.problem.location, finding.problem.related.map RelatedPlace.location)

end Finding

/-- What is said of repetitions with some key is said of the entries after the first one with
the key. -/
theorem filter_map_repeats {α κ : Type} [DecidableEq κ] (key : α → κ) (say : α → α → Finding)
    (about : Finding → Bool) (wanted : κ)
    (tells : ∀ again first, about (say again first) = decide (key again = wanted))
    (items : List α) :
    ((repeats key items).map fun (again, first) => say again first).filter about =
      (afterFirst (items.filter fun item => decide (key item = wanted))).map
        fun (again, first) => say again first := by
  rw [List.filter_map, ← filter_repeats]
  congr 2
  funext pair
  exact tells pair.1 pair.2

/-- Findings report what is repeated in a list of entries: `say again first` is the finding
about an entry and the first one with its key, and `about` picks the findings about a key. -/
structure ReportsRepetitions {α κ : Type} [DecidableEq κ] (key : α → κ) (place : α → Location)
    (say : α → α → Finding) (about : κ → Finding → Bool) (entries : List α)
    (findings : List Finding) : Prop where
  /-- Each entry with a key but the first is reported in its turn, at its place and with the
  place of the first one. -/
  places : ∀ wanted, (findings.filter (about wanted)).map Finding.places =
    (afterFirst (entries.filter fun entry => decide (key entry = wanted))).map
      fun (again, first) => (place again, [place first])
  /-- There is one finding less than there are entries with the key. -/
  counted : ∀ wanted, (findings.filter (about wanted)).length =
    entries.countP (fun entry => decide (key entry = wanted)) - 1
  /-- What is repeated is another entry, further ahead. -/
  apart : ∀ again first, say again first ∈ findings → [first, again].Sublist entries

/-- It is enough to know what is said about each key. -/
theorem ReportsRepetitions.of_filter_eq {α κ : Type} [DecidableEq κ] {key : α → κ}
    {place : α → Location} {say : α → α → Finding} {about : κ → Finding → Bool}
    {entries : List α} {findings : List Finding}
    (said : ∀ wanted, findings.filter (about wanted) =
      (afterFirst (entries.filter fun entry => decide (key entry = wanted))).map
        fun (again, first) => say again first)
    (located : ∀ again first, (say again first).places = (place again, [place first]))
    (tells : ∀ again first, about (key again) (say again first) = true)
    (faithful : ∀ again first again' first', say again first = say again' first' →
      again = again' ∧ first = first') :
    ReportsRepetitions key place say about entries findings where
  places wanted := by
    rw [said, List.map_map]
    exact List.map_congr_left fun pair _ => located pair.1 pair.2
  counted wanted := by
    rw [said, List.length_map, length_afterFirst, List.countP_eq_length_filter]
  apart again first pushed := by
    have accepted := List.mem_filter.2 ⟨pushed, tells again first⟩
    rw [said] at accepted
    obtain ⟨pair, inside, same⟩ := List.mem_map.1 accepted
    obtain ⟨sameAgain, sameFirst⟩ := faithful _ _ _ _ same
    exact sameAgain ▸ sameFirst ▸
      (sublist_of_mem_afterFirst inside).trans List.filter_sublist

namespace Wiring

variable {wiring : Wiring}

/-! ## What is said of a configuration -/

/-- What a builder lacks is about parameters. -/
theorem parameter?_of_mem_builderFindings {builder : Configuration} {ancestry : Ancestry}
    {finding : Finding} (pushed : finding ∈ wiring.builderFindings builder ancestry) :
    finding.parameter? ≠ none := by
  obtain ⟨_, _, _, _, _, _, _, found⟩ := exists_of_mem_dependentFindings pushed
  rw [parameter?_of_dependencyFinding? found]
  exact Option.some_ne_none _

/-- What is said of a configuration and is about no parameter comes from the two checks for
repetitions. -/
theorem filter_configurationFindings (configuration : Configuration) {about : Finding → Bool}
    (general : ∀ finding, about finding = true → finding.parameter? = none) :
    (wiring.configurationFindings configuration).filter about =
      (duplicateTokens (wiring.ancestry configuration)).filter about ++
        (duplicateListeners (wiring.ancestry configuration)).filter about := by
  have silent : ∀ finding ∈ wiring.builderFindings configuration (wiring.ancestry configuration),
      about finding ≠ true := fun finding pushed accepted =>
    parameter?_of_mem_builderFindings pushed (general finding accepted)
  rw [configurationFindings, List.filter_append, List.filter_append]
  split
  · rw [List.filter_eq_nil_iff.2 silent, List.append_nil]
  · rw [List.filter_nil, List.append_nil]

/-- **What is said of a token is said of its registrations after the first one.** -/
theorem filter_repeatsToken (configuration : Configuration) (token : Nat) :
    (wiring.configurationFindings configuration).filter (Finding.repeatsToken token) =
      (afterFirst ((wiring.ancestry configuration).registrations.filter fun registration =>
        decide (registration.token.declaration = token))).map
          fun (again, first) => .duplicateToken again first := by
  have silent : ∀ finding ∈ duplicateListeners (wiring.ancestry configuration),
      ¬finding.repeatsToken token = true := by
    intro finding pushed
    obtain ⟨_, _, rfl⟩ := List.mem_map.1 pushed
    exact Bool.false_ne_true
  rw [filter_configurationFindings, List.filter_eq_nil_iff.2 silent, List.append_nil,
    duplicateTokens]
  · exact filter_map_repeats _ _ _ _ (fun _ _ => rfl) _
  · intro finding accepted
    cases finding <;> first | rfl | exact absurd accepted Bool.false_ne_true

/-- **What is said of an event and a listener is said of the entries that bind the one to the
other, after the first one.** -/
theorem filter_repeatsListener (configuration : Configuration) (pair : Nat × Nat) :
    (wiring.configurationFindings configuration).filter (Finding.repeatsListener pair) =
      (afterFirst ((wiring.ancestry configuration).listeners.filter fun binding =>
        decide ((binding.event.declaration, binding.listener.declaration) = pair))).map
          fun (again, first) => .duplicateListener again first := by
  have silent : ∀ finding ∈ duplicateTokens (wiring.ancestry configuration),
      ¬finding.repeatsListener pair = true := by
    intro finding pushed
    obtain ⟨_, _, rfl⟩ := List.mem_map.1 pushed
    exact Bool.false_ne_true
  rw [filter_configurationFindings, List.filter_eq_nil_iff.2 silent, List.nil_append,
    duplicateListeners]
  · exact filter_map_repeats _ _ _ _ (fun _ _ => rfl) _
  · intro finding accepted
    cases finding <;> first | rfl | exact absurd accepted Bool.false_ne_true

/-- Nothing is said to be repeated if and only if both checks give nothing. -/
theorem forall_kind_ne_iff (configuration : Configuration) :
    (∀ finding ∈ wiring.configurationFindings configuration,
        finding.kind ≠ .duplicateToken ∧ finding.kind ≠ .duplicateListener) ↔
      duplicateTokens (wiring.ancestry configuration) = [] ∧
        duplicateListeners (wiring.ancestry configuration) = [] := by
  rw [← List.append_eq_nil_iff]
  constructor
  · intro others
    refine List.eq_nil_iff_forall_not_mem.2 fun finding pushed => ?_
    obtain ⟨noToken, noListener⟩ := others finding (List.mem_append_left _ pushed)
    rcases List.mem_append.1 pushed with again | again
    · obtain ⟨_, _, rfl⟩ := List.mem_map.1 again
      exact noToken rfl
    · obtain ⟨_, _, rfl⟩ := List.mem_map.1 again
      exact noListener rfl
  · intro nothing finding pushed
    rw [configurationFindings, nothing, List.nil_append] at pushed
    split at pushed
    · have isParameter := parameter?_of_mem_builderFindings pushed
      cases finding with
      | missingDependency => exact ⟨nofun, nofun⟩
      | typeMismatch => exact ⟨nofun, nofun⟩
      | duplicateToken => exact absurd rfl isParameter
      | duplicateListener => exact absurd rfl isParameter
      | extendsCycle => exact absurd rfl isParameter
    · simp at pushed

/-- **Repetitions are reported.** The ancestry of a configuration has every configuration that
is reached, once. Of its registrations of a token each but the first is reported, and so are
the entries that bind a listener to an event. Nothing is said to be repeated if and only if
no two registrations have the same token, and no two entries the same listener and event. -/
theorem repetitions_reported {configuration : Configuration}
    (inside : configuration ∈ wiring.configurations) :
    (wiring.ancestry configuration).ancestorsFirst.Nodup ∧
    (∀ reached, reached ∈ (wiring.ancestry configuration).ancestorsFirst ↔
      wiring.Reaches configuration reached) ∧
    ReportsRepetitions (fun registration => registration.token.declaration)
      Registration.location .duplicateToken Finding.repeatsToken
      (wiring.ancestry configuration).registrations
      (wiring.configurationFindings configuration) ∧
    ReportsRepetitions
      (fun binding => (binding.event.declaration, binding.listener.declaration))
      ListenerBinding.location .duplicateListener Finding.repeatsListener
      (wiring.ancestry configuration).listeners
      (wiring.configurationFindings configuration) ∧
    ((∀ finding ∈ wiring.configurationFindings configuration,
        finding.kind ≠ .duplicateToken ∧ finding.kind ≠ .duplicateListener) ↔
      ((wiring.ancestry configuration).registrations.map fun registration =>
          registration.token.declaration).Nodup ∧
        ((wiring.ancestry configuration).listeners.map fun binding =>
          (binding.event.declaration, binding.listener.declaration)).Nodup) := by
  obtain ⟨after, visit⟩ := wiring.depthFirst_ancestry configuration
  refine ⟨visit.perm.nodup_iff.1 visit.nodup.of_map, fun reached => ?_, ?_, ?_, ?_⟩
  · rw [← visit.perm.mem_iff, mem_nearestFirst_ancestry inside]
  · refine .of_filter_eq (filter_repeatsToken configuration) (fun _ _ => rfl)
      (fun _ _ => decide_eq_true rfl) ?_
    rintro again first _ _ ⟨⟩
    exact ⟨rfl, rfl⟩
  · refine .of_filter_eq (filter_repeatsListener configuration) (fun _ _ => rfl)
      (fun _ _ => decide_eq_true rfl) ?_
    rintro again first _ _ ⟨⟩
    exact ⟨rfl, rfl⟩
  · rw [forall_kind_ne_iff, duplicateTokens, duplicateListeners, List.map_eq_nil_iff,
      List.map_eq_nil_iff, repeats_eq_nil_iff, repeats_eq_nil_iff]

/-- The builder of the diamond reaches everything in it. -/
theorem Diamond.reaches_of_mem {reached : Configuration}
    (inside : reached ∈ wired.configurations) : wired.Reaches builder reached := by
  have toLeft : wired.Extends builder left := extends_of_mem (by decide) (by decide)
  have toRight : wired.Extends builder right := extends_of_mem (by decide) (by decide)
  have toBase : wired.Extends left base := extends_of_mem (by decide) (by decide)
  simp only [wired, List.mem_cons, List.not_mem_nil, or_false] at inside
  rcases inside with rfl | rfl | rfl | rfl
  · exact .refl
  · exact .single toLeft
  · exact .single toRight
  · exact .tail (.single toLeft) toBase

/-- Three configurations of the diamond register the same token, and two of them are
reported, though the base is reached by two ways and reaches itself. -/
theorem repetitions_reported_diamond :
    Diamond.builder ∈ Diamond.wired.configurations ∧
      ((Diamond.wired.configurationFindings Diamond.builder).filter
        (Finding.repeatsToken 1)).length = 2 := by
  obtain ⟨distinct, covers, tokens, _⟩ := repetitions_reported Diamond.builder_mem
  have order : (Diamond.wired.ancestry Diamond.builder).ancestorsFirst.Perm
      Diamond.wired.configurations :=
    (List.perm_ext_iff_of_nodup distinct Diamond.wired.configurations_distinct.of_map).2
      fun reached => (covers reached).trans
        ⟨mem_configurations_of_reaches Diamond.builder_mem, Diamond.reaches_of_mem⟩
  refine ⟨Diamond.builder_mem, ?_⟩
  rw [tokens.counted 1, Ancestry.registrations, (order.flatMap_right _).countP_eq]
  decide

end Wiring

end InjectionCheck
