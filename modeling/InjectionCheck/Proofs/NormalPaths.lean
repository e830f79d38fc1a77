import InjectionCheck.Program.Path
import Mathlib.Data.List.Basic

/-!
# Segments of paths

A text is cut at its slashes, and its segments with slashes between them are the text
again (`joined_segments`). Two texts with a slash between them have the segments of the
first one and then those of the second one (`segments_append`).

The normal form of a path enters the segments one after the other. As long as a path does
not climb above the place where it starts, it may start anywhere: what it enters comes on
top of what was entered before (`foldl_enter_append`).
-/

set_option autoImplicit false

namespace InjectionCheck.Path

/-! ## Cutting and joining -/

theorem segments_ne_nil (text : List Char) : segments text ≠ [] := by
  fun_cases segments text <;> simp [*]

theorem segments_slash (rest : List Char) : segments ('/' :: rest) = [] :: segments rest := by
  rw [segments]

theorem segments_of_ne {c : Char} (other : c ≠ '/') (rest : List Char) :
    segments (c :: rest) =
      (c :: (segments rest).headD []) :: (segments rest).tail := by
  rw [segments]
  · cases segments rest <;> rfl
  · exact other

/-- Two texts with a slash between them have the segments of both. -/
theorem segments_append (first second : List Char) :
    segments (first ++ '/' :: second) = segments first ++ segments second := by
  induction first with
  | nil => exact segments_slash second
  | cons c rest ih =>
      have some := segments_ne_nil rest
      by_cases slash : c = '/'
      · subst slash
        rw [List.cons_append, segments_slash, segments_slash, ih, List.cons_append]
      · rw [List.cons_append, segments_of_ne slash, segments_of_ne slash, ih]
        cases parts : segments rest with
        | nil => exact absurd parts some
        | cons part parts => rfl

/-- A text without slashes is one segment. -/
theorem segments_of_not_mem {text : List Char} (clean : '/' ∉ text) : segments text = [text] := by
  induction text with
  | nil => rfl
  | cons c rest ih =>
      rw [List.mem_cons, not_or] at clean
      rw [segments_of_ne (Ne.symm clean.1), ih clean.2]
      rfl

/-- No segment has a slash in it. -/
theorem not_mem_of_mem_segments {text part : List Char} (isPart : part ∈ segments text) :
    '/' ∉ part := by
  induction text generalizing part with
  | nil => simp [segments] at isPart; simp [isPart]
  | cons c rest ih =>
      by_cases slash : c = '/'
      · subst slash
        rw [segments_slash, List.mem_cons] at isPart
        rcases isPart with rfl | later
        · exact List.not_mem_nil
        · exact ih later
      · rw [segments_of_ne slash] at isPart
        cases parts : segments rest with
        | nil => exact absurd parts (segments_ne_nil rest)
        | cons first others =>
            rw [parts] at isPart ih
            rcases List.mem_cons.1 isPart with rfl | later
            · rw [List.mem_cons, not_or]
              exact ⟨Ne.symm slash, ih List.mem_cons_self⟩
            · exact ih (List.mem_cons_of_mem _ later)

/-- Every character of a segment is one of the text. -/
theorem mem_of_mem_segments {text part : List Char} (isPart : part ∈ segments text) {c : Char}
    (inside : c ∈ part) : c ∈ text := by
  induction text generalizing part with
  | nil => simp [segments] at isPart; simp [isPart] at inside
  | cons d rest ih =>
      by_cases slash : d = '/'
      · subst slash
        rw [segments_slash, List.mem_cons] at isPart
        rcases isPart with rfl | later
        · simp at inside
        · exact List.mem_cons_of_mem _ (ih later inside)
      · rw [segments_of_ne slash] at isPart
        cases parts : segments rest with
        | nil => exact absurd parts (segments_ne_nil rest)
        | cons first others =>
            rw [parts] at isPart ih
            rcases List.mem_cons.1 isPart with rfl | later
            · rcases List.mem_cons.1 inside with rfl | further
              · exact List.mem_cons_self
              · exact List.mem_cons_of_mem _ (ih List.mem_cons_self further)
            · exact List.mem_cons_of_mem _ (ih (List.mem_cons_of_mem _ later) inside)

theorem joined_singleton (part : List Char) : joined [part] = part :=
  List.intercalate_singleton

theorem joined_cons {part : List Char} {others : List (List Char)} (some : others ≠ []) :
    joined (part :: others) = part ++ '/' :: joined others := by
  obtain ⟨second, rest, rfl⟩ := List.exists_cons_of_ne_nil some
  rfl

/-- The joint of two lists of segments has a slash between them. -/
theorem joined_append {first second : List (List Char)} (someFirst : first ≠ [])
    (someSecond : second ≠ []) : joined (first ++ second) = joined first ++ '/' :: joined second := by
  induction first with
  | nil => exact absurd rfl someFirst
  | cons part others ih =>
      cases others with
      | nil => rw [List.singleton_append, joined_cons someSecond, joined_singleton]
      | cons next rest =>
          have more : next :: rest ++ second ≠ [] := List.cons_ne_nil _ _
          have some : next :: rest ≠ [] := List.cons_ne_nil _ _
          rw [List.cons_append, joined_cons more, ih some, joined_cons some, List.append_assoc,
            List.cons_append]

/-- Segments without slashes are the segments of their joint. -/
theorem segments_joined {parts : List (List Char)} (some : parts ≠ [])
    (clean : ∀ part ∈ parts, '/' ∉ part) : segments (joined parts) = parts := by
  induction parts with
  | nil => exact absurd rfl some
  | cons part others ih =>
      rw [List.forall_mem_cons] at clean
      cases others with
      | nil => rw [joined_singleton, segments_of_not_mem clean.1]
      | cons next rest =>
          rw [joined_cons (by simp), segments_append, segments_of_not_mem clean.1,
            ih (by simp) clean.2, List.singleton_append]

/-! ## Entering segments -/

/-- The segment that leads out of a folder. -/
abbrev up : List Char := ['.', '.']

theorem enter_of_blank {rooted : Bool} {before : List (List Char)} {segment : List Char}
    (blank : segment = [] ∨ segment = ['.']) : enter rooted before segment = before :=
  if_pos blank

theorem enter_of_name {rooted : Bool} {before : List (List Char)} {segment : List Char}
    (notBlank : ¬(segment = [] ∨ segment = ['.'])) (name : segment ≠ up) :
    enter rooted before segment = segment :: before := by
  unfold enter
  rw [if_neg notBlank, if_neg name]

theorem enter_up_cons {rooted : Bool} {last : List Char} {before : List (List Char)}
    (name : last ≠ up) : enter rooted (last :: before) up = before := by
  unfold enter
  rw [if_neg (by simp), if_pos rfl]
  exact if_neg name

theorem enter_up_up (before : List (List Char)) :
    enter false (up :: before) up = up :: up :: before := rfl

/-- Whoever has climbed above the start stays there. -/
theorem up_mem_foldl_enter {parts stack : List (List Char)} (climbed : up ∈ stack) :
    up ∈ parts.foldl (enter false) stack := by
  induction parts generalizing stack with
  | nil => exact climbed
  | cons part others ih =>
      rw [List.foldl_cons]
      apply ih
      by_cases blank : part = [] ∨ part = ['.']
      · rwa [enter_of_blank blank]
      · by_cases leads : part = up
        · subst leads
          cases stack with
          | nil => simp at climbed
          | cons last before =>
              by_cases same : last = up
              · subst same
                exact List.mem_cons_self
              · rw [enter_up_cons same]
                exact (List.mem_cons.1 climbed).resolve_left (Ne.symm same)
        · rw [enter_of_name blank leads]
          exact List.mem_cons_of_mem _ climbed

/-- **A path that does not climb above its start can start anywhere.** -/
theorem foldl_enter_append {parts stack : List (List Char)}
    (inside : up ∉ parts.foldl (enter false) stack) (below : List (List Char)) :
    parts.foldl (enter false) (stack ++ below) = parts.foldl (enter false) stack ++ below := by
  induction parts generalizing stack with
  | nil => rfl
  | cons part others ih =>
      rw [List.foldl_cons] at inside
      rw [List.foldl_cons, List.foldl_cons, ← ih inside]
      congr 1
      by_cases blank : part = [] ∨ part = ['.']
      · rw [enter_of_blank blank, enter_of_blank blank]
      · by_cases leads : part = up
        · subst leads
          cases stack with
          | nil => exact absurd (up_mem_foldl_enter List.mem_cons_self) inside
          | cons last before =>
              -- the start has not been left, so the last segment is a name
              have name : last ≠ up := by
                rintro rfl
                exact inside (up_mem_foldl_enter (enter_up_up before ▸ List.mem_cons_self))
              rw [List.cons_append, enter_up_cons name, enter_up_cons name]
        · rw [enter_of_name blank leads, enter_of_name blank leads, List.cons_append]

/-- One more segment adds at most itself, and only if it is a name or leads out. -/
theorem mem_of_mem_enter {stack : List (List Char)} {rooted : Bool} {part next : List Char}
    (entered : part ∈ enter rooted stack next) :
    part ∈ stack ∨ part = next ∧ ¬(next = [] ∨ next = ['.']) := by
  unfold enter at entered
  split at entered
  · exact .inl entered
  · next notBlank =>
    split at entered
    · split at entered
      · split at entered
        · simp at entered
        · exact .inr ⟨List.mem_singleton.1 entered, notBlank⟩
      · split at entered
        · split at entered
          · exact .inl entered
          · rcases List.mem_cons.1 entered with same | before
            · exact .inr ⟨same, notBlank⟩
            · exact .inl before
        · exact .inl (List.mem_cons_of_mem _ entered)
    · rcases List.mem_cons.1 entered with same | before
      · exact .inr ⟨same, notBlank⟩
      · exact .inl before

/-- What has been entered was there before, or is a segment of the path that is not blank. -/
theorem mem_of_mem_foldl_enter {parts stack : List (List Char)} {rooted : Bool} {part : List Char}
    (entered : part ∈ parts.foldl (enter rooted) stack) :
    part ∈ stack ∨ part ∈ parts ∧ ¬(part = [] ∨ part = ['.']) := by
  induction parts generalizing stack with
  | nil => exact .inl entered
  | cons next others ih =>
      rw [List.foldl_cons] at entered
      rcases ih entered with before | ⟨later, notBlank⟩
      · rcases mem_of_mem_enter before with earlier | ⟨rfl, notBlank⟩
        · exact .inl earlier
        · exact .inr ⟨List.mem_cons_self, notBlank⟩
      · exact .inr ⟨List.mem_cons_of_mem _ later, notBlank⟩

/-- The segments of a normal form are segments of the path that are not blank. -/
theorem mem_of_mem_normalSegments {rooted : Bool} {text part : List Char}
    (isPart : part ∈ normalSegments rooted text) :
    part ∈ segments text ∧ ¬(part = [] ∨ part = ['.']) := by
  rw [normalSegments, List.mem_reverse] at isPart
  exact (mem_of_mem_foldl_enter isPart).resolve_left List.not_mem_nil

/-! ## Relative paths -/

/-- A path that is its own normal form and does not start at the root. -/
structure IsRelative (path : List Char) : Prop where
  normal : normalChars path = path
  unrooted : isRooted path = false

/-- A path in normal form does not climb above the folder where it starts. -/
def StaysInside (path : List Char) : Prop := up ∉ segments path

instance (path : List Char) : Decidable (IsRelative path) :=
  decidable_of_iff (normalChars path = path ∧ isRooted path = false)
    ⟨fun both => ⟨both.1, both.2⟩, fun relative => ⟨relative.normal, relative.unrooted⟩⟩

instance (path : List Char) : Decidable (StaysInside path) :=
  inferInstanceAs (Decidable (up ∉ segments path))

theorem normalChars_of_unrooted {text : List Char} (unrooted : isRooted (withSlashes text) = false) :
    normalChars text = joined (normalSegments false (withSlashes text)) := by
  simp only [normalChars, unrooted, Bool.false_eq_true, if_false]

/-- The normal form has its segments, unless it is empty. -/
theorem segments_joined_normalSegments {rooted : Bool} {text : List Char}
    (some : normalSegments rooted text ≠ []) :
    segments (joined (normalSegments rooted text)) = normalSegments rooted text :=
  segments_joined some fun _ isPart =>
    not_mem_of_mem_segments (mem_of_mem_normalSegments isPart).1

/-- The normal form is empty if it has no segments. -/
theorem joined_normalSegments_eq_nil_iff {rooted : Bool} {text : List Char} :
    joined (normalSegments rooted text) = [] ↔ normalSegments rooted text = [] := by
  constructor
  · intro nothing
    by_contra some
    have parts := segments_joined_normalSegments some
    rw [nothing] at parts
    have isPart : [] ∈ normalSegments rooted text := parts ▸ List.mem_singleton_self _
    exact (mem_of_mem_normalSegments isPart).2 (.inl rfl)
  · intro nothing
    rw [nothing]
    rfl

theorem isRooted_cons (c : Char) (rest : List Char) : isRooted (c :: rest) = decide (c = '/') := by
  by_cases slash : c = '/'
  · subst slash
    rfl
  · rw [decide_eq_false slash, isRooted]
    intro tail same
    exact slash (List.cons.inj same).1

theorem isRooted_withSlashes_append {first : List Char} (some : first ≠ []) (second : List Char) :
    isRooted (withSlashes (first ++ second)) = isRooted (withSlashes first) := by
  obtain ⟨c, rest, rfl⟩ := List.exists_cons_of_ne_nil some
  simp only [withSlashes, List.cons_append, List.map_cons, isRooted_cons]

/-- A path without backslashes has slashes in their places already. -/
theorem withSlashes_of_not_mem {text : List Char} (clean : '\\' ∉ text) :
    withSlashes text = text := by
  refine (List.map_congr_left fun c inside => if_neg ?_).trans (List.map_id _)
  rintro rfl
  exact clean inside

theorem not_mem_withSlashes (text : List Char) : '\\' ∉ withSlashes text := by
  intro inside
  obtain ⟨c, _, same⟩ := List.mem_map.1 inside
  split at same
  · cases same
  · next other => exact other same

/-- Every character of a joint is a slash or a character of a segment. -/
theorem mem_joined {parts : List (List Char)} {c : Char} (inside : c ∈ joined parts) :
    c = '/' ∨ ∃ part ∈ parts, c ∈ part := by
  induction parts with
  | nil => simp [joined] at inside
  | cons part others ih =>
      cases others with
      | nil =>
          rw [joined_singleton] at inside
          exact .inr ⟨part, List.mem_cons_self, inside⟩
      | cons next rest =>
          rw [joined_cons (List.cons_ne_nil _ _), List.mem_append, List.mem_cons] at inside
          rcases inside with here | slash | later
          · exact .inr ⟨part, List.mem_cons_self, here⟩
          · exact .inl slash
          · rcases ih later with slash | ⟨other, isPart, there⟩
            · exact .inl slash
            · exact .inr ⟨other, List.mem_cons_of_mem _ isPart, there⟩

namespace IsRelative

variable {path : List Char}

/-- A path that starts at the root has a normal form that does so. -/
theorem isRooted_withSlashes (relative : IsRelative path) : isRooted (withSlashes path) = false := by
  by_contra rooted
  rw [Bool.not_eq_false] at rooted
  have normal := relative.normal
  simp only [normalChars, rooted, if_true] at normal
  have unrooted := relative.unrooted
  rw [← normal] at unrooted
  cases unrooted

theorem joined_eq (relative : IsRelative path) :
    joined (normalSegments false (withSlashes path)) = path := by
  rw [← normalChars_of_unrooted relative.isRooted_withSlashes, relative.normal]

/-- A normal form has no backslashes. -/
theorem withSlashes_eq (relative : IsRelative path) : withSlashes path = path := by
  apply withSlashes_of_not_mem
  intro inside
  rw [← relative.joined_eq] at inside
  rcases mem_joined inside with impossible | ⟨part, isPart, there⟩
  · cases impossible
  · have before := mem_of_mem_segments (mem_of_mem_normalSegments isPart).1 there
    exact not_mem_withSlashes path before

/-- To enter the segments of a normal form is to list them. -/
theorem foldl_enter (relative : IsRelative path) (some : path ≠ []) :
    (segments path).foldl (enter false) [] = (segments path).reverse := by
  have joint := relative.joined_eq
  rw [relative.withSlashes_eq] at joint
  have parts : segments path = normalSegments false path := by
    rw [← segments_joined_normalSegments fun nothing => ?_, joint]
    rw [nothing] at joint
    exact some joint.symm
  have listed := congrArg List.reverse parts
  rw [normalSegments, List.reverse_reverse] at listed
  exact listed.symm

end IsRelative

/-- The normal form of a path that stays inside has no segment that leads out. -/
theorem up_not_mem_normalSegments {text : List Char}
    (unrooted : isRooted (withSlashes text) = false) (inside : StaysInside (normalChars text)) :
    up ∉ normalSegments false (withSlashes text) := by
  intro climbs
  rw [normalChars_of_unrooted unrooted, StaysInside, segments_joined_normalSegments] at inside
  · exact inside climbs
  · exact List.ne_nil_of_mem climbs

/-- **In a folder, a path that stays inside has the normal form of the folder with its own
behind it.** -/
theorem normalChars_append {place text : List Char} (relative : IsRelative place)
    (some : place ≠ []) (unrooted : isRooted (withSlashes text) = false)
    (inside : StaysInside (normalChars text)) :
    normalChars (place ++ '/' :: text) =
      if normalChars text = [] then place else place ++ '/' :: normalChars text := by
  have slashes : withSlashes (place ++ '/' :: text) = place ++ '/' :: withSlashes text := by
    rw [withSlashes, List.map_append, ← withSlashes, relative.withSlashes_eq, List.map_cons]
    rfl
  have below := up_not_mem_normalSegments unrooted inside
  rw [normalSegments, List.mem_reverse] at below
  have entered : normalSegments false (place ++ '/' :: withSlashes text) =
      segments place ++ normalSegments false (withSlashes text) := by
    rw [normalSegments, segments_append, List.foldl_append, relative.foldl_enter some,
      ← List.nil_append (segments place).reverse, foldl_enter_append below, List.reverse_append,
      List.reverse_reverse]
    rfl
  have joint : joined (segments place) = place := by
    have parts := relative.joined_eq
    rw [relative.withSlashes_eq, normalSegments, relative.foldl_enter some,
      List.reverse_reverse] at parts
    exact parts
  have start : isRooted (withSlashes (place ++ '/' :: text)) = false := by
    rw [isRooted_withSlashes_append some, relative.isRooted_withSlashes]
  rw [normalChars_of_unrooted start, slashes, entered, normalChars_of_unrooted unrooted]
  by_cases nothing : normalSegments false (withSlashes text) = []
  · rw [if_pos (joined_normalSegments_eq_nil_iff.2 nothing), nothing, List.append_nil, joint]
  · rw [if_neg (joined_normalSegments_eq_nil_iff.not.2 nothing),
      joined_append (segments_ne_nil place) nothing, joint]

end InjectionCheck.Path
