import InjectionCheck.Proofs.NormalPaths

/-!
# Normal forms of paths

A path in normal form has a slash in front if it starts at the root. Its first segments lead out
of the place where it starts, and nothing leads out of the root; all other segments are names
(`NormalForm`).

What has been entered always is names on top of segments that lead out (`IsStack`). To enter such
a stack once more, from the bottom, gives the stack, so a path in normal form is its own normal
form (`normalChars_text`). A path that goes on behind a slash enters what follows on top of what
was entered before, so that the first part may be brought into normal form beforehand, unless
nothing is left of it.
-/

set_option autoImplicit false

namespace InjectionCheck.Path

/-! ## Stacks of segments -/

/-- A segment that stays in a path in normal form and does not lead out. -/
structure IsName (part : List Char) : Prop where
  some : part ≠ []
  notHere : part ≠ ['.']
  notUp : part ≠ up
  noSlash : '/' ∉ part
  noBackslash : '\\' ∉ part

/-- What is entered, the last segment first: names, on top of segments that lead out. Nothing
leads out of the root. -/
inductive IsStack (rooted : Bool) : List (List Char) → Prop where
  | climbs (count : Nat) (inside : rooted = true → count = 0) :
      IsStack rooted (List.replicate count up)
  | name {part : List Char} {before : List (List Char)} (isName : IsName part)
      (below : IsStack rooted before) : IsStack rooted (part :: before)

theorem IsName.notBlank {part : List Char} (isName : IsName part) :
    ¬(part = [] ∨ part = ['.']) :=
  not_or.2 ⟨isName.some, isName.notHere⟩

/-- Whoever is outside goes further out. -/
theorem enter_up_replicate (count : Nat) :
    enter false (List.replicate count up) up = List.replicate (count + 1) up := by
  cases count with
  | zero => rfl
  | succ count => exact enter_up_up _

/-- Whoever starts by going out gets there. -/
theorem foldl_enter_replicate (count : Nat) :
    (List.replicate count up).foldl (enter false) [] = List.replicate count up := by
  induction count with
  | zero => rfl
  | succ count ih =>
      rw [List.replicate_succ', List.foldl_append, ih]
      exact (enter_up_replicate count).trans List.replicate_succ'

/-- **One more segment leaves a stack of names on top of segments that lead out.** -/
theorem IsStack.enter {rooted : Bool} {stack : List (List Char)} (isStack : IsStack rooted stack)
    {part : List Char} (noSlash : '/' ∉ part) (noBackslash : '\\' ∉ part) :
    IsStack rooted (enter rooted stack part) := by
  by_cases blank : part = [] ∨ part = ['.']
  · rwa [enter_of_blank blank]
  · by_cases leads : part = up
    · subst leads
      cases isStack with
      | climbs count inside =>
          cases rooted with
          | true =>
              rw [inside rfl]
              exact .climbs 0 fun _ => rfl
          | false =>
              rw [enter_up_replicate]
              exact .climbs (count + 1) fun impossible => nomatch impossible
      | name isName below => rwa [enter_up_cons isName.notUp]
    · rw [enter_of_name blank leads]
      obtain ⟨some, notHere⟩ := not_or.1 blank
      exact .name ⟨some, notHere, leads, noSlash, noBackslash⟩ isStack

/-- Any number of segments do so. -/
theorem IsStack.foldl_enter {rooted : Bool} {parts stack : List (List Char)}
    (isStack : IsStack rooted stack) (noSlash : ∀ part ∈ parts, '/' ∉ part)
    (noBackslash : ∀ part ∈ parts, '\\' ∉ part) :
    IsStack rooted (parts.foldl (Path.enter rooted) stack) := by
  induction parts generalizing stack with
  | nil => exact isStack
  | cons part others ih =>
      rw [List.forall_mem_cons] at noSlash noBackslash
      exact ih (isStack.enter noSlash.1 noBackslash.1) noSlash.2 noBackslash.2

/-- Names on top of a stack make a stack. -/
theorem IsStack.append_names {rooted : Bool} {names stack : List (List Char)}
    (areNames : ∀ name ∈ names, IsName name) (isStack : IsStack rooted stack) :
    IsStack rooted (names ++ stack) := by
  induction names with
  | nil => exact isStack
  | cons name others ih =>
      rw [List.forall_mem_cons] at areNames
      exact .name areNames.1 (ih areNames.2)

/-- A stack that is entered from the bottom is there again. -/
theorem IsStack.foldl_enter_reverse {rooted : Bool} {stack : List (List Char)}
    (isStack : IsStack rooted stack) : stack.reverse.foldl (Path.enter rooted) [] = stack := by
  induction isStack with
  | climbs count inside =>
      cases rooted with
      | true =>
          rw [inside rfl]
          rfl
      | false =>
          rw [List.reverse_replicate]
          exact foldl_enter_replicate count
  | name isName _ ih =>
      rw [List.reverse_cons, List.foldl_append, ih]
      exact enter_of_name isName.notBlank isName.notUp

/-- From the bottom, a stack is segments that lead out and then names. -/
theorem IsStack.exists_names {rooted : Bool} {stack : List (List Char)}
    (isStack : IsStack rooted stack) :
    ∃ (climbs : Nat) (names : List (List Char)), (rooted = true → climbs = 0) ∧
      (∀ name ∈ names, IsName name) ∧ stack.reverse = List.replicate climbs up ++ names := by
  induction isStack with
  | climbs count inside =>
      refine ⟨count, [], inside, List.forall_mem_nil _, ?_⟩
      rw [List.reverse_replicate, List.append_nil]
  | @name part before isName _ ih =>
      obtain ⟨climbs, names, inside, areNames, same⟩ := ih
      refine ⟨climbs, names ++ [part], inside, ?_, ?_⟩
      · intro name isMember
        rcases List.mem_append.1 isMember with earlier | last
        · exact areNames name earlier
        · rwa [List.mem_singleton.1 last]
      · rw [List.reverse_cons, same, List.append_assoc]

/-! ## Normal forms -/

/-- Segments as a path, at the root or not. -/
def written (rooted : Bool) (parts : List (List Char)) : List Char :=
  if rooted then '/' :: joined parts else joined parts

theorem normalChars_eq (text : List Char) :
    normalChars text = written (isRooted (withSlashes text))
      (normalSegments (isRooted (withSlashes text)) (withSlashes text)) :=
  rfl

/-- Segments without slashes do not start at the root, unless the first one is empty. -/
theorem isRooted_joined {parts : List (List Char)} (some : ∀ part ∈ parts, part ≠ [])
    (noSlash : ∀ part ∈ parts, '/' ∉ part) : isRooted (joined parts) = false := by
  cases parts with
  | nil => rfl
  | cons part others =>
      rw [List.forall_mem_cons] at some noSlash
      obtain ⟨c, rest, rfl⟩ := List.exists_cons_of_ne_nil some.1
      have other : c ≠ '/' := by
        rintro rfl
        exact noSlash.1 List.mem_cons_self
      by_cases more : others = []
      · rw [more, joined_singleton, isRooted_cons, decide_eq_false other]
      · rw [joined_cons more, List.cons_append, isRooted_cons, decide_eq_false other]

/-- The parts of a path in normal form. -/
structure NormalForm where
  /-- Whether the path starts at the root. -/
  rooted : Bool
  /-- How many segments lead out of the place where the path starts. -/
  climbs : Nat
  /-- The segments behind them. -/
  names : List (List Char)
  /-- Nothing leads out of the root. -/
  inside : rooted = true → climbs = 0
  areNames : ∀ name ∈ names, IsName name

namespace NormalForm

/-- The segments of a path in normal form. -/
def segments (form : NormalForm) : List (List Char) :=
  List.replicate form.climbs up ++ form.names

/-- A path in normal form. -/
def text (form : NormalForm) : List Char := written form.rooted form.segments

variable (form : NormalForm)

/-- A segment leads out or is a name. -/
theorem eq_up_or_isName {part : List Char} (isPart : part ∈ form.segments) :
    part = up ∨ IsName part := by
  rcases List.mem_append.1 isPart with climbs | isMember
  · exact .inl (List.eq_of_mem_replicate climbs)
  · exact .inr (form.areNames part isMember)

theorem some {part : List Char} (isPart : part ∈ form.segments) : part ≠ [] := by
  rcases form.eq_up_or_isName isPart with rfl | isName
  · decide
  · exact isName.some

theorem noSlash {part : List Char} (isPart : part ∈ form.segments) : '/' ∉ part := by
  rcases form.eq_up_or_isName isPart with rfl | isName
  · decide
  · exact isName.noSlash

theorem noBackslash {part : List Char} (isPart : part ∈ form.segments) : '\\' ∉ part := by
  rcases form.eq_up_or_isName isPart with rfl | isName
  · decide
  · exact isName.noBackslash

/-- From the top, a normal form is a stack. -/
theorem isStack : IsStack form.rooted form.segments.reverse := by
  rw [segments, List.reverse_append, List.reverse_replicate]
  apply IsStack.append_names _ (.climbs form.climbs form.inside)
  intro name isMember
  exact form.areNames name (List.mem_reverse.1 isMember)

/-- A path in normal form has slashes of one kind only. -/
theorem withSlashes_text : withSlashes form.text = form.text := by
  have clean : '\\' ∉ joined form.segments := by
    intro inside
    rcases mem_joined inside with impossible | ⟨part, isPart, there⟩
    · cases impossible
    · exact form.noBackslash isPart there
  apply withSlashes_of_not_mem
  unfold text written
  split
  · exact List.not_mem_cons_of_ne_of_not_mem (by decide) clean
  · exact clean

/-- The first character tells whether a path in normal form starts at the root. -/
theorem isRooted_text : isRooted form.text = form.rooted := by
  unfold text written
  split
  · next rooted => rw [rooted, isRooted]
  · next unrooted =>
    rw [Bool.not_eq_true] at unrooted
    rw [unrooted]
    exact isRooted_joined (fun _ isPart => form.some isPart) fun _ isPart => form.noSlash isPart

/-- Whoever enters a path in normal form enters its segments. -/
theorem foldl_enter_text :
    (Path.segments form.text).foldl (enter form.rooted) [] = form.segments.reverse := by
  have joint : (Path.segments (joined form.segments)).foldl (enter form.rooted) [] =
      form.segments.reverse := by
    by_cases nothing : form.segments = []
    · rw [nothing]
      rfl
    · rw [segments_joined nothing fun _ isPart => form.noSlash isPart]
      simpa only [List.reverse_reverse] using form.isStack.foldl_enter_reverse
  unfold text written
  split
  · rw [segments_slash, List.foldl_cons, enter_of_blank (.inl rfl), joint]
  · exact joint

/-- **A path in normal form is its own normal form.** -/
theorem normalChars_text : normalChars form.text = form.text := by
  rw [normalChars_eq, form.withSlashes_text, form.isRooted_text, normalSegments,
    form.foldl_enter_text, List.reverse_reverse, text]

end NormalForm

/-! ## Bringing a path into normal form -/

/-- What a path enters are the segments of its normal form. -/
theorem exists_normalForm (text : List Char) :
    ∃ form : NormalForm, form.rooted = isRooted (withSlashes text) ∧
      form.segments = normalSegments form.rooted (withSlashes text) ∧
      normalChars text = form.text := by
  have isStack : IsStack (isRooted (withSlashes text))
      ((segments (withSlashes text)).foldl (enter (isRooted (withSlashes text))) []) := by
    apply IsStack.foldl_enter (.climbs 0 fun _ => rfl)
    · exact fun _ isPart => not_mem_of_mem_segments isPart
    · exact fun _ isPart inside => not_mem_withSlashes text (mem_of_mem_segments isPart inside)
  obtain ⟨climbs, names, inside, areNames, same⟩ := isStack.exists_names
  refine ⟨⟨isRooted (withSlashes text), climbs, names, inside, areNames⟩, rfl, same.symm, ?_⟩
  rw [normalChars_eq, normalSegments, same]
  rfl

/-- **What stands before a slash may be brought into normal form beforehand**, unless nothing is
left of it. -/
theorem normalChars_append_slash {first : List Char} (some : normalChars first ≠ [])
    (second : List Char) :
    normalChars (first ++ '/' :: second) = normalChars (normalChars first ++ '/' :: second) := by
  obtain ⟨form, rooted, entered, normal⟩ := exists_normalForm first
  have someFirst : first ≠ [] := by
    rintro rfl
    exact some rfl
  have slashes (text : List Char) :
      withSlashes (text ++ '/' :: second) = withSlashes text ++ '/' :: withSlashes second := by
    rw [withSlashes, List.map_append, List.map_cons]
    rfl
  have start : isRooted (withSlashes (first ++ '/' :: second)) = form.rooted := by
    rw [isRooted_withSlashes_append someFirst, rooted]
  have start' : isRooted (withSlashes (form.text ++ '/' :: second)) = form.rooted := by
    rw [isRooted_withSlashes_append (normal ▸ some), form.withSlashes_text, form.isRooted_text]
  -- both paths have the same segments on the stack when they reach the slash
  have sameStack : (segments (withSlashes first)).foldl (enter form.rooted) [] =
      (segments form.text).foldl (enter form.rooted) [] := by
    rw [form.foldl_enter_text, entered, normalSegments, List.reverse_reverse]
  have same : normalSegments form.rooted (withSlashes (first ++ '/' :: second)) =
      normalSegments form.rooted (withSlashes (form.text ++ '/' :: second)) := by
    rw [slashes, slashes, form.withSlashes_text, normalSegments, normalSegments, segments_append,
      segments_append, List.foldl_append, List.foldl_append, sameStack]
  rw [normal, normalChars_eq, normalChars_eq, start, start', same]

/-! ## Paths as texts -/

/-- Whether a path starts with a slash of either kind. -/
def startsAtRoot (path : String) : Bool := path.toList.head?.any fun c => c = '/' || c = '\\'

theorem isRooted_withSlashes_toList (path : String) :
    isRooted (withSlashes path.toList) = startsAtRoot path := by
  unfold startsAtRoot
  cases path.toList with
  | nil => rfl
  | cons c rest =>
      rw [withSlashes, List.map_cons, isRooted_cons, List.head?_cons, Option.any_some]
      by_cases backslash : c = '\\'
      · rw [backslash]
        rfl
      · rw [if_neg backslash, decide_eq_false backslash, Bool.or_false]

/-- **The normal form of a path.** It starts at the root exactly if the path does, has a few
segments that lead out, none of them at the root, and then names. Whatever has this form is its
own normal form, and so is every normal form. A path that goes on behind a slash has the normal
form that it has behind the normal form of what stands before the slash, if that is not empty. -/
theorem normalize_lawful (path : String) :
    (∃ form : NormalForm,
      form.rooted = startsAtRoot path ∧ (normalize path).toList = form.text) ∧
      (∀ form : NormalForm, normalize (String.ofList form.text) = String.ofList form.text) ∧
      normalize (normalize path) = normalize path ∧
      ∀ rest : String, normalize path ≠ "" →
        normalize (path ++ "/" ++ rest) = normalize (normalize path ++ "/" ++ rest) := by
  obtain ⟨form, rooted, _, normal⟩ := exists_normalForm path.toList
  rw [isRooted_withSlashes_toList] at rooted
  have toList : (normalize path).toList = form.text := by
    rw [normalize, String.toList_ofList, normal]
  refine ⟨⟨form, rooted, toList⟩, fun other => ?_, ?_, fun rest some => ?_⟩
  · rw [normalize, String.toList_ofList, other.normalChars_text]
  · rw [normalize, toList, form.normalChars_text, ← toList, String.ofList_toList]
  · have some' : normalChars path.toList ≠ [] := by
      intro nothing
      exact some (congrArg String.ofList nothing)
    have toListSlash (front : String) :
        (front ++ "/" ++ rest).toList = front.toList ++ '/' :: rest.toList := by
      simp
    rw [normalize, normalize, toListSlash, toListSlash, toList, ← normal,
      ← normalChars_append_slash some']

/-- A folder outside, with slashes of both kinds. -/
theorem normalize_lawful_outside :
    normalize "..\\lib/./app/.." ≠ "" ∧
      normalize ("..\\lib/./app/.." ++ "/" ++ "..\\token.ts") =
        normalize (normalize "..\\lib/./app/.." ++ "/" ++ "..\\token.ts") ∧
      normalize ("..\\lib/./app/.." ++ "/" ++ "..\\token.ts") = "../token.ts" :=
  have some : normalize "..\\lib/./app/.." ≠ "" := by decide +kernel
  ⟨some, (normalize_lawful "..\\lib/./app/..").2.2.2 "..\\token.ts" some, by decide +kernel⟩

-- The folder where a path starts has an empty normal form, and a slash behind it leads to the root.
example : normalize ("." ++ "/" ++ "lib") = "lib" ∧
    normalize (normalize "." ++ "/" ++ "lib") = "/lib" := by
  decide +kernel

end InjectionCheck.Path
