import InjectionCheck.Proofs.SpansOfTexts
import Mathlib.Data.List.DropRight

/-!
# Lines and columns

An offset between two characters cuts a text in two. The search among the starts of the lines finds
its line (`LineTable.search_spec`, `LineTable.lineIndex_eq`), which is told by the line feeds before
it, and its column by the characters since the last of them (`LineTable.position_cut`). The text of
this line goes back to the last line feed and on to the next one (`LineTable.lineText_cut`).
Everything else that is promised of a line table follows from these two (`LineTable.places`):
positions are in the order of the offsets, the lines joined by line feeds give the text back, and
the character at an offset is found in its line at its column.

Lines and columns have numbers of 32 bits. So all this is said of texts with fewer bytes than the
greatest offset: one byte more, and at the end of a text there may be no number for the column
(`LineTable.column_overflows_and_last_return_is_dropped`). A carriage return at the end of a line,
also of the last one, is not part of the text of the line.
-/

set_option autoImplicit false

namespace InjectionCheck

/-! ## Lines that are cut in two -/

/-- The characters behind the last line feed of a text. -/
def lineHead (before : List Char) : List Char := before.rtakeWhile (· ≠ '\n')

/-- The characters in front of the first line feed of a text. -/
def lineTail (after : List Char) : List Char := after.takeWhile (· ≠ '\n')

theorem lineHead_feed (before : List Char) : lineHead (before ++ ['\n']) = [] :=
  List.rtakeWhile_concat_neg _ _ _ (by decide)

theorem lineHead_append {more : List Char} (inLine : '\n' ∉ more) (before : List Char) :
    lineHead (before ++ more) = lineHead before ++ more := by
  induction more using List.reverseRecOn with
  | nil => rw [List.append_nil, List.append_nil]
  | append_singleton more c ih =>
    rw [List.mem_append, List.mem_singleton, not_or] at inLine
    rw [← List.append_assoc, lineHead,
      List.rtakeWhile_concat_pos _ _ _ (by simp [Ne.symm inLine.2])]
    change lineHead (before ++ more) ++ [c] = _
    rw [ih inLine.1, List.append_assoc]

theorem lineTail_feed (after : List Char) : lineTail ('\n' :: after) = [] := rfl

theorem lineTail_cons {c : Char} (noFeed : c ≠ '\n') (after : List Char) :
    lineTail (c :: after) = c :: lineTail after :=
  List.takeWhile_cons_of_pos (by simpa using noFeed)

theorem lineTail_append_feed {line : List Char} (inLine : '\n' ∉ line) (rest : List Char) :
    lineTail (line ++ '\n' :: rest) = line := by
  rw [lineTail, List.takeWhile_append_of_pos]
  · exact List.append_nil line
  · intro c inside
    simpa using ne_of_mem_of_not_mem inside inLine

theorem lineTail_of_not_mem {after : List Char} (inLine : '\n' ∉ after) :
    lineTail after = after := by
  rw [lineTail, List.takeWhile_eq_self_iff]
  intro c inside
  simpa using ne_of_mem_of_not_mem inside inLine

namespace LineTable

variable {text before after : List Char}

/-! ## The search for a line -/

section Search

variable {starts : Array Nat} {offset left right : Nat}

theorem getElem?_getD {index : Nat} (inside : index < starts.size) :
    starts[index]? = some (starts.getD index 0) := by
  rw [Array.getElem?_eq_getElem inside, Array.getElem_eq_getD 0]

/-- What stands further left in an array is related to what stands further right. -/
theorem rel_of_lt {related : Nat → Nat → Prop} (pairwise : starts.toList.Pairwise related)
    {first second s t : Nat} (isFirst : starts[first]? = some s)
    (isSecond : starts[second]? = some t) (less : first < second) : related s t := by
  rw [← Array.getElem?_toList] at isFirst isSecond
  obtain ⟨_, rfl⟩ := List.getElem?_eq_some_iff.1 isFirst
  obtain ⟨_, rfl⟩ := List.getElem?_eq_some_iff.1 isSecond
  exact List.pairwise_iff_getElem.1 pairwise _ _ _ _ less

theorem le_of_le (sorted : starts.toList.Pairwise (· ≤ ·)) {first second s t : Nat}
    (isFirst : starts[first]? = some s) (isSecond : starts[second]? = some t)
    (least : first ≤ second) : s ≤ t := by
  rcases Nat.lt_or_eq_of_le least with less | rfl
  · exact rel_of_lt sorted isFirst isSecond less
  · exact Nat.le_of_eq (Option.some.inj (isFirst.symm.trans isSecond))

/-- **What a search finds** between two indices, if all offsets in front of the first one are less
and all from the second one on are greater: the offset itself, or the index in front of which all
are less, and from which on all are greater. -/
theorem search_spec (offset : Nat) (sorted : starts.toList.Pairwise (· ≤ ·))
    (ordered : left ≤ right) (inside : right ≤ starts.size)
    (below : ∀ index start, starts[index]? = some start → index < left → start < offset)
    (above : ∀ index start, starts[index]? = some start → right ≤ index → offset < start) :
    (∃ index, search starts offset left right = .found index ∧ starts[index]? = some offset) ∨
    ∃ place, search starts offset left right = .missing place ∧ place ≤ starts.size ∧
      (∀ index start, starts[index]? = some start → index < place → start < offset) ∧
      ∀ index start, starts[index]? = some start → place ≤ index → offset < start := by
  fun_induction search starts offset left right with
  | case1 left right between middle start less ih =>
    have isMiddle : starts[middle]? = some start := getElem?_getD (by omega)
    refine ih (by omega) inside (fun index here isHere before => ?_) above
    exact Nat.lt_of_le_of_lt (le_of_le sorted isHere isMiddle (Nat.le_of_lt_succ before)) less
  | case2 left right between middle start notLess greater ih =>
    have isMiddle : starts[middle]? = some start := getElem?_getD (by omega)
    refine ih (by omega) (by omega) below fun index here isHere behind => ?_
    exact Nat.lt_of_lt_of_le greater (le_of_le sorted isMiddle isHere behind)
  | case3 left right between middle start notLess notGreater =>
    have isMiddle : starts[middle]? = some start := getElem?_getD (by omega)
    have same : start = offset := by omega
    exact .inl ⟨middle, rfl, same ▸ isMiddle⟩
  | case4 left right none =>
    refine .inr ⟨left, rfl, Nat.le_trans ordered inside, below, ?_⟩
    intro index start isStart behind
    exact above index start isStart (Nat.le_trans (Nat.not_lt.1 none) behind)

/-- **The line of an offset** is the one that starts there or before, if the next one starts behind
it and no two lines start together. -/
theorem lineIndex_eq {table : LineTable} (strict : table.starts.toList.Pairwise (· < ·))
    {index start : Nat} (isStart : table.starts[index]? = some start) (before : start ≤ offset)
    (behind : ∀ next, table.starts[index + 1]? = some next → offset < next) :
    table.lineIndex offset = index := by
  have notBehind {other s : Nat} (isOther : table.starts[other]? = some s) (less : index < other) :
      offset < s := by
    obtain ⟨inside, -⟩ := Array.getElem?_eq_some_iff.1 isOther
    have isNext : table.starts[index + 1]? = some (table.starts.getD (index + 1) 0) :=
      getElem?_getD (Nat.lt_of_le_of_lt less inside)
    exact Nat.lt_of_lt_of_le (behind _ isNext) (le_of_le table.sorted isNext isOther less)
  have found := search_spec offset table.sorted (Nat.zero_le _) (Nat.le_refl _)
    (fun index _ _ none => absurd none (Nat.not_lt_zero index))
    fun index _ some past => absurd (Array.getElem?_eq_some_iff.1 some).1 (Nat.not_lt.2 past)
  unfold lineIndex
  obtain ⟨other, isFound, isOther⟩ | ⟨place, isMissing, inside, less, greater⟩ := found
  · rw [isFound]
    dsimp only
    rcases Nat.lt_trichotomy other index with less | same | greater
    · have := rel_of_lt strict isOther isStart less
      omega
    · exact same
    · have := notBehind isOther greater
      omega
  · rw [isMissing]
    dsimp only
    have atLeast : index < place := by
      by_contra notLess
      have := greater index start isStart (Nat.not_lt.1 notLess)
      omega
    have atMost : place ≤ index + 1 := by
      by_contra more
      have isNext : table.starts[index + 1]? = some (table.starts.getD (index + 1) 0) :=
        getElem?_getD (by omega)
      have := less _ _ isNext (Nat.not_le.1 more)
      have := behind _ isNext
      omega
    omega

end Search

/-! ## Where lines start -/

theorem startsAfter_append (text others : List Char) (offset : Nat) :
    startsAfter (text ++ others) offset =
      startsAfter text offset ++ startsAfter others (offset + byteLength text) := by
  induction text generalizing offset with
  | nil => rfl
  | cons c text ih =>
    rw [List.cons_append, startsAfter_cons, startsAfter_cons, ih, byteLength_cons, Nat.add_assoc,
      List.append_assoc]

/-- There is a start for every line feed. -/
theorem length_startsAfter (text : List Char) (offset : Nat) :
    (startsAfter text offset).length = text.count '\n' := by
  induction text generalizing offset with
  | nil => rfl
  | cons c text ih =>
    rw [startsAfter_cons, List.length_append, ih, List.count_cons]
    by_cases feed : c = '\n' <;> simp [feed, Nat.add_comm]

/-- Lines that follow a line feed of a text start in the text, or at its end, as far as offsets
go. -/
theorem bounds_startsAfter {text : List Char} {offset : Nat}
    (fits : offset + byteLength text ≤ Span.offsetLimit) :
    ∀ start ∈ startsAfter text offset, offset < start ∧ start ≤ offset + byteLength text := by
  induction text generalizing offset with
  | nil => exact List.forall_mem_nil _
  | cons c text ih =>
    intro start inside
    have positive := c.utf8Size_pos
    rw [byteLength_cons] at fits ⊢
    rw [startsAfter_cons, List.mem_append] at inside
    rcases inside with here | later
    · split at here
      · have isHere := List.mem_singleton.1 here
        omega
      · cases here
    · have bounds := ih (by omega) start later
      omega

/-- No two lines start together, as far as offsets go. -/
theorem strict_startsAfter {text : List Char} {offset : Nat}
    (fits : offset + byteLength text ≤ Span.offsetLimit) :
    (startsAfter text offset).Pairwise (· < ·) := by
  induction text generalizing offset with
  | nil => exact .nil
  | cons c text ih =>
    have fits' : offset + c.utf8Size + byteLength text ≤ Span.offsetLimit := by
      rwa [byteLength_cons, ← Nat.add_assoc] at fits
    rw [startsAfter_cons]
    split
    · refine .cons (fun start inside => ?_) (ih fits')
      have bounds := bounds_startsAfter fits' start inside
      omega
    · exact ih fits'

/-- The line behind the first line feed starts after it. -/
theorem head?_startsAfter {text : List Char} {offset : Nat}
    (fits : offset + byteLength text ≤ Span.offsetLimit) :
    (startsAfter text offset).head? =
      if '\n' ∈ text then some (offset + byteLength (lineTail text) + 1) else none := by
  induction text generalizing offset with
  | nil => rfl
  | cons c text ih =>
    rw [byteLength_cons] at fits
    rw [startsAfter_cons]
    by_cases feed : c = '\n'
    · subst feed
      have inside : offset + '\n'.utf8Size ≤ Span.offsetLimit := by omega
      rw [if_pos rfl, if_pos List.mem_cons_self, Nat.min_eq_left inside]
      rfl
    · rw [if_neg feed, List.nil_append, ih (by omega), lineTail_cons feed, byteLength_cons]
      simp only [List.mem_cons, Ne.symm feed, false_or, Nat.add_assoc]

theorem getElem?_starts (text : List Char) (index : Nat) :
    (ofText text).starts[index]? = (0 :: startsAfter text 0)[index]? :=
  List.getElem?_toArray

theorem strict_starts {text : List Char} (fits : byteLength text ≤ Span.offsetLimit) :
    (ofText text).starts.toList.Pairwise (· < ·) := by
  have fits' : 0 + byteLength text ≤ Span.offsetLimit := by rwa [Nat.zero_add]
  exact .cons (fun start inside => (bounds_startsAfter fits' start inside).1)
    (strict_startsAfter fits')

theorem lineCount_ofText (text : List Char) :
    (ofText text).lineCount = text.count '\n' + 1 :=
  congrArg Nat.succ (length_startsAfter text 0)

/-! ## Texts that are cut in two -/

section Cut

variable {before after : List Char}

/-- The line behind the one of an offset starts after the next line feed. -/
theorem getElem?_starts_next (fits : byteLength (before ++ after) ≤ Span.offsetLimit) :
    (ofText (before ++ after)).starts[before.count '\n' + 1]? =
      if '\n' ∈ after then some (byteLength before + byteLength (lineTail after) + 1)
        else none := by
  rw [byteLength_append] at fits
  have place : (startsAfter before 0).length = before.count '\n' := length_startsAfter before 0
  rw [getElem?_starts, List.getElem?_cons_succ, startsAfter_append, Nat.zero_add, ← place,
    List.getElem?_append_right (Nat.le_refl _), Nat.sub_self, ← List.head?_eq_getElem?,
    head?_startsAfter fits]

/-- The line of an offset starts behind the last line feed before it. -/
theorem getElem?_starts_cut (fits : byteLength (before ++ after) ≤ Span.offsetLimit) :
    (ofText (before ++ after)).starts[before.count '\n']? =
      some (byteLength (before.rdropWhile (· ≠ '\n'))) := by
  induction before using List.reverseRecOn generalizing after with
  | nil => rfl
  | append_singleton before c ih =>
    rw [List.append_assoc] at fits
    by_cases feed : c = '\n'
    · subst feed
      have counted : (before ++ ['\n']).count '\n' = before.count '\n' + 1 := List.count_append
      rw [List.rdropWhile_concat_neg _ _ _ (by decide), List.append_assoc, counted,
        getElem?_starts_next fits, List.singleton_append, if_pos List.mem_cons_self, lineTail_feed,
        byteLength_append]
      rfl
    · have noFeed : [c].count '\n' = 0 := List.count_eq_zero.2 (by simpa using Ne.symm feed)
      rw [List.rdropWhile_concat_pos _ _ _ (by simpa using feed), List.append_assoc,
        List.count_append, noFeed, Nat.add_zero]
      exact ih fits

/-- A line starts before the offsets in it. -/
theorem byteLength_rdropWhile_le (before : List Char) :
    byteLength (before.rdropWhile (· ≠ '\n')) ≤ byteLength before := by
  have whole : before.rdropWhile (· ≠ '\n') ++ lineHead before = before :=
    List.rdropWhile_append_rtakeWhile
  rw [← congrArg byteLength whole, byteLength_append]
  exact Nat.le_add_right _ _

/-- **The line of an offset** is told by the line feeds before it. -/
theorem lineIndex_cut (fits : byteLength (before ++ after) ≤ Span.offsetLimit) :
    (ofText (before ++ after)).lineIndex (byteLength before) = before.count '\n' := by
  apply lineIndex_eq (strict_starts fits) (getElem?_starts_cut fits)
    (byteLength_rdropWhile_le before)
  intro next isNext
  rw [getElem?_starts_next fits] at isNext
  split at isNext
  · cases isNext
    omega
  · cases isNext

/-- An offset past the end is in the last line. -/
theorem lineIndex_past {text : List Char} {offset : Nat}
    (fits : byteLength text ≤ Span.offsetLimit) (past : byteLength text ≤ offset) :
    (ofText text).lineIndex offset = text.count '\n' := by
  rw [← List.append_nil text] at fits
  have isStart := getElem?_starts_cut fits
  have isNext := getElem?_starts_next fits
  rw [List.append_nil] at fits isStart isNext
  apply lineIndex_eq (strict_starts fits) isStart
    (Nat.le_trans (byteLength_rdropWhile_le text) past)
  intro next isLater
  cases isNext.symm.trans isLater

theorem length_le_byteLength (text : List Char) : text.length ≤ byteLength text := by
  induction text with
  | nil => exact Nat.le_refl 0
  | cons c text ih =>
    have positive := c.utf8Size_pos
    rw [List.length_cons, byteLength_cons]
    omega

/-- A text has as many bytes as characters exactly if all its characters are one byte. -/
theorem byteLength_eq_length_iff (text : List Char) :
    byteLength text = text.length ↔ ∀ c ∈ text, c.utf8Size = 1 := by
  induction text with
  | nil => simp
  | cons c text ih =>
    have positive := c.utf8Size_pos
    have atMost := length_le_byteLength text
    rw [List.forall_mem_cons, ← ih, List.length_cons, byteLength_cons]
    omega

theorem length_lineHead_le (before : List Char) : (lineHead before).length ≤ before.length :=
  (List.rtakeWhile_suffix _ _).length_le

/-- What is cut out from the start of the line of an offset. -/
theorem sliceBytes_line (before more rest : List Char) :
    sliceBytes (before ++ (more ++ rest)) (byteLength (before.rdropWhile (· ≠ '\n')))
      (byteLength before + byteLength more) = some (lineHead before ++ more) := by
  have whole : before.rdropWhile (· ≠ '\n') ++ lineHead before = before :=
    List.rdropWhile_append_rtakeWhile
  have cut := sliceBytes_append (before.rdropWhile (· ≠ '\n')) (lineHead before ++ more) rest
  rwa [byteLength_append, ← Nat.add_assoc, ← byteLength_append, ← List.append_assoc,
    ← List.append_assoc, whole, List.append_assoc] at cut

/-- **The position of an offset** is told by the line feeds before it, and by the characters behind
the last of them. -/
theorem position_eq (fits : byteLength (before ++ after) ≤ Span.offsetLimit) :
    (ofText (before ++ after)).position (before ++ after) (byteLength before) =
      (ordinal (before.count '\n'), ordinal (lineHead before).length) := by
  have inText : byteLength before ≤ byteLength (before ++ after) := by
    rw [byteLength_append]
    exact Nat.le_add_right _ _
  have line : before.count '\n' ≤ Span.offsetLimit :=
    Nat.le_trans List.count_le_length
      (Nat.le_trans (length_le_byteLength before) (Nat.le_trans inText fits))
  have start : (ofText (before ++ after)).starts.getD (before.count '\n') 0 =
      byteLength (before.rdropWhile (· ≠ '\n')) := by
    rw [Array.getD_eq_getD_getElem?, getElem?_starts_cut fits, Option.getD_some]
  have slice : sliceBytes (before ++ after) (byteLength (before.rdropWhile (· ≠ '\n')))
      (byteLength before) = some (lineHead before) := by
    have cut := sliceBytes_line before [] after
    rwa [List.append_nil] at cut
  rw [position, lineAt, lineIndex_cut fits]
  simp only [indexOf_ordinal line, start, Nat.min_eq_left inText, slice, Option.map_some,
    Option.getD_some]

/-- The line and the column behind a text have numbers of 32 bits. -/
def Numbered (before : List Char) : Prop :=
  before.count '\n' < Span.offsetLimit ∧ (lineHead before).length < Span.offsetLimit

instance (before : List Char) : Decidable (Numbered before) := inferInstanceAs (Decidable (_ ∧ _))

/-- In front of the greatest offset every line and every column has its number. -/
theorem numbered_of_lt (less : byteLength before < Span.offsetLimit) : Numbered before :=
  have short : before.length < Span.offsetLimit :=
    Nat.lt_of_le_of_lt (length_le_byteLength before) less
  ⟨Nat.lt_of_le_of_lt List.count_le_length short,
    Nat.lt_of_le_of_lt (length_lineHead_le before) short⟩

theorem position_cut (fits : byteLength (before ++ after) ≤ Span.offsetLimit)
    (numbered : Numbered before) :
    (ofText (before ++ after)).position (before ++ after) (byteLength before) =
      (before.count '\n' + 1, (lineHead before).length + 1) := by
  rw [position_eq fits, ordinal_of_lt numbered.1, ordinal_of_lt numbered.2]

/-- **The text of a line** goes back to the last line feed, and on to the next one. -/
theorem lineText_cut (fits : byteLength (before ++ after) ≤ Span.offsetLimit) :
    (ofText (before ++ after)).lineText (before ++ after) (before.count '\n' + 1) =
      some (dropReturn (lineHead before ++ lineTail after)) := by
  have slice : sliceBytes (before ++ after) (byteLength (before.rdropWhile (· ≠ '\n')))
      (byteLength before + byteLength (lineTail after)) =
        some (lineHead before ++ lineTail after) := by
    have cut := sliceBytes_line before (lineTail after) (after.dropWhile (· ≠ '\n'))
    rwa [lineTail, List.takeWhile_append_dropWhile] at cut
  rw [lineText, getElem?_starts_cut fits, Option.bind_some, getElem?_starts_next fits]
  by_cases inside : '\n' ∈ after
  · simp only [if_pos inside, Nat.add_sub_cancel, slice, Option.map_some]
  · have atEnd : byteLength (before ++ after) =
        byteLength before + byteLength (lineTail after) := by
      rw [byteLength_append, lineTail_of_not_mem inside]
    simp only [if_neg inside, atEnd, slice, Option.map_some]

end Cut

/-! ## All lines -/

/-- There is a line for every line feed, and one more. -/
theorem length_splitOn (text : List Char) :
    (text.splitOn '\n').length = text.count '\n' + 1 := by
  induction text with
  | nil => rfl
  | cons c text ih =>
    rw [List.splitOn_cons_eq_if_modifyHead, List.count_cons]
    by_cases feed : c = '\n' <;> simp [feed, ih]

theorem getElem?_splitOn_zero (text : List Char) :
    (text.splitOn '\n')[0]? = some (lineTail text) := by
  by_cases inside : '\n' ∈ text
  · obtain ⟨line, rest, rfl, inLine⟩ := List.eq_append_cons_of_mem inside
    rw [List.splitOn_append_cons_self_of_not_mem inLine, lineTail_append_feed inLine]
    rfl
  · rw [List.splitOn_eq_singleton inside, lineTail_of_not_mem inside]
    rfl

/-- The line of an offset is the one that is split off at the line feeds around it. -/
theorem getElem?_splitOn_cut (before after : List Char) :
    ((before ++ after).splitOn '\n')[before.count '\n']? =
      some (lineHead before ++ lineTail after) := by
  induction before using List.reverseRecOn generalizing after with
  | nil => exact getElem?_splitOn_zero after
  | append_singleton before c ih =>
    by_cases feed : c = '\n'
    · subst feed
      have place : (before ++ ['\n']).count '\n' = (before.splitOn '\n').length := by
        rw [length_splitOn, List.count_append]
        rfl
      rw [List.append_assoc, List.singleton_append, List.splitOn_append_cons_self, place,
        List.getElem?_append_right (Nat.le_refl _), Nat.sub_self, getElem?_splitOn_zero,
        lineHead_feed, List.nil_append]
    · have noFeed : [c].count '\n' = 0 := List.count_eq_zero.2 (by simpa using Ne.symm feed)
      rw [List.append_assoc, List.count_append, noFeed, Nat.add_zero, ih, List.singleton_append,
        lineTail_cons feed, lineHead_append (by simpa using Ne.symm feed), List.append_assoc,
        List.singleton_append]

/-- A text can be cut in two in each of its lines. -/
theorem exists_cut {text : List Char} {index : Nat} (inside : index ≤ text.count '\n') :
    ∃ before after, before ++ after = text ∧ before.count '\n' = index := by
  induction text generalizing index with
  | nil => exact ⟨[], [], rfl, (Nat.le_zero.1 inside).symm⟩
  | cons c text ih =>
    cases index with
    | zero => exact ⟨[], c :: text, rfl, rfl⟩
    | succ index =>
      rw [List.count_cons] at inside
      by_cases feed : c = '\n'
      · have less : index ≤ text.count '\n' := by simpa [feed] using inside
        obtain ⟨before, after, rfl, counted⟩ := ih less
        exact ⟨c :: before, after, rfl, by simp [feed, counted]⟩
      · have less : index + 1 ≤ text.count '\n' := by simpa [feed] using inside
        obtain ⟨before, after, rfl, counted⟩ := ih less
        exact ⟨c :: before, after, rfl, by simp [feed, counted]⟩

/-- **The texts of all lines** are what is split off at the line feeds, without carriage returns at
the ends. -/
theorem map_lineText {text : List Char} (fits : byteLength text ≤ Span.offsetLimit) :
    (List.range (ofText text).lineCount).map
        (fun index => (ofText text).lineText text (index + 1)) =
      (text.splitOn '\n').map (some ∘ dropReturn) := by
  rw [lineCount_ofText]
  apply List.ext_getElem?
  intro index
  by_cases inside : index ≤ text.count '\n'
  · obtain ⟨before, after, rfl, rfl⟩ := exists_cut inside
    rw [List.getElem?_map, List.getElem?_map, List.getElem?_range (Nat.lt_succ_of_le inside),
      getElem?_splitOn_cut, Option.map_some, Option.map_some, lineText_cut fits]
    rfl
  · rw [List.getElem?_eq_none, List.getElem?_eq_none]
    · rw [List.length_map, length_splitOn]
      omega
    · rw [List.length_map, List.length_range]
      omega

/-- A line has a carriage return at its end that is dropped, or none. -/
theorem dropReturn_append (line : List Char) :
    dropReturn line ++ (if line.getLast? = some '\r' then ['\r'] else []) = line := by
  unfold dropReturn
  split
  · next last => exact List.dropLast_append_getLast? '\r' last
  · exact List.append_nil line

theorem length_dropReturn_le (line : List Char) : (dropReturn line).length ≤ line.length := by
  unfold dropReturn
  split
  · rw [List.length_dropLast]
    exact Nat.sub_le _ _
  · exact Nat.le_refl _

/-! ## The order of positions -/

/-- **Positions are in the order of their offsets:** the later one is on a later line, or further
right on the same line. -/
theorem position_lt {text : List Char} (fits : byteLength text < Span.offsetLimit)
    {offset later : Nat} (cut : IsCut text offset) (cut' : IsCut text later)
    (less : offset < later) :
    let first := (ofText text).position text offset
    let second := (ofText text).position text later
    first.1 < second.1 ∨ first.1 = second.1 ∧ first.2 < second.2 := by
  obtain ⟨before, front, rfl⟩ := cut
  obtain ⟨through, further, rfl⟩ := cut'
  obtain ⟨more, rfl⟩ := isPrefix_of_byteLength_le front further (Nat.le_of_lt less)
  obtain ⟨rest, rfl⟩ := further
  have some : more ≠ [] := by
    rintro rfl
    rw [List.append_nil] at less
    exact Nat.lt_irrefl _ less
  have last : byteLength (before ++ more) < Span.offsetLimit := by
    rw [byteLength_append] at fits
    omega
  have here := @position_cut before (more ++ rest)
    (List.append_assoc before more rest ▸ Nat.le_of_lt fits)
    (numbered_of_lt (Nat.lt_trans less last))
  rw [← List.append_assoc] at here
  rw [here, position_cut (Nat.le_of_lt fits) (numbered_of_lt last), List.count_append]
  by_cases feed : '\n' ∈ more
  · have counted := List.count_pos_iff.2 feed
    left
    dsimp only
    omega
  · have longer := List.length_pos_iff.2 some
    right
    rw [List.count_eq_zero.2 feed, lineHead_append feed, List.length_append]
    dsimp only
    omega

/-! ## Characters in their lines -/

/-- A character that is part of a line end, in front of the rest of the text: a line feed, or a
carriage return at the end of its line. -/
def IsLineEnd (c : Char) (after : List Char) : Prop :=
  c = '\n' ∨ c = '\r' ∧ (after = [] ∨ after.head? = some '\n')

instance (c : Char) (after : List Char) : Decidable (IsLineEnd c after) :=
  inferInstanceAs (Decidable (_ ∨ _))

theorem lineTail_eq_nil_iff {after : List Char} :
    lineTail after = [] ↔ after = [] ∨ after.head? = some '\n' := by
  cases after with
  | nil => simp [lineTail]
  | cons c after =>
    by_cases feed : c = '\n'
    · simp [lineTail, feed]
    · simp [lineTail_cons feed, feed]

/-- **A character is found in its line,** unless it is part of the line end. -/
theorem getElem?_dropReturn (before : List Char) (c : Char) (after : List Char) :
    (dropReturn (lineHead before ++ lineTail (c :: after)))[(lineHead before).length]? =
      if IsLineEnd c after then none else some c := by
  by_cases feed : c = '\n'
  · have ends : IsLineEnd c after := .inl feed
    rw [if_pos ends, feed, lineTail_feed, List.append_nil, List.getElem?_eq_none]
    exact length_dropReturn_le _
  · have ends : IsLineEnd c after ↔ c = '\r' ∧ lineTail after = [] := by
      rw [IsLineEnd, lineTail_eq_nil_iff]
      simp only [feed, false_or]
    rw [lineTail_cons feed]
    cases rest : lineTail after with
    | nil =>
      rw [rest] at ends
      by_cases isReturn : c = '\r'
      · rw [if_pos (ends.2 ⟨isReturn, rfl⟩)]
        simp [dropReturn, isReturn]
      · rw [if_neg fun isEnd => isReturn (ends.1 isEnd).1]
        simp [dropReturn, isReturn]
    | cons d more =>
      have noEnd : ¬IsLineEnd c after := by simp [ends, rest]
      rw [if_neg noEnd, dropReturn]
      split
      · rw [List.dropLast_append_cons, List.getElem?_append_right (Nat.le_refl _), Nat.sub_self]
        rfl
      · rw [List.getElem?_append_right (Nat.le_refl _), Nat.sub_self]
        rfl

/-- **What a line table says of a text** of fewer bytes than the greatest offset. An offset between
two characters has the line that the line feeds before it tell, and the column that the characters
since the last of them tell. Offsets past the end count as the end, and positions are in the order
of the offsets. The lines, joined by line feeds, give the text back, but for a carriage return at
the end of each line. A character that is not part of a line end is found in its line at its
column. -/
theorem places (text : List Char) (fits : byteLength text < Span.offsetLimit) :
    let table := ofText text
    (∀ before after, before ++ after = text → table.position text (byteLength before) =
      (before.count '\n' + 1, (lineHead before).length + 1)) ∧
    (∀ offset, byteLength text ≤ offset →
      table.position text offset = table.position text (byteLength text)) ∧
    (∀ offset later, IsCut text offset → IsCut text later → offset < later →
      let first := table.position text offset
      let second := table.position text later
      first.1 < second.1 ∨ first.1 = second.1 ∧ first.2 < second.2) ∧
    (∃ lines, ['\n'].intercalate lines = text ∧
      (List.range table.lineCount).map (fun index => table.lineText text (index + 1)) =
        lines.map (some ∘ dropReturn) ∧
      ∀ line ∈ lines,
        dropReturn line ++ (if line.getLast? = some '\r' then ['\r'] else []) = line) ∧
    ∀ before c after, before ++ c :: after = text →
      let place := table.position text (byteLength before)
      (table.lineText text place.1).bind (·[place.2 - 1]?) =
        if IsLineEnd c after then none else some c := by
  intro table
  have atMost := Nat.le_of_lt fits
  have numbered {before after : List Char} (whole : before ++ after = text) :
      Numbered before := by
    rw [← whole, byteLength_append] at fits
    exact numbered_of_lt (Nat.lt_of_le_of_lt (Nat.le_add_right _ _) fits)
  refine ⟨?_, ?_, ?_, ?_, ?_⟩
  · rintro before after rfl
    exact position_cut atMost (numbered rfl)
  · intro offset past
    have sameLine : table.lineAt offset = table.lineAt (byteLength text) := by
      rw [lineAt, lineAt, lineIndex_past atMost past, lineIndex_past atMost (Nat.le_refl _)]
    rw [position, position, sameLine, Nat.min_eq_right past, Nat.min_self]
  · intro offset later cut cut' order
    exact position_lt fits cut cut' order
  · refine ⟨text.splitOn '\n', List.intercalate_splitOn '\n', map_lineText atMost, ?_⟩
    intro line _
    exact dropReturn_append line
  · rintro before c after rfl
    have line := lineText_cut atMost
    rw [position_cut atMost (numbered rfl)]
    dsimp only
    rw [line, Option.bind_some, Nat.add_sub_cancel, getElem?_dropReturn]

/-- Behind a wide character and a line feed with a carriage return, the second character of the
second line is found at its offset. -/
theorem places_wideCharacter :
    let text := "é\r\nbc".toList
    byteLength text < Span.offsetLimit ∧ (ofText text).position text 5 = (2, 2) ∧
      ((ofText text).lineText text 2).bind (·[1]?) = some 'c' := by
  intro text
  have fits : byteLength text < Span.offsetLimit := by decide +kernel
  obtain ⟨positions, -, -, -, characters⟩ := places text fits
  have here := positions "é\r\nb".toList "c".toList (by decide +kernel)
  have found := characters "é\r\nb".toList 'c' [] (by decide +kernel)
  have offset : byteLength "é\r\nb".toList = 5 := by decide +kernel
  have line : ("é\r\nb".toList.count '\n' + 1, (lineHead "é\r\nb".toList).length + 1) = (2, 2) := by
    decide +kernel
  rw [offset, line] at here
  rw [offset, here] at found
  exact ⟨fits, here, found⟩

/-- At the end of a line of as many characters as the greatest offset the column has no number. And
a carriage return at the end of a text is not found in its line, though no line feed follows it. -/
theorem column_overflows_and_last_return_is_dropped :
    (let text := List.replicate Span.offsetLimit 'a'
     byteLength text = Span.offsetLimit ∧
       (ofText text).position text (byteLength text) = (1, 0) ∧
       (text.count '\n' + 1, (lineHead text).length + 1) = (1, Span.offsetLimit + 1)) ∧
    (let text := ['a', '\r']
     (ofText text).position text 1 = (1, 2) ∧ (ofText text).lineText text 1 = some ['a']) := by
  refine ⟨?_, by decide +kernel⟩
  intro text
  have short : ∀ c ∈ text, c = 'a' := fun c inside => List.eq_of_mem_replicate inside
  have inLine : '\n' ∉ text := fun inside => absurd (short _ inside) (by decide)
  have isLength : text.length = Span.offsetLimit := List.length_replicate
  have bytes : byteLength text = Span.offsetLimit := by
    rw [(byteLength_eq_length_iff text).2 fun c inside => by rw [short c inside]; rfl, isLength]
  have none : text.count '\n' = 0 := List.count_eq_zero.2 inLine
  have whole : lineHead text = text := lineHead_append inLine []
  have position := @position_eq text []
    (by rw [List.append_nil]; exact Nat.le_of_eq bytes)
  rw [List.append_nil, none, whole, isLength] at position
  rw [none, whole, isLength]
  exact ⟨bytes, position, rfl⟩

end LineTable

end InjectionCheck
