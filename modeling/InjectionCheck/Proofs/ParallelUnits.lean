import InjectionCheck.Grammar.SourceUnit
import InjectionCheck.Proofs.ParallelItems

/-!
# Files read in parallel

If the tokens of two files differ only in the descriptions of symbols that the first one binds,
the items of the files agree up to these descriptions (`SourceUnit.bare_after`). Statement by
statement both files stop at the same token, whether or not a statement parses
(`Cursor.Past.exists_walk_following`): a description of a later item is at a later token, so
what differs in a statement is a description of its own.

In a file that is read from tokens in order, object literals start at different places, and so
do constructor parameters (`SourceUnit.apart_ofTokens`).
-/

set_option autoImplicit false

namespace InjectionCheck

open Passed Cursor Outcome

namespace Cursor

variable {c c' d d' : Cursor} {passed : Passed}

/-! ## Going on after a statement -/

theorem exists_walk_skipToItem {c c' : Cursor} (alike : c.Alike c') :
    ∃ passed, Walk c c' passed c.skipToItem.val c'.skipToItem.val := by
  unfold skipToItem
  refine alike.next_cases (fun _ => ⟨[], .refl alike⟩) (fun past past' same walk => ?_)
    fun past past' content content' kind kind' _ walk => ?_
  · have := past.less
    obtain ⟨token', rest', _, _⟩ := past'
    dsimp only at same walk ⊢
    subst same
    by_cases starts : past.token.kind.startsItem = true
    · rw [if_pos starts, if_pos starts]
      exact ⟨[], .refl alike⟩
    rw [if_neg starts, if_neg starts]
    split
    · exact ⟨_, walk⟩
    · cases past.token.kind.opens? with
      | some bracket =>
          obtain ⟨_, walk', -⟩ := parallel_restOfGroup walk.alike bracket past.token.span
          have := (restOfGroup bracket past.token.span past.rest).reaches.remaining_le
          obtain ⟨_, further⟩ := exists_walk_skipToItem walk'.alike
          exact ⟨_, walk.trans (walk'.trans further)⟩
      | none =>
          obtain ⟨_, further⟩ := exists_walk_skipToItem walk.alike
          exact ⟨_, walk.trans further⟩
  · have := past.less
    obtain ⟨_, further⟩ := exists_walk_skipToItem walk.alike
    simp only [kind, kind', Kind.startsItem, Kind.opens?, reduceCtorEq]
    exact ⟨_, walk.trans further⟩
termination_by c.remaining

theorem recoverItem_val (past : c.Past) (reaches : c.Reaches d) :
    (recoverItem past d reaches).val =
      if d.remaining = c.remaining then past.rest.skipToItem.val else d.skipToItem.val := by
  unfold recoverItem
  split <;> rfl

/-- Where a file goes on after a statement. -/
def Past.following (past : c.Past) (outcome : Outcome true c Unit) : Cursor :=
  match outcome.result with
  | .ok _ => outcome.rest
  | .error _ => (recoverItem past outcome.rest outcome.reaches).val

section Following

variable (past : c.Past) (past' : c'.Past) (outcome : Outcome true c Unit)
  (outcome' : Outcome true c' Unit)

theorem Past.reaches_following : outcome.rest.Reaches (past.following outcome) := by
  unfold following
  split
  · exact .refl _
  · rw [recoverItem_val]
    exact reaches_recovered past outcome.reaches

theorem Past.remaining_following_lt : (past.following outcome).remaining < c.remaining := by
  unfold following
  split
  · next given => exact outcome.rest_remaining_lt given
  · exact (recoverItem past _ outcome.reaches).property.2

variable {past past' outcome outcome'}

/-- After statements that both succeed or both fail, files go on at the same token. -/
theorem Past.exists_walk_following {pair : Token × Token}
    (first : Walk c c' [pair] past.rest past'.rest)
    (walk : Walk c c' passed outcome.rest outcome'.rest)
    (results : ResultsAlike (fun _ _ => True) outcome.result outcome'.result) :
    ∃ further, Walk outcome.rest outcome'.rest further (past.following outcome)
      (past'.following outcome') := by
  have reaches := outcome.reaches
  have reaches' := outcome'.reaches
  unfold following
  simp only [recoverItem_val]
  generalize outcome.result = result, outcome'.result = result' at results
  cases results with
  | ok => exact ⟨[], .refl walk.alike⟩
  | error => exact first.exists_recovered exists_walk_skipToItem walk reaches reaches'

end Following

/-! ## A file and itself -/

/-- A cursor before tokens in order is before tokens that are alike. -/
theorem Alike.refl (sorted : (c.ahead.map (·.span.start)).Pairwise (· < ·)) : c.Alike c where
  ahead := List.forall₂_same.2 fun token _ => .same token
  previousSpan := rfl
  stop := rfl
  sorted := sorted

/-- The tokens ahead are those that are passed and those after them. -/
theorem Walk.zip_eq (walk : Walk c c' passed d d') :
    c.ahead.zip c'.ahead = passed ++ d.ahead.zip d'.ahead := by
  rw [walk.ahead, walk.ahead', List.zip_append (by rw [List.length_map, List.length_map])]
  exact congrArg (· ++ _) (List.zip_of_prod rfl rfl).symm

theorem Alike.starts_zip (alike : c.Alike c') :
    starts (c.ahead.zip c'.ahead) = c.ahead.map (·.span.start) := by
  have same : starts (c.ahead.zip c'.ahead) =
      ((c.ahead.zip c'.ahead).map Prod.fst).map (·.span.start) := by
    rw [starts, List.map_map]
    rfl
  rw [same, List.map_fst_zip alike.ahead.length_eq.le]

theorem Alike.walk_next (alike : c.Alike c') {past : c.Past} {past' : c'.Past}
    (isNext : c.next? = some past) (isNext' : c'.next? = some past') :
    past.token.Alike past'.token ∧
      Walk c c' [(past.token, past'.token)] past.rest past'.rest := by
  revert isNext isNext'
  refine alike.next_walk (fun none => nomatch none) fun found found' token walk isNext isNext' => ?_
  cases isNext
  cases isNext'
  exact ⟨token, walk⟩

/-- Tokens that are passed in a source and itself are the same. -/
theorem Walk.clear_self (walk : Walk c c passed d d') : Clear passed := by
  have same : c.ahead.zip c.ahead = c.ahead.map fun token => (token, token) := by
    simpa using List.zip_map' (f := id) (g := id) (l := c.ahead)
  intro pair inside
  have isToken : pair ∈ c.ahead.zip c.ahead := walk.zip_eq ▸ List.mem_append_left _ inside
  rw [same] at isToken
  obtain ⟨token, -, rfl⟩ := List.mem_map.1 isToken
  exact .inl rfl

end Cursor

namespace SourceUnit

/-- The items of a file are those of its first statement and those of the others. -/
theorem items_after (c : Cursor) :
    (after c).1 =
      match c.next? with
      | none => []
      | some past => past.item.items ++ (after (past.following past.item.outcome)).1 := by
  rw [after]
  cases c.next? with
  | none => rfl
  | some past =>
      dsimp only
      generalize past.item = statement
      obtain ⟨items, ⟨⟨result, d⟩, reaches, moved, errors⟩⟩ := statement
      cases result <;> rfl

variable {c c' d d' : Cursor} {passed : Passed}

/-- The items of a file are read from its tokens. -/
theorem itemsReading_self {c : Cursor} (sorted : (c.ahead.map (·.span.start)).Pairwise (· < ·)) :
    ItemsReading (c.ahead.zip c.ahead) (after c).1 (after c).1 := by
  have alike := Alike.refl sorted
  rw [items_after]
  cases isNext : c.next? with
  | none => exact .none
  | some past =>
      have less := past.remaining_following_lt past.item.outcome
      obtain ⟨token, first⟩ := alike.walk_next isNext isNext
      rcases Past.parallel_item alike token first with ⟨passed, walk, results, reading⟩ |
        ⟨passed, d', walk, differs⟩
      · obtain ⟨further, walk'⟩ := Past.exists_walk_following first walk results
        have whole := walk.trans walk'
        have others := itemsReading_self whole.alike.sorted
        have ordered := alike.starts_zip ▸ sorted
        rw [whole.zip_eq, List.append_assoc] at ordered ⊢
        exact reading.append (others.append_left further) ordered
      · refine absurd (fun pair inside => ?_) differs
        exact (walk.clear_self pair inside).imp_right fun none => nomatch none
termination_by c.remaining

/-- Each item that is read from the tokens ahead has its descriptions among them. -/
theorem exists_of_mem_descriptions (alike : c.Alike c') {place : Span}
    (inside : place ∈ (after c).1.flatMap Item.descriptions) :
    ∃ pair ∈ c.ahead.zip c'.ahead, pair.1.span = place := by
  obtain ⟨⟨token, other⟩, isPair, stands⟩ := (itemsReading_self alike.sorted).descriptions place inside
  have isAhead : token ∈ c.ahead := (List.of_mem_zip isPair).1
  rw [← List.map_fst_zip alike.ahead.length_eq.le] at isAhead
  obtain ⟨pair, inZip, rfl⟩ := List.mem_map.1 isAhead
  exact ⟨pair, inZip, stands⟩

/-- **Items agree up to descriptions** if the tokens of two files differ only at descriptions of
symbols that the first one binds. -/
theorem bare_after {c c' : Cursor} (alike : c.Alike c')
    (differ : DifferAt ((after c).1.flatMap Item.descriptions) (c.ahead.zip c'.ahead)) :
    (after c).1.map Item.bare = (after c').1.map Item.bare := by
  rw [items_after c] at differ ⊢
  rw [items_after c']
  revert differ
  refine alike.next_walk (fun _ => rfl) fun past past' token first differ => ?_
  dsimp only at differ ⊢
  rw [List.flatMap_append] at differ
  have less := past.remaining_following_lt past.item.outcome
  have ordered := alike.starts_zip ▸ alike.sorted
  rcases Past.parallel_item alike token first with ⟨passed, walk, results, reading⟩ |
    ⟨passed, d', walk, differs⟩
  · obtain ⟨further, walk'⟩ := Past.exists_walk_following first walk results
    rw [walk.zip_eq, walk'.zip_eq] at ordered differ
    have own : DifferAt (past.item.items.flatMap Item.descriptions) passed := by
      refine differ.left ordered fun place inside => ?_
      obtain ⟨pair, isAhead, stands⟩ := exists_of_mem_descriptions walk'.alike inside
      exact ⟨pair, List.mem_append_right _ isAhead, stands⟩
    have later := (differAt_append.1 (differ.right ordered reading.descriptions)).2
    rw [List.map_append, List.map_append, reading.bare own, bare_after walk'.alike later]
  · refine absurd ?_ differs
    rw [walk.zip_eq] at ordered differ
    refine differ.left ordered fun place inside => ?_
    have reaches := past.reaches_following past.item.outcome
    obtain ⟨further, e', walk'⟩ := walk.alike.exists_walk_of_reaches reaches
    obtain ⟨pair, isAhead, stands⟩ := exists_of_mem_descriptions walk'.alike inside
    exact ⟨pair, walk'.zip_eq ▸ List.mem_append_right _ isAhead, stands⟩
termination_by c.remaining

end SourceUnit

/-! ## Whole files -/

/-- Tokens of two files are alike and stand at increasing places. -/
structure TokenList.Alike (list list' : TokenList) : Prop where
  tokens : List.Forall₂ Token.Alike list.tokens list'.tokens
  stop : list.stop = list'.stop
  sorted : (list.tokens.map (·.span.start)).Pairwise (· < ·)

theorem TokenList.Alike.start {list list' : TokenList} (alike : list.Alike list') :
    (Cursor.start list.tokens list.stop).Alike (Cursor.start list'.tokens list'.stop) :=
  ⟨alike.tokens, rfl, alike.stop, alike.sorted⟩

namespace SourceUnit

theorem bare_ofTokens {list list' : TokenList} (alike : list.Alike list')
    (differ : DifferAt ((ofTokens list).items.flatMap Item.descriptions)
      (list.tokens.zip list'.tokens)) :
    (ofTokens list).items.map Item.bare = (ofTokens list').items.map Item.bare :=
  bare_after alike.start differ

/-- Object literals in a file start at different places, and so do constructor parameters. -/
theorem apart_ofTokens {list : TokenList}
    (sorted : (list.tokens.map (·.span.start)).Pairwise (· < ·)) : (ofTokens list).Apart := by
  have alike := Alike.refl (c := .start list.tokens list.stop) sorted
  have reading := itemsReading_self (c := .start list.tokens list.stop) sorted
  have different : ((Cursor.start list.tokens list.stop).ahead.map (·.span.start)).Nodup :=
    sorted.imp Nat.ne_of_lt
  rw [← alike.starts_zip] at different
  exact ⟨different.sublist reading.objects, different.sublist reading.parameters⟩

end SourceUnit

end InjectionCheck
