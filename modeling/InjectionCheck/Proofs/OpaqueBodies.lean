import InjectionCheck.Proofs.AbreastItems
import InjectionCheck.Proofs.SkippedBodies
import InjectionCheck.Proofs.TokenStreams

/-!
# Bodies are opaque

What stands between the braces of a body does not matter: where the parser skips the body of a
function or of a member of a class, other tokens may stand between its braces, as long as brackets
are well nested in them. The file declares the same and has the same errors, spans aside
(`BracedGroup.Skipped.ofTokens_same`).

There is one exception. Before a call the parser attempts to read type arguments, and gives the
attempt up if they do not parse. In a file with errors such an attempt may read across a brace at
which, once it is given up, a body is skipped. So what stands in the body decides whether the
attempt is kept (`body_read_by_attempt`), and the bodies are assumed not to matter for that
(`BracedGroup.Settled`). They do not if no angle bracket is in front of the body
(`BracedGroup.settled_of_no_angles`).
-/

set_option autoImplicit false

namespace InjectionCheck

open Cursor Revision

/-! ## The order of errors -/

section Order

variable {gap gap' tokens tokens' : List Token}

/-- The numbers of brackets are those of tokens of the same kinds. -/
theorem SameKinds.counts (same : SameKinds tokens tokens') :
    Nested.opened tokens' = Nested.opened tokens ∧
      Nested.closed tokens' = Nested.closed tokens := by
  induction same with
  | nil => exact ⟨rfl, rfl⟩
  | cons first _ ih => simpa [Nested.opened, Nested.closed, List.countP_cons, first] using ih

theorem Gap.symm (shape : Gap gap gap') : Gap gap' gap := by
  cases shape with
  | none => exact .none
  | braces opens opens' closes closes' inside inside' others =>
      exact .braces opens' opens closes' closes inside' inside others.symm

/-- The tokens from one brace on are not met behind the other brace. -/
theorem Gap.eq_of_suffix (shape : Gap gap gap') (ends : tokens <:+ gap')
    (same : SameKinds gap tokens) : tokens = gap' := by
  cases shape with
  | none => exact List.suffix_nil.1 ends
  | @braces opening closing opening' closing' inner inner' rest rest' opens _ _ _ inside inside'
      others =>
      cases same with
      | @cons _ first _ _ isFirst same =>
          obtain ⟨part, _, rfl, sameInner, same⟩ := SameKinds.exists_append same
          cases same with
          | @cons _ last _ more _ sameRest =>
              refine (List.suffix_cons_iff.1 ends).resolve_right fun ⟨passed, isEnd⟩ => ?_
              have lengths : (last :: more).length = (closing' :: rest').length := by
                rw [List.length_cons, List.length_cons, ← sameRest.length_eq, others.length_eq]
              have isInner : passed ++ first :: part = inner' :=
                (List.append_inj' (by simpa using isEnd) lengths).1
              have counts := SameKinds.counts sameInner
              exact inside'.not_opening_suffix (show first.kind.opens? = some .brace by
                rw [isFirst, opens]; rfl) (by rw [counts.1, counts.2, inside.opened_eq_closed])
                ⟨passed, isInner⟩

/-- At the ends of two files that are of the same kinds, all is behind both braces, unless as many
tokens follow on both. -/
theorem Gap.length_lt_or {all all' : List Token} (shape : Gap gap gap') (gapEnds : gap <:+ all)
    (gapEnds' : gap' <:+ all') (ends : tokens <:+ all) (ends' : tokens' <:+ all')
    (same : SameKinds tokens tokens') (atMost : gap.length ≤ gap'.length) :
    tokens.length < gap.length ∨ gap.length = gap'.length := by
  refine (Nat.lt_or_ge tokens.length gap.length).imp_right fun longer => ?_
  obtain ⟨front, rfl⟩ := List.suffix_of_suffix_length_le gapEnds ends longer
  obtain ⟨front', rest', rfl, -, sameGap⟩ := same.exists_append
  have isEnd : rest' <:+ gap' := by
    refine List.suffix_of_suffix_length_le ((List.suffix_append front' rest').trans ends')
      gapEnds' ?_
    rwa [← sameGap.length_eq]
  rw [sameGap.length_eq, shape.eq_of_suffix isEnd sameGap]

end Order

namespace Cursor

variable {origin c d : Cursor}

/-- The tokens ahead start in the order in which they stand, and so does the end of the file. -/
def InOrder (c : Cursor) : Prop :=
  (c.ahead.map (·.span.start) ++ [c.stop.start]).Pairwise (· < ·)

/-- Of two places in a file the one with more tokens ahead starts earlier. -/
theorem InOrder.start_lt (ordered : origin.InOrder) (reaches : origin.Reaches c)
    (reaches' : origin.Reaches d) (less : d.remaining < c.remaining) :
    c.span.start < d.span.start := by
  obtain ⟨passed, ahead, -, stop⟩ := reaches
  obtain ⟨passed', ahead', -, stop'⟩ := reaches'
  have ends : d.ahead <:+ c.ahead := by
    refine List.suffix_of_suffix_length_le ⟨passed', ahead'.symm⟩ ⟨passed, ahead.symm⟩ ?_
    exact Nat.le_of_lt less
  rw [InOrder, ahead, List.map_append, List.append_assoc, List.pairwise_append, ← stop] at ordered
  obtain ⟨-, ordered, -⟩ := ordered
  have isStop : d.stop = c.stop := stop'.trans stop.symm
  obtain ⟨behind, tokens, stop⟩ := c
  obtain ⟨behind', tokens', stop'⟩ := d
  cases isStop
  cases tokens with
  | nil => exact absurd less (Nat.not_lt_zero _)
  | cons token rest =>
      have within : tokens' <:+ rest := (List.suffix_cons_iff.1 ends).resolve_left fun whole => by
        cases whole
        exact Nat.lt_irrefl _ less
      refine (List.pairwise_cons.1 ordered).1 _ ?_
      cases tokens' with
      | nil => exact List.mem_append_right _ (List.mem_singleton_self _)
      | cons token' rest' =>
          exact List.mem_append_left _
            (List.mem_map_of_mem (within.subset List.mem_cons_self))

theorem InOrder.start_le_iff (ordered : origin.InOrder) (reaches : origin.Reaches c)
    (reaches' : origin.Reaches d) :
    c.span.start ≤ d.span.start ↔ d.remaining ≤ c.remaining := by
  obtain less | same | more := Nat.lt_trichotomy d.remaining c.remaining
  · have := ordered.start_lt reaches reaches' less
    omega
  · have isSpan : c.span = d.span := by
      obtain ⟨passed, ahead, -, stop⟩ := reaches
      obtain ⟨passed', ahead', -, stop'⟩ := reaches'
      rw [Cursor.span, Cursor.span, stop, stop',
        (List.append_inj' (ahead.symm.trans ahead') same.symm).2]
    simp [isSpan, same]
  · have := ordered.start_lt reaches' reaches more
    omega

end Cursor

/-- The cursor before the first token of a file. -/
def TokenList.cursor (list : TokenList) : Cursor := .start list.tokens list.stop

/-- A token of a text starts before the text ends. -/
theorem Scanner.start_lt_of_mem {text : List Char} {offset : Nat} {token : Token}
    (inside : token ∈ tokensAfter offset text) : token.span.start < offset + byteLength text := by
  cases text with
  | nil =>
      rw [tokensAfter_nil] at inside
      cases inside
  | cons first others =>
      have positive := (piece first others).byteLength_taken_pos
      have length := congrArg byteLength (piece first others).whole
      rw [byteLength_append] at length
      rw [tokensAfter_cons, List.mem_append] at inside
      rcases inside with here | later
      · have stands : token.span.start = offset :=
          congrArg Span.start (Piece.span_of_token (Option.mem_toList.1 here))
        omega
      · have before := start_lt_of_mem later
        omega
termination_by text.length
decreasing_by subst_vars; exact Piece.rest_length_lt _

/-- The tokens of a text stand in order. -/
theorem TokenList.inOrder_ofText (text : List Char) : (ofText text).cursor.InOrder := by
  refine List.pairwise_append.2 ⟨sorted_ofText text, List.pairwise_singleton _ _, ?_⟩
  intro start isStart stop isStop
  obtain ⟨token, inside, rfl⟩ := List.mem_map.1 isStart
  cases List.mem_singleton.1 isStop
  have isToken : token ∈ (ofText text).tokens := inside
  rw [tokens_ofText] at isToken
  have before := Scanner.start_lt_of_mem isToken
  rwa [Nat.zero_add, ← length_ofText] at before

namespace Revision

variable {r : Revision} {span span' : Span}

/-- The same place of two files is in front of both braces, or as far from the end of the one file
as from that of the other, and then it is behind both braces unless these are as far as well. -/
theorem SamePlace.exists_cursors (starts : r.Abreast r.origin r.origin')
    (same : r.SamePlace span span') :
    ∃ c c', r.origin.Reaches c ∧ r.origin'.Reaches c' ∧ c.span = span ∧ c'.span = span' ∧
      ((∃ count, c.remaining = count + r.gap.length ∧ c'.remaining = count + r.gap'.length) ∨
        c.remaining = c'.remaining ∧ (c.remaining < r.gap.length ∧ c.remaining < r.gap'.length ∨
          r.gap.length = r.gap'.length)) := by
  obtain ⟨c, c', abreast | abreast, rfl, rfl⟩ := same
  · refine ⟨c, c', abreast.reaches, abreast.reaches', rfl, rfl, .inl ?_⟩
    obtain ⟨front, front', same, ahead, ahead'⟩ := abreast.ahead
    refine ⟨front.length, ?_, ?_⟩
    · rw [Cursor.remaining, ahead, List.length_append]
    · rw [Cursor.remaining, ahead', List.length_append, same.length_eq]
  · refine ⟨c, c', abreast.reaches, abreast.reaches', rfl, rfl, .inr ?_⟩
    obtain ⟨front, front', -, gapEnds, gapEnds'⟩ := starts.ahead
    obtain ⟨passed, passedAhead, -⟩ := abreast.reaches
    obtain ⟨passed', passedAhead', -⟩ := abreast.reaches'
    have same : SameKinds c.ahead c'.ahead := by
      obtain ⟨others, others', same, ahead, ahead'⟩ := abreast.ahead
      rw [ahead, ahead']
      simpa [after] using same
    have count : c.remaining = c'.remaining := same.length_eq
    refine ⟨count, ?_⟩
    obtain atMost | atMost := Nat.le_total r.gap.length r.gap'.length
    · exact (r.shape.length_lt_or ⟨front, gapEnds.symm⟩ ⟨front', gapEnds'.symm⟩
        ⟨passed, passedAhead.symm⟩ ⟨passed', passedAhead'.symm⟩ same atMost).imp_left fun less =>
          ⟨less, Nat.lt_of_lt_of_le less atMost⟩
    · refine (r.shape.symm.length_lt_or ⟨front', gapEnds'.symm⟩ ⟨front, gapEnds.symm⟩
        ⟨passed', passedAhead'.symm⟩ ⟨passed, passedAhead.symm⟩ same.symm atMost).imp (fun less =>
          ⟨?_, count ▸ less⟩) Eq.symm
      exact count ▸ Nat.lt_of_lt_of_le less atMost

/-- In files whose tokens stand in order two places stand in the same order. -/
theorem SamePlace.start_le_iff (starts : r.Abreast r.origin r.origin')
    (ordered : r.origin.InOrder) (ordered' : r.origin'.InOrder) {other other' : Span}
    (first : r.SamePlace span span') (second : r.SamePlace other other') :
    span.start ≤ other.start ↔ span'.start ≤ other'.start := by
  obtain ⟨c, c', reaches, reaches', rfl, rfl, place⟩ := first.exists_cursors starts
  obtain ⟨d, d', further, further', rfl, rfl, place'⟩ := second.exists_cursors starts
  rw [ordered.start_le_iff reaches further, ordered'.start_le_iff reaches' further']
  obtain ⟨count, isCount, isCount'⟩ | ⟨same, behind⟩ := place <;>
    obtain ⟨count', isCount₁, isCount₁'⟩ | ⟨same', behind'⟩ := place' <;> omega

theorem map_unplaced_eq {errors errors' : List ParseError}
    (same : List.Forall₂ r.SameError errors errors') :
    errors.map ParseError.unplaced = errors'.map ParseError.unplaced := by
  induction same with
  | nil => rfl
  | cons first _ ih => rw [List.map_cons, List.map_cons, first.unplaced, ih]

/-- Errors at the same places stay beside each other when they are sorted. -/
theorem sorted_same {errors errors' : List ParseError} {earlier : ParseError → ParseError → Bool}
    (same : List.Forall₂ r.SameError errors errors')
    (agrees : ∀ {first first' second second'}, r.SameError first first' →
      r.SameError second second' → earlier first second = earlier first' second') :
    (errors.mergeSort earlier).map ParseError.unplaced =
      (errors'.mergeSort earlier).map ParseError.unplaced := by
  obtain ⟨sameLength, sameError⟩ := List.forall₂_iff_zip.1 same
  have isFirst : (errors.zip errors').map Prod.fst = errors :=
    List.map_fst_zip (Nat.le_of_eq sameLength)
  have isSecond : (errors.zip errors').map Prod.snd = errors' :=
    List.map_snd_zip (Nat.le_of_eq sameLength.symm)
  -- both sorts are the sort of the pairs
  let sorted := (errors.zip errors').mergeSort fun first second => earlier first.1 second.1
  have sortsFirst : sorted.map Prod.fst = errors.mergeSort earlier := by
    rw [List.map_mergeSort (f := Prod.fst) (s := earlier) fun _ _ _ _ => rfl, isFirst]
  have sortsSecond : sorted.map Prod.snd = errors'.mergeSort earlier := by
    rw [List.map_mergeSort (f := Prod.snd) (s := earlier) fun _ first _ second =>
      agrees (sameError first) (sameError second), isSecond]
  rw [← sortsFirst, ← sortsSecond, List.map_map, List.map_map]
  exact List.map_congr_left fun pair member =>
    (sameError (List.mem_mergeSort.1 member)).unplaced

end Revision

/-! ## Bodies -/

/-- Where no angle bracket is next no type arguments are read. -/
theorem Cursor.typeArguments_rest_of_no_angle {c : Cursor}
    (other : c.kind? ≠ some (.mark .lt)) : c.typeArguments.rest = c := by
  have fails : c.expectMark .lt = .fail (c.expected (.token (some (.mark .lt)))) := by
    obtain ⟨behind, tokens, stop⟩ := c
    cases tokens with
    | nil => rfl
    | cons first rest =>
        have fails : first.kind.agrees (.mark .lt) = false := by
          cases isKind : first.kind <;> simp_all [Cursor.kind?, Kind.agrees]
        simp [expectMark, expect, next?, fails]
  rw [typeArguments, Rules.typeArguments]
  generalize c.expectMark .lt = opened at fails
  obtain ⟨⟨result, d⟩, reaches, moved⟩ := opened
  cases fails
  rfl

/-- A group of a file in braces, with the tokens around it. -/
structure BracedGroup (list : TokenList) where
  front : List Token
  opening : Token
  inner : List Token
  closing : Token
  rest : List Token
  tokens_eq : list.tokens = front ++ opening :: (inner ++ closing :: rest)
  opens : opening.kind = .mark .lbrace
  closes : closing.kind = .mark .rbrace

namespace BracedGroup

variable {list list' : TokenList}

/-- The tokens from the brace that opens to the end of the file. -/
def fromBrace (group : BracedGroup list) : List Token :=
  group.opening :: (group.inner ++ group.closing :: group.rest)

/-- The cursor at the brace that opens. -/
def cursor (group : BracedGroup list) : Cursor :=
  ⟨group.front.reverse, group.fromBrace, list.stop⟩

/-- The parser skips a group as a body, from its first brace to its last one. -/
structure Skipped (group : BracedGroup list) : Prop where
  isBody : FileSkips group.cursor list.cursor
  passed : ∃ whole, group.cursor.skipGroup.result = .ok whole ∧
    group.cursor.skipGroup.rest.ahead = group.rest

/-- Two files have the same tokens around two groups, spans aside, and brackets are well nested
in the second group. -/
structure Replaced (group : BracedGroup list) (group' : BracedGroup list') : Prop where
  front : SameKinds group.front group'.front
  rest : SameKinds group.rest group'.rest
  nested : Nested group'.inner

/-- An attempt to read type arguments in front of a group that reads past its brace and is given
up is given up with the other group as well. -/
def Settled (group : BracedGroup list) (group' : BracedGroup list') : Prop :=
  ∀ c c', Beside list.cursor list'.cursor group.fromBrace group'.fromBrace c c' →
    c.typeArguments.rest.remaining < group.fromBrace.length → c'.KeepsTypeArguments →
      c.KeepsTypeArguments

variable {group : BracedGroup list} {group' : BracedGroup list'}

/-- The parser skips only what is well nested. -/
theorem Skipped.nested (skipped : group.Skipped) : Nested group.inner := by
  obtain ⟨whole, succeeded, isRest⟩ := skipped.passed
  have stopped : group.cursor.skipGroup.stopped = ⟨.ok whole, group.cursor.skipGroup.rest⟩ := by
    rw [← succeeded]
    rfl
  obtain ⟨inner, closing, nested, isInner⟩ := nested_of_skipGroup group.opens stopped
  rw [isRest] at isInner
  obtain ⟨rfl, -⟩ := List.append_inj' isInner rfl
  exact nested

/-- The file and the one with the other group. -/
def revision (group : BracedGroup list) (group' : BracedGroup list') (skipped : group.Skipped)
    (replaced : group.Replaced group') (settled : group.Settled group') : Revision where
  origin := list.cursor
  origin' := list'.cursor
  gap := group.fromBrace
  gap' := group'.fromBrace
  shape := .braces group.opens group'.opens group.closes group'.closes skipped.nested
    replaced.nested replaced.rest
  settled := settled

/-- **Bodies are opaque.** With another body a file declares the same and has the same errors,
spans aside. Errors are sorted by where they start, so they come in the same order where the tokens
of both files stand in order, as those of a text do (`TokenList.inOrder_ofText`). -/
theorem Skipped.ofTokens_same (skipped : group.Skipped) (replaced : group.Replaced group')
    (settled : group.Settled group') :
    (SourceUnit.ofTokens list').items.map Item.unplaced =
        (SourceUnit.ofTokens list).items.map Item.unplaced ∧
      ((SourceUnit.ofTokens list').errors.map ParseError.unplaced).Perm
        ((SourceUnit.ofTokens list).errors.map ParseError.unplaced) ∧
      (list.cursor.InOrder → list'.cursor.InOrder →
        (SourceUnit.ofTokens list').errors.map ParseError.unplaced =
          (SourceUnit.ofTokens list).errors.map ParseError.unplaced) := by
  let r := revision group group' skipped replaced settled
  have starts : r.Abreast r.origin r.origin' :=
    ⟨.refl _, .refl _, group.front, group'.front, replaced.front, group.tokens_eq,
      group'.tokens_eq⟩
  obtain ⟨sameItems, sameErrors⟩ := SourceUnit.sameRest_of_skips rfl skipped.isBody starts
  have unplaced := map_unplaced_eq sameErrors
  refine ⟨sameItems.symm, ?_, fun ordered ordered' => Eq.symm (sorted_same sameErrors ?_)⟩
  · have perm (c : Cursor) := ((SourceUnit.after c).2.mergeSort_perm fun first second =>
      first.span.start ≤ second.span.start).map ParseError.unplaced
    exact (perm r.origin').trans (unplaced ▸ (perm r.origin).symm)
  · intro _ _ _ _ first second
    exact decide_eq_decide.2 (first.place.start_le_iff starts ordered ordered' second.place)

/-! ### Groups of a given file -/

/-- The group whose braces stand at two places of the tokens. -/
def ofPlaces (list : TokenList) (first last : Nat) (before : first < last)
    (braces : ∃ _ : last < list.tokens.length,
      list.tokens[first].kind = .mark .lbrace ∧ list.tokens[last].kind = .mark .rbrace) :
    BracedGroup list :=
  have inside := braces.fst
  { front := list.tokens.take first
    opening := list.tokens[first]
    inner := (list.tokens.drop (first + 1)).take (last - (first + 1))
    closing := list.tokens[last]
    rest := list.tokens.drop (last + 1)
    tokens_eq := by
      have behind : (list.tokens.drop (first + 1)).drop (last - (first + 1)) =
          list.tokens[last] :: list.tokens.drop (last + 1) := by
        rw [List.drop_drop, Nat.add_sub_cancel' before, List.drop_eq_getElem_cons inside]
      rw [← behind, List.take_append_drop, ← List.drop_eq_getElem_cons, List.take_append_drop]
    opens := braces.snd.1
    closes := braces.snd.2 }

/-- Whether a group is passed as a whole can be decided. -/
instance : Decidable group.Skipped :=
  match result : group.cursor.skipGroup.result with
  | .ok whole =>
    decidable_of_iff (FileSkips group.cursor list.cursor ∧
        group.cursor.skipGroup.rest.ahead = group.rest)
      ⟨fun ⟨isBody, isRest⟩ => ⟨isBody, whole, result, isRest⟩, fun skipped =>
        ⟨skipped.isBody, skipped.passed.choose_spec.2⟩⟩
  | .error _ => isFalse fun skipped => by cases result.symm.trans skipped.passed.choose_spec.1

/-- Without a bracket that could start type arguments there is no attempt to read any. -/
theorem settled_of_no_angles (plain : ∀ token ∈ group.front, token.kind ≠ .mark .lt) :
    group.Settled group' := by
  intro c c' beside entered
  obtain ⟨⟨passed, ahead, -⟩, -, front, front', -, isAhead, -⟩ := beside
  have other : c.kind? ≠ some (.mark .lt) := by
    have isFront : group.front = passed ++ front := by
      refine (List.append_inj' (group.tokens_eq.symm.trans (ahead.trans ?_)) rfl).1
      rw [isAhead, List.append_assoc]
      rfl
    rw [Cursor.kind?, isAhead]
    cases front with
    | nil => simp [fromBrace, group.opens]
    | cons token rest => simpa using plain token (by simp [isFront])
  rw [typeArguments_rest_of_no_angle other, Cursor.remaining, isAhead,
    List.length_append] at entered
  exact absurd entered (Nat.not_lt_of_le (Nat.le_add_left _ _))

/-! ### Two bodies of a method -/

/-- A file with a method, whose body is `return;`. -/
def plainLamp : TokenList :=
  .ofText "class Lamp \x7b on(level: number): void \x7b return; \x7d off() \x7b \x7d \x7d".toList

/-- The same file with another body. -/
def workingLamp : TokenList :=
  .ofText ("class Lamp \x7b on(level: number): void \x7b this.set(\x7b size: [level] \x7d); " ++
    "\x7d off() \x7b \x7d \x7d").toList

/-- The body of the method. -/
def plainBody : BracedGroup plainLamp :=
  .ofPlaces plainLamp 11 14 (by decide) (by decide +kernel)

/-- The other body of the method. -/
def workingBody : BracedGroup workingLamp :=
  .ofPlaces workingLamp 11 25 (by decide) (by decide +kernel)

theorem ofTokens_same_lamps :
    plainBody.Skipped ∧ plainBody.Replaced workingBody ∧ plainBody.Settled workingBody ∧
      plainLamp.cursor.InOrder ∧ workingLamp.cursor.InOrder ∧
        (SourceUnit.ofTokens workingLamp).items.map Item.unplaced =
            (SourceUnit.ofTokens plainLamp).items.map Item.unplaced ∧
          (SourceUnit.ofTokens workingLamp).errors.map ParseError.unplaced =
            (SourceUnit.ofTokens plainLamp).errors.map ParseError.unplaced := by
  have facts : (plainBody.Skipped ∧ workingBody.Skipped) ∧
      (SameKinds plainBody.front workingBody.front ∧ SameKinds plainBody.rest workingBody.rest) ∧
        ∀ token ∈ plainBody.front, token.kind ≠ .mark .lt := by
    decide +kernel
  obtain ⟨⟨skipped, skipped'⟩, ⟨front, rest⟩, plain⟩ := facts
  have ordered : plainLamp.cursor.InOrder := TokenList.inOrder_ofText _
  have ordered' : workingLamp.cursor.InOrder := TokenList.inOrder_ofText _
  have replaced : plainBody.Replaced workingBody := ⟨front, rest, skipped'.nested⟩
  have settled : plainBody.Settled workingBody := settled_of_no_angles plain
  obtain ⟨sameItems, -, sameErrors⟩ := skipped.ofTokens_same replaced settled
  exact ⟨skipped, replaced, settled, ordered, ordered', sameItems, sameErrors ordered ordered'⟩

/-! ### A body that is read by an attempt -/

/-- A file with errors in which a method `c` skips its body. Before the call at `(z)` the parser
attempts to read type arguments, which are a function type with a default value in which that
body is an object. -/
def attempting : TokenList :=
  .ofText ("class K \x7b a = b < (x: T = \x7b\x7d in c ? (p) : void \x7b return 1; \x7d) " ++
    "=> y > (z) \x7d").toList

/-- The same file with nothing in the body, which is an object then. -/
def keeping : TokenList :=
  .ofText ("class K \x7b a = b < (x: T = \x7b\x7d in c ? (p) : void \x7b \x7d) " ++
    "=> y > (z) \x7d").toList

def attemptedBody : BracedGroup attempting :=
  .ofPlaces attempting 22 26 (by decide) (by decide +kernel)

def keptBody : BracedGroup keeping :=
  .ofPlaces keeping 22 23 (by decide) (by decide +kernel)

/-- The names of the properties and methods of a class. -/
def memberNames (item : Item) : List String :=
  match item.form with
  | .classType declaration =>
    declaration.members.filterMap fun
      | .constructor _ => none
      | .property member => some member.name
      | .method member => some member.name
  | _ => []

/-- **What stands in a body may matter.** The parser skips the body of the method `c` of a file
with errors. With nothing in the body the file has no errors and no such method. -/
theorem body_read_by_attempt :
    attemptedBody.Skipped ∧ attemptedBody.Replaced keptBody ∧
      (SourceUnit.ofTokens keeping).items.map Item.unplaced ≠
          (SourceUnit.ofTokens attempting).items.map Item.unplaced ∧
        ¬((SourceUnit.ofTokens keeping).errors.map ParseError.unplaced).Perm
          ((SourceUnit.ofTokens attempting).errors.map ParseError.unplaced) := by
  have facts : (attemptedBody.Skipped ∧ SameKinds attemptedBody.front keptBody.front ∧
      SameKinds attemptedBody.rest keptBody.rest) ∧
        (((SourceUnit.ofTokens attempting).items.map Item.unplaced).map memberNames =
            [["in", "c"]] ∧
          ((SourceUnit.ofTokens keeping).items.map Item.unplaced).map memberNames = [["a"]]) ∧
        (SourceUnit.after attempting.cursor).2.length = 2 ∧
          (SourceUnit.after keeping.cursor).2.length = 0 := by
    decide +kernel
  obtain ⟨⟨skipped, front, rest⟩, ⟨names, names'⟩, count, count'⟩ := facts
  refine ⟨skipped, ⟨front, rest, .nil⟩, fun same => ?_, fun same => ?_⟩
  · rw [same, names] at names'
    exact absurd names' (by decide)
  · have lengths := same.length_eq
    simp only [List.length_map, SourceUnit.ofTokens, List.length_mergeSort] at lengths
    exact absurd (count'.symm.trans (lengths.trans count)) (by decide)

end BracedGroup

end InjectionCheck
