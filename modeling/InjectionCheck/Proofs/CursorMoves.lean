import InjectionCheck.Proofs.Readings

/-!
# Moves of a cursor

Whoever reads a file asks a cursor to pass tokens, one at a time or a whole group, and may return
to a position that the cursor has had before (`CursorRequest`). However this goes on, the cursor
stands before a token of the file or before its end (`Visits.steady`). It goes back only if it is
told to return, and it does not leave the end otherwise.

The rules for a single token have one thing in common (`run_of_isSingle`): they succeed exactly if
the next token is what they ask for, and advance then, and otherwise leave the cursor as it is.
-/

set_option autoImplicit false

namespace InjectionCheck

/-! ## Requests -/

/-- What a cursor may be asked. Of the kinds to pass, `none` stands for the end of the file. -/
inductive CursorRequest where
  /-- Pass the next token, whatever it is. -/
  | advance
  /-- Pass the next token if it is of a kind. -/
  | eat (kind : Option Kind)
  | eatName (text : String)
  /-- Pass the next token, which has to be of a kind. -/
  | expect (kind : Option Kind)
  | expectName
  | skipGroup
  | skipAngles
  /-- Go to a position. -/
  | moveTo (position : Nat)
deriving DecidableEq, Repr

/-- Whether a request succeeded, and where the cursor stands then. -/
structure CursorResponse where
  succeeded : Bool
  rest : Cursor
deriving DecidableEq, Repr

/-- The response of a rule, which succeeds if it gives a value of some kind. -/
def Outcome.response {α : Type} {moves : Bool} {c : Cursor} (outcome : Outcome moves c α)
    (isSuccess : α → Bool) : CursorResponse where
  succeeded := match outcome.result with
    | .ok value => isSuccess value
    | .error _ => false
  rest := outcome.rest

theorem Kind.agrees_comm (first second : Kind) : first.agrees second = second.agrees first := by
  cases first <;> cases second <;> simp [agrees, eq_comm]

/-- What follows a rule that fails does not move the cursor. -/
theorem Outcome.rest_andThen_of_failed {α β : Type} {moves : Bool} {c : Cursor}
    {outcome : Outcome true c α} {error : ParseError} (failed : outcome.result = .error error)
    {next : (value : α) → (d : Cursor) → d.remaining < c.remaining → Outcome moves d β} :
    (outcome.andThen next).rest = outcome.rest := by
  obtain ⟨⟨result, d⟩, reaches, moved⟩ := outcome
  cases failed
  rfl

namespace CursorRequest

/-- What a cursor does when it is asked something. -/
def run (c : Cursor) : CursorRequest → CursorResponse
  | .advance => ⟨true, c.advance⟩
  | .eat (some kind) => (c.optional kind.agrees).response id
  | .eat none => ⟨c.atEnd, c⟩
  | .eatName text => (c.optional (· = .name text)).response id
  | .expect (some kind) => (c.expect kind).response fun _ => true
  | .expect none => c.expectEnd.response fun _ => true
  | .expectName => c.expectName.response fun _ => true
  | .skipGroup => c.skipGroup.response fun _ => true
  | .skipAngles => c.skipAngles.response fun _ => true
  | .moveTo position => ⟨true, c.moveTo position⟩

/-- Whether a request is to go to a position. -/
def isReturn : CursorRequest → Bool
  | .moveTo _ => true
  | _ => false

/-- Whether a request is for a single token. -/
def isSingle : CursorRequest → Bool
  | .skipGroup | .skipAngles | .moveTo _ => false
  | _ => true

/-- Whether a request for a single token asks for a token of a kind, or for the end. -/
def fits : CursorRequest → Option Kind → Bool
  | .advance, _ => true
  | .eat (some kind), next | .expect (some kind), next => next.any kind.agrees
  | .eat none, next | .expect none, next => next.isNone
  | .eatName text, next => next = some (.name text)
  | .expectName, some (.name _) => true
  | _, _ => false

end CursorRequest

namespace Cursor

/-- The cursor after some requests, one after the other. -/
def afterRequests (c : Cursor) (requests : List CursorRequest) : Cursor :=
  requests.foldl (fun d request => (request.run d).rest) c

variable {c d : Cursor} {request : CursorRequest}

/-! ## Positions -/

/-- The tokens of a file by their kinds and spans, and behind them the end, which has no kind. -/
def entries (c : Cursor) : List (Option Kind × Span) :=
  (c.behind.reverse ++ c.ahead).map (fun token => (some token.kind, token.span)) ++
    [(none, c.stop)]

/-- At the position of a cursor stands what the cursor shows. -/
theorem getElem?_entries (c : Cursor) : c.entries[c.position]? = some (c.kind?, c.span) := by
  obtain ⟨behind, ahead, stop⟩ := c
  cases ahead <;> simp [entries, position, kind?, span]

/-- A cursor that moves forward stays among the same tokens. -/
theorem Reaches.entries_eq (reaches : c.Reaches d) : d.entries = c.entries := by
  obtain ⟨passed, ahead, behind, stop⟩ := reaches
  simp [entries, ahead, behind, stop]

theorem Reaches.position_le (reaches : c.Reaches d) : c.position ≤ d.position := by
  obtain ⟨passed, _, behind, _⟩ := reaches
  rw [position, position, behind, List.length_append]
  exact Nat.le_add_left _ _

/-- A cursor that is told to move stays among the same tokens. -/
theorem entries_moveTo (c : Cursor) (position : Nat) : (c.moveTo position).entries = c.entries := by
  simp [entries, moveTo]

/-- Every position is passed or ahead, or it is the end. -/
theorem length_entries (c : Cursor) : c.entries.length = c.position + c.remaining + 1 := by
  simp [entries, position, remaining, Nat.add_assoc]

theorem position_moveTo {position : Nat} (inside : position < c.entries.length) :
    (c.moveTo position).position = position := by
  rw [length_entries, Cursor.position, remaining] at inside
  have among : position ≤ (c.behind.reverse ++ c.ahead).length := by
    rw [List.length_append, List.length_reverse]
    omega
  rw [Cursor.position, moveTo, List.length_reverse, List.length_take, Nat.min_eq_left among]

theorem position_of_next? {past : c.Past} (isNext : c.next? = some past) :
    past.rest.position = c.position + 1 := by
  have ahead : c.remaining = past.rest.remaining + 1 := by
    rw [remaining, ahead_of_next? isNext]
    rfl
  have same := congrArg List.length past.reaches.entries_eq
  rw [length_entries, length_entries] at same
  omega

/-- The end is next if no token has a kind. -/
theorem next?_eq_none_iff : c.next? = none ↔ c.kind? = none := by
  obtain ⟨behind, ahead, stop⟩ := c
  cases ahead <;> simp [next?, kind?]

theorem kind?_of_next? {past : c.Past} (isNext : c.next? = some past) :
    c.kind? = some past.token.kind := by
  rw [kind?, ahead_of_next? isNext]
  rfl

theorem advance_of_next? {past : c.Past} (isNext : c.next? = some past) :
    c.advance = past.rest := by
  obtain ⟨behind, ahead, stop⟩ := c
  cases ahead with
  | nil => cases isNext
  | cons token rest =>
      cases isNext
      rfl

theorem atEnd_eq (c : Cursor) : c.atEnd = c.kind?.isNone := by
  obtain ⟨behind, ahead, stop⟩ := c
  cases ahead <;> rfl

/-- At the end there is nothing to advance over. -/
theorem advance_of_ended (isEnd : c.kind? = none) : c.advance = c := by
  have nothing : c.ahead = [] := List.isEmpty_iff.1 ((atEnd_eq c).trans (by rw [isEnd]; rfl))
  rw [advance, nothing]

/-- Before the end a cursor advances by one token. -/
theorem position_advance (some : c.kind? ≠ none) : c.advance.position = c.position + 1 := by
  cases isNext : c.next? with
  | none => exact absurd (next?_eq_none_iff.1 isNext) some
  | some past => rw [advance_of_next? isNext, position_of_next? isNext]

/-! ## Requests for a single token -/

theorem response_optional (c : Cursor) (test : Kind → Bool) :
    (c.optional test).response id = if c.kind?.any test then ⟨true, c.advance⟩ else ⟨false, c⟩ := by
  unfold optional nextIf?
  cases isNext : c.next? with
  | none =>
      rw [next?_eq_none_iff.1 isNext]
      rfl
  | some past =>
      rw [kind?_of_next? isNext, advance_of_next? isNext, Option.any_some]
      cases holds : test past.token.kind <;> simp only [holds] <;> rfl

theorem response_expect (c : Cursor) (kind : Kind) :
    ((c.expect kind).response fun _ => true) =
      if c.kind?.any kind.agrees then ⟨true, c.advance⟩ else ⟨false, c⟩ := by
  unfold expect
  cases isNext : c.next? with
  | none =>
      rw [next?_eq_none_iff.1 isNext]
      rfl
  | some past =>
      rw [kind?_of_next? isNext, advance_of_next? isNext, Option.any_some, Kind.agrees_comm]
      cases holds : past.token.kind.agrees kind <;> simp only [holds] <;> rfl

theorem response_expectName (c : Cursor) :
    (c.expectName.response fun _ => true) =
      if CursorRequest.expectName.fits c.kind? then ⟨true, c.advance⟩ else ⟨false, c⟩ := by
  unfold expectName
  cases isNext : c.next? with
  | none =>
      rw [next?_eq_none_iff.1 isNext]
      rfl
  | some past =>
      rw [kind?_of_next? isNext, advance_of_next? isNext]
      cases isName : past.token.kind <;> simp only [isName] <;> rfl

/-- The end is passed without a move. -/
theorem response_end (c : Cursor) :
    (⟨c.atEnd, c⟩ : CursorResponse) =
      if c.kind?.isNone then ⟨true, c.advance⟩ else ⟨false, c⟩ := by
  rw [atEnd_eq]
  cases isNext : c.kind? with
  | none => rw [advance_of_ended isNext]; rfl
  | some kind => rfl

theorem response_expectEnd (c : Cursor) :
    (c.expectEnd.response fun _ => true) = ⟨c.atEnd, c⟩ := by
  unfold expectEnd
  cases c.atEnd <;> rfl

/-- **A request for a single token advances if the next token is what it asks for, and otherwise
leaves the cursor as it is.** -/
theorem run_of_isSingle (single : request.isSingle = true) (c : Cursor) :
    request.run c = if request.fits c.kind? then ⟨true, c.advance⟩ else ⟨false, c⟩ := by
  cases request with
  | advance => rfl
  | eat kind =>
      cases kind with
      | some kind => exact response_optional c _
      | none => exact response_end c
  | eatName text =>
      refine (response_optional c _).trans ?_
      cases c.kind? <;> simp [CursorRequest.fits]
  | expect kind =>
      cases kind with
      | some kind => exact response_expect c kind
      | none => exact (response_expectEnd c).trans (response_end c)
  | expectName => exact response_expectName c
  | skipGroup => cases single
  | skipAngles => cases single
  | moveTo position => cases single

/-- A request for a single token succeeds if the next token is what it asks for. -/
theorem succeeded_run (single : request.isSingle = true) (c : Cursor) :
    (request.run c).succeeded = request.fits c.kind? := by
  rw [run_of_isSingle single]
  cases request.fits c.kind? <;> rfl

/-- A request for a single token advances or leaves the cursor as it is. -/
theorem rest_run (single : request.isSingle = true) (c : Cursor) :
    (request.run c).rest = if (request.run c).succeeded then c.advance else c := by
  rw [succeeded_run single, run_of_isSingle single]
  cases request.fits c.kind? <;> rfl

/-! ## Requests that go forward -/

/-- A cursor moves forward unless it is told to return. -/
theorem reaches_run (forward : request.isReturn = false) : c.Reaches (request.run c).rest := by
  cases single : request.isSingle with
  | true =>
      rw [rest_run single]
      split
      · exact reaches_advance c
      · exact .refl c
  | false =>
      cases request with
      | skipGroup => exact c.skipGroup.reaches
      | skipAngles => exact c.skipAngles.reaches
      | moveTo position => cases forward
      | _ => cases single

/-- At the end a cursor stays unless it is told to return. -/
theorem rest_run_of_ended (isEnd : c.kind? = none) (forward : request.isReturn = false) :
    (request.run c).rest = c := by
  cases single : request.isSingle with
  | true => rw [rest_run single, advance_of_ended isEnd, ite_self]
  | false =>
      have none := next?_eq_none_iff.2 isEnd
      cases request with
      | skipGroup =>
          show c.skipGroup.rest = c
          rw [skipGroup, none]
          rfl
      | skipAngles =>
          have fails : c.expectMark .lt = .fail (c.expected (.token (some (.mark .lt)))) := by
            rw [expectMark, expect, none]
          show c.skipAngles.rest = c
          rw [skipAngles, fails, Outcome.rest_andThen_of_failed rfl]
          rfl
      | moveTo position => cases forward
      | _ => cases single

/-- Without returns a cursor moves forward only. -/
theorem reaches_afterRequests {requests : List CursorRequest}
    (forward : ∀ request ∈ requests, request.isReturn = false) :
    c.Reaches (c.afterRequests requests) := by
  induction requests generalizing c with
  | nil => exact .refl c
  | cons request others ih =>
      rw [List.forall_mem_cons] at forward
      exact (reaches_run forward.1).trans (ih forward.2)

/-- Without returns a cursor stays at the end. -/
theorem afterRequests_of_ended (isEnd : c.kind? = none) {requests : List CursorRequest}
    (forward : ∀ request ∈ requests, request.isReturn = false) : c.afterRequests requests = c := by
  induction requests with
  | nil => rfl
  | cons request others ih =>
      rw [List.forall_mem_cons] at forward
      rw [afterRequests, List.foldl_cons, rest_run_of_ended isEnd forward.1]
      exact ih forward.2

/-! ## What a cursor has visited -/

/-- The cursors between the requests, the last one first. A cursor may be told to return to a
position that it has had. -/
inductive Visits (tokens : List Token) (stop : Span) : List Cursor → Prop where
  | none : Visits tokens stop [start tokens stop]
  | next {c : Cursor} {earlier : List Cursor} (visits : Visits tokens stop (c :: earlier))
      (request : CursorRequest)
      (known : ∀ position, request = .moveTo position →
        position ∈ (c :: earlier).map Cursor.position) :
      Visits tokens stop ((request.run c).rest :: c :: earlier)

/-- A request leaves a cursor among the same tokens. -/
theorem entries_run (request : CursorRequest) (c : Cursor) :
    (request.run c).rest.entries = c.entries := by
  cases returns : request.isReturn with
  | false => exact (reaches_run returns).entries_eq
  | true =>
      cases request with
      | moveTo position => exact entries_moveTo c position
      | _ => cases returns

/-- **However a cursor moves, it stays among the same tokens.** -/
theorem Visits.entries_eq {tokens : List Token} {stop : Span} {visited : List Cursor}
    (visits : Visits tokens stop visited) (isVisited : d ∈ visited) :
    d.entries = (start tokens stop).entries := by
  induction visits generalizing d with
  | none => rw [List.mem_singleton.1 isVisited]
  | @next c earlier _ request _ ih =>
      rcases List.mem_cons.1 isVisited with rfl | before
      · rw [entries_run]
        exact ih List.mem_cons_self
      · exact ih before

/-- What can be relied on wherever a cursor has got to. -/
structure Steady (entries : List (Option Kind × Span)) (c : Cursor) (earlier : List Cursor) :
    Prop where
  /-- The position belongs to a token or to the end, and this is what the cursor shows. -/
  valid : entries[c.position]? = some (c.kind?, c.span)
  /-- Only a return goes back. -/
  forward : ∀ requests : List CursorRequest, (∀ request ∈ requests, request.isReturn = false) →
    c.position ≤ (c.afterRequests requests).position
  /-- A request for a single token succeeds exactly if the next token is what it asks for. -/
  fitting : ∀ request : CursorRequest, request.isSingle = true →
    (request.run c).succeeded = request.fits c.kind?
  /-- A request for a single token that fails leaves the cursor as it is. -/
  failing : ∀ request : CursorRequest, request.isSingle = true →
    (request.run c).succeeded = false → (request.run c).rest = c
  /-- A request for a single token that succeeds before the end passes this token. -/
  passing : ∀ request : CursorRequest, request.isSingle = true →
    (request.run c).succeeded = true → c.kind? ≠ none →
      (request.run c).rest.position = c.position + 1
  /-- Only a return leaves the end. -/
  ending : c.kind? = none → ∀ requests : List CursorRequest,
    (∀ request ∈ requests, request.isReturn = false) → c.afterRequests requests = c
  /-- A return goes to the position that it names. -/
  returning : ∀ visited ∈ c :: earlier,
    ((CursorRequest.moveTo visited.position).run c).rest.position = visited.position

/-- **A cursor is steady**, whatever it was asked. -/
theorem Visits.steady {tokens : List Token} {stop : Span} {earlier : List Cursor}
    (visits : Visits tokens stop (c :: earlier)) :
    Steady (start tokens stop).entries c earlier where
  valid := by
    rw [← visits.entries_eq List.mem_cons_self]
    exact c.getElem?_entries
  forward requests forward := (reaches_afterRequests forward).position_le
  fitting request single := succeeded_run single c
  failing request single failed := by
    rw [rest_run single, failed]
    rfl
  passing request single succeeded some := by
    rw [rest_run single, succeeded]
    exact position_advance some
  ending isEnd requests forward := afterRequests_of_ended isEnd forward
  returning visited isVisited := by
    have same : visited.entries = c.entries := by
      rw [visits.entries_eq isVisited, visits.entries_eq List.mem_cons_self]
    apply position_moveTo
    rw [← same, length_entries]
    omega

/-- A request that is no return can always be made. -/
theorem Visits.forward {tokens : List Token} {stop : Span} {earlier : List Cursor}
    (visits : Visits tokens stop (c :: earlier)) (forward : request.isReturn = false) :
    Visits tokens stop ((request.run c).rest :: c :: earlier) := by
  apply visits.next
  rintro position rfl
  cases forward

/-- The tokens of `f(g]`, where a square bracket closes a parenthesis. -/
def brokenGroup : List Token :=
  [⟨.name "f", ⟨0, 1⟩⟩, ⟨.mark .lparen, ⟨1, 2⟩⟩, ⟨.name "g", ⟨2, 3⟩⟩, ⟨.mark .rbracket, ⟨3, 4⟩⟩]

/-- A cursor that returns from the middle of a broken group to the start of the group. -/
theorem Visits.steady_brokenGroup :
    ∃ c earlier, Visits brokenGroup ⟨4, 4⟩ (c :: earlier) ∧
      (c :: earlier).map Cursor.position = [1, 3, 1, 0] ∧
      Steady (start brokenGroup ⟨4, 4⟩).entries c earlier := by
  have first : Visits brokenGroup ⟨4, 4⟩ [start brokenGroup ⟨4, 4⟩] := .none
  have named := first.forward (rfl : CursorRequest.expectName.isReturn = false)
  have stuck := named.forward (rfl : CursorRequest.skipGroup.isReturn = false)
  have returned := stuck.next (.moveTo 1) fun position same => by
    cases same
    decide +kernel
  exact ⟨_, _, returned, by decide +kernel, returned.steady⟩

end Cursor

end InjectionCheck
