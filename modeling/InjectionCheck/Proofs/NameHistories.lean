import InjectionCheck.Text.NameTable

/-!
# Names that are given out

A name table may be asked to intern a text, to look one up, to resolve a number and how many
texts it has met, any number of times and in any order. Each call is listed with its answer
(`NameHistory`).

All that a table knows comes from the calls: a text has a number exactly if it was given that
number when it was interned, and the empty text has number zero from the start. One call keeps
this (`Tells.call`), and so does every history. Since a table tells the same by text and by
number, numbers can be compared in place of texts (`NameHistory.faithful`).
-/

set_option autoImplicit false

namespace InjectionCheck

/-! ## Histories -/

/-- What a name table may be asked. -/
inductive NameCall where
  | intern (text : String)
  | get (text : String)
  | resolve (number : Nat)
  | size
deriving DecidableEq, Repr

/-- What a name table answers. -/
inductive NameAnswer where
  | number (number : Nat)
  | found (number : Option Nat)
  | text (text : Option String)
  | size (count : Nat)
deriving DecidableEq, Repr

/-- The answer to a call, and the table that the call leaves. -/
def NameCall.run (table : NameTable) : NameCall → NameAnswer × NameTable
  | .intern text => (.number (table.intern text).1, (table.intern text).2)
  | .get text => (.found (table.get? text), table)
  | .resolve number => (.text (table.resolve? number), table)
  | .size => (.size table.size, table)

/-- The calls so far with their answers, and the table that they left. -/
structure NameHistory where
  answered : List (NameCall × NameAnswer)
  table : NameTable

namespace NameHistory

/-- Nothing has been asked. -/
def start : NameHistory := ⟨[], .empty⟩

/-- One more call. -/
def call (history : NameHistory) (call : NameCall) : NameHistory :=
  ⟨history.answered ++ [(call, (call.run history.table).1)], (call.run history.table).2⟩

/-- Some more calls, one after the other. -/
def after (history : NameHistory) (later : List NameCall) : NameHistory :=
  later.foldl NameHistory.call history

/-- A text was interned and given a number. -/
def Interned (history : NameHistory) (text : String) (number : Nat) : Prop :=
  (NameCall.intern text, NameAnswer.number number) ∈ history.answered

variable {history : NameHistory} {text other : String} {number number' : Nat}

/-- A call gives out a number if it interns a text. -/
theorem interned_call_iff (call : NameCall) :
    (history.call call).Interned text number ↔ history.Interned text number ∨
      call = .intern text ∧ (history.table.intern text).1 = number := by
  unfold Interned NameHistory.call
  rw [List.mem_append, List.mem_singleton, Prod.mk.injEq]
  constructor
  · rintro (earlier | ⟨rfl, same⟩)
    · exact .inl earlier
    · exact .inr ⟨rfl, (NameAnswer.number.inj same).symm⟩
  · rintro (earlier | ⟨rfl, rfl⟩)
    · exact .inl earlier
    · exact .inr ⟨rfl, rfl⟩

/-- A call that does not intern a text leaves the table as it is. -/
theorem table_call {call : NameCall} (noIntern : ∀ text, call ≠ .intern text) :
    (history.call call).table = history.table := by
  cases call with
  | intern text => exact absurd rfl (noIntern text)
  | get text => rfl
  | resolve number => rfl
  | size => rfl

/-- What was given out stays given out. -/
theorem Interned.after (interned : history.Interned text number) (later : List NameCall) :
    (history.after later).Interned text number := by
  induction later generalizing history with
  | nil => exact interned
  | cons call rest ih => exact ih ((interned_call_iff call).2 (.inl interned))

/-! ## What a table tells -/

/-- A text has the number that it was given; the empty text has number zero in any case. -/
def Tells (history : NameHistory) : Prop :=
  ∀ text number, history.table.get? text = some number ↔
    text = "" ∧ number = 0 ∨ history.Interned text number

theorem tells_start : Tells start := by
  intro text number
  constructor
  · intro found
    have stands : #[""][number]? = some text := (NameTable.empty.get?_eq_some_iff _ _).1 found
    obtain ⟨inside, rfl⟩ := Array.getElem?_eq_some_iff.1 stands
    obtain rfl : number = 0 := Nat.lt_one_iff.1 inside
    exact .inl ⟨rfl, rfl⟩
  · rintro (⟨rfl, rfl⟩ | interned)
    · exact NameTable.empty.get?_empty
    · exact absurd interned List.not_mem_nil

/-- A table that interns a text tells what it gave out. -/
theorem Tells.intern (tells : history.Tells) (interned : String) :
    (history.call (.intern interned)).Tells := by
  intro text number
  rw [interned_call_iff]
  have found : (history.call (.intern interned)).table.get? text =
      if text = interned then some (history.table.intern interned).1
      else history.table.get? text :=
    NameTable.get?_intern _ _ _
  rw [found]
  by_cases same : text = interned
  · subst same
    rw [if_pos rfl, Option.some.injEq]
    constructor
    · exact fun given => .inr (.inr ⟨rfl, given⟩)
    · -- a text that had a number is given the same one
      have known (had : history.table.get? text = some number) :
          (history.table.intern text).1 = number := by
        rw [NameTable.intern_of_get? had]
      rintro (isEmpty | earlier | ⟨_, given⟩)
      · exact known ((tells text number).2 (.inl isEmpty))
      · exact known ((tells text number).2 (.inr earlier))
      · exact given
  · have notThis : NameCall.intern interned ≠ .intern text := by
      intro isThis
      exact same (NameCall.intern.inj isThis).symm
    rw [if_neg same, tells]
    simp [notThis]

/-- **What a table tells stays right with one more call.** -/
theorem Tells.call (tells : history.Tells) (call : NameCall) : (history.call call).Tells := by
  by_cases interns : ∃ interned, call = .intern interned
  · obtain ⟨interned, rfl⟩ := interns
    exact tells.intern interned
  · have noIntern (interned : String) : call ≠ .intern interned := by
      intro isIntern
      exact interns ⟨interned, isIntern⟩
    intro text number
    rw [table_call noIntern, interned_call_iff, tells]
    simp [noIntern]

/-- **Whatever is asked, a table tells what it gave out.** -/
theorem Tells.after (tells : history.Tells) (later : List NameCall) :
    (history.after later).Tells := by
  induction later generalizing history with
  | nil => exact tells
  | cons call rest ih => exact ih (tells.call call)

theorem Tells.resolves (tells : history.Tells) (interned : history.Interned text number) :
    history.table.resolve? number = some text :=
  (history.table.get?_eq_some_iff text number).1 ((tells text number).2 (.inr interned))

/-- Texts that were interned can be compared by their numbers. -/
theorem Tells.same_iff (tells : history.Tells) (interned : history.Interned text number)
    (interned' : history.Interned other number') : number = number' ↔ text = other := by
  constructor
  · rintro rfl
    exact Option.some.inj ((tells.resolves interned).symm.trans (tells.resolves interned'))
  · rintro rfl
    have found := (tells text number).2 (.inr interned)
    have found' := (tells text number').2 (.inr interned')
    exact Option.some.inj (found.symm.trans found')

/-- A table has no numbers but those that it gave out, and zero. -/
theorem Tells.lt_size_iff (tells : history.Tells) (number : Nat) :
    number < history.table.size ↔ number = 0 ∨ ∃ text, history.Interned text number := by
  constructor
  · intro inside
    have stands : history.table.resolve? number = some history.table.texts[number] :=
      Array.getElem?_eq_getElem inside
    rw [← NameTable.get?_eq_some_iff, tells] at stands
    rcases stands with ⟨_, isZero⟩ | interned
    · exact .inl isZero
    · exact .inr ⟨_, interned⟩
  · have inside {text : String} (stands : history.table.resolve? number = some text) :
        number < history.table.size :=
      (Array.getElem?_eq_some_iff.1 stands).1
    rintro (rfl | ⟨text, interned⟩)
    · exact inside history.table.empty_first
    · exact inside (tells.resolves interned)

/-! ## Numbers in place of texts -/

/-- What can be relied on after some calls. -/
structure Faithful (history : NameHistory) : Prop where
  /-- Two texts that were interned have the same number exactly if they are equal. -/
  same_iff : ∀ text other number number', history.Interned text number →
    history.Interned other number' → (number = number' ↔ text = other)
  /-- The number of an interned text resolves to the text, then and after any further calls. -/
  resolves : ∀ text number, history.Interned text number →
    ∀ later, (history.after later).table.resolve? number = some text
  /-- A text has a number if it is empty or was interned, and it is the number it was given. -/
  found_iff : ∀ text number, history.table.get? text = some number ↔
    text = "" ∧ number = 0 ∨ history.Interned text number
  /-- A call that does not intern a text leaves the table as it is. -/
  kept : ∀ call, (∀ text, call ≠ .intern text) → (history.call call).table = history.table
  /-- The numbers below the number of texts are those that were given out, and zero. -/
  given_iff : ∀ number, number < history.table.size ↔
    number = 0 ∨ ∃ text, history.Interned text number
  /-- Number zero resolves to the empty text. -/
  first : history.table.resolve? 0 = some ""

/-- **Numbers can be compared in place of texts**, whatever a table was asked. -/
theorem faithful (calls : List NameCall) : (start.after calls).Faithful := by
  have tells := tells_start.after calls
  constructor
  · intro text other number number' interned interned'
    exact tells.same_iff interned interned'
  · intro text number interned later
    exact (tells.after later).resolves (interned.after later)
  · exact tells
  · intro call noIntern
    exact table_call noIntern
  · exact tells.lt_size_iff
  · exact (start.after calls).table.empty_first

-- A text that is looked up before it is interned has no number, and takes none from the others.
example : (start.after [.intern "Clock", .get "clock", .intern "clock", .intern "Clock", .resolve 2,
    .size]).answered.map Prod.snd =
      [.number 1, .found none, .number 2, .number 1, .text (some "clock"), .size 3] := by
  decide +kernel

end NameHistory

end InjectionCheck
