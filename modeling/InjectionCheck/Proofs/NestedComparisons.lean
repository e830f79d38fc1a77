import InjectionCheck.Proofs.SharedAssumptions
import Mathlib.Order.RelClasses

/-!
# Comparisons inside comparisons

A comparison of two types makes other comparisons, and these make others again. Types refer
to each other in a circle, parameters are compared the other way round, and the set of assumed
pairs shrinks when the members of two types have been compared; so no number that belongs to
the two types alone gets smaller from call to call.

What gets smaller takes the assumed pairs into account (`Narrows`): a call inside another one
assumes a pair more, of which a pool has finitely many, or it assumes the same pairs and the
numbers of its two types have a smaller sum. To say this of the calls that are made, a run
notes the chain of calls that leads to each of them (`noting`). Every chain that is noted
narrows from call to call (`narrows_of_noting`), no chain narrows forever
(`wellFounded_narrows`), and the run ends with the answer of the comparison.
-/

set_option autoImplicit false

namespace InjectionCheck

/-! ## What a run of a formula does to a state -/

namespace Formula

variable {γ σ τ : Type}

/-- A run may forget a part of the state if the answers to the questions may. -/
theorem run_forget (formula : Formula γ) (forget : σ → τ)
    {pose : γ → StateT σ Option Bool} {pose' : γ → StateT τ Option Bool}
    (same : ∀ question ∈ formula.questions, ∀ state,
      (pose question state).map (Prod.map id forget) = pose' question (forget state)) (state : σ) :
    (formula.run pose state).map (Prod.map id forget) = formula.run pose' (forget state) := by
  induction formula generalizing state with
  | answer holds => rfl
  | ask question => exact same question List.mem_cons_self state
  | both first second ihFirst ihSecond =>
      have left := ihFirst
        (fun question asked => same question (List.mem_append_left _ asked)) state
      have right := ihSecond fun question asked => same question (List.mem_append_right _ asked)
      simp only [run, bind, StateT.bind, ← left]
      cases first.run pose state with
      | none => rfl
      | some found =>
          obtain ⟨holds, later⟩ := found
          cases holds with
          | false => rfl
          | true => exact right later
  | either first second ihFirst ihSecond =>
      have left := ihFirst
        (fun question asked => same question (List.mem_append_left _ asked)) state
      have right := ihSecond fun question asked => same question (List.mem_append_right _ asked)
      simp only [run, bind, StateT.bind, ← left]
      cases first.run pose state with
      | none => rfl
      | some found =>
          obtain ⟨holds, later⟩ := found
          cases holds with
          | false => exact right later
          | true => rfl

/-- What the answer to every question leaves true, a run leaves true. -/
theorem run_invariant {formula : Formula γ} {pose : γ → StateT σ Option Bool} {invariant : σ → Prop}
    (each : ∀ question ∈ formula.questions, ∀ state holds later, invariant state →
      pose question state = some (holds, later) → invariant later)
    {state later : σ} {holds : Bool} (before : invariant state)
    (runs : formula.run pose state = some (holds, later)) : invariant later := by
  induction formula generalizing state later holds with
  | answer known =>
      cases runs
      exact before
  | ask question => exact each question List.mem_cons_self state holds later before runs
  | both first second ihFirst ihSecond =>
      simp only [run, bind, StateT.bind, Option.bind_eq_some_iff] at runs
      obtain ⟨⟨left, middle⟩, atFirst, rest⟩ := runs
      have between := ihFirst
        (fun question asked => each question (List.mem_append_left _ asked)) before atFirst
      cases left with
      | false =>
          cases rest
          exact between
      | true =>
          exact ihSecond (fun question asked => each question (List.mem_append_right _ asked))
            between rest
  | either first second ihFirst ihSecond =>
      simp only [run, bind, StateT.bind, Option.bind_eq_some_iff] at runs
      obtain ⟨⟨left, middle⟩, atFirst, rest⟩ := runs
      have between := ihFirst
        (fun question asked => each question (List.mem_append_left _ asked)) before atFirst
      cases left with
      | false =>
          exact ihSecond (fun question asked => each question (List.mem_append_right _ asked))
            between rest
      | true =>
          cases rest
          exact between

end Formula

/-! ## Calls -/

/-- A call of the comparison: the pairs that are assumed when it is made, and the two types. -/
structure ComparisonCall where
  assumed : Finset (TypeIndex × TypeIndex)
  source : TypeIndex
  target : TypeIndex

/-- What a run that notes its calls carries along. -/
structure Notes where
  assumed : Finset (TypeIndex × TypeIndex)
  /-- For every call that was made, the chain of calls that led to it, the innermost first. -/
  chains : List (List ComparisonCall)

/-- A computation that shares a set of assumed pairs and notes the calls that are made. -/
abbrev Noting (α : Type) : Type := StateT Notes Option α

namespace Pool

theorem length_pairs (pool : Pool) : pool.pairs.length = pool.size * pool.size := by
  simp [pairs, all, List.length_flatMap, Function.comp_def]

end Pool

namespace ShapeTable

variable (table : ShapeTable)

/-- A call is narrower than the one in which it is made: it assumes one of the pairs of the
pool more, or it assumes the same pairs and compares smaller types. -/
inductive Narrows (outer inner : ComparisonCall) : Prop where
  | assume (pair : TypeIndex × TypeIndex) (known : pair ∈ table.pool.pairs)
    (fresh : pair ∉ outer.assumed) (grown : inner.assumed = insert pair outer.assumed)
  | part (same : inner.assumed = outer.assumed)
    (smaller : inner.source.number + inner.target.number <
      outer.source.number + outer.target.number)

/-- **No chain of calls narrows forever.** -/
theorem wellFounded_narrows :
    WellFounded fun inner outer => table.Narrows outer inner := by
  refine Subrelation.wf (fun {inner outer} narrows => ?_)
    (InvImage.wf (fun call : ComparisonCall =>
      (unvisited table.pool.pairs call.assumed, call.source.number + call.target.number))
      (Prod.lex Nat.lt_wfRel Nat.lt_wfRel).wf)
  cases narrows with
  | assume pair known fresh grown =>
      refine Prod.Lex.left _ _ (unvisited_lt_of_mem known fresh (fun other inside => ?_) ?_)
      · exact grown ▸ Finset.mem_insert_of_mem inside
      · exact grown ▸ Finset.mem_insert_self pair outer.assumed
  | part same smaller =>
      dsimp only [InvImage]
      rw [same]
      exact Prod.Lex.right _ smaller

/-! ## The run that notes its calls -/

/-- Compares the members of two types, which are assumed to fit in the meantime. -/
def notingMembers (compare : TypeIndex → TypeIndex → Noting Bool) (source target : TypeIndex) :
    Noting Bool := do
  if (table.members? target).isNone then return false
  else if (source, target) ∈ (← get).assumed then return true
  else
    modify fun notes => { notes with assumed := insert (source, target) notes.assumed }
    let fit ← (table.membersRule source target).run fun pair => compare pair.1 pair.2
    modify fun notes => { notes with assumed := notes.assumed.erase (source, target) }
    return fit

/-- Compares two types inside some calls, in calls that are nested no deeper than some depth,
and notes every call before it is answered. -/
def noting (depth : Nat) (outer : List ComparisonCall) (source target : TypeIndex) :
    Noting Bool :=
  match depth with
  | 0 => fun _ => none
  | depth + 1 => do
    let chain := ⟨(← get).assumed, source, target⟩ :: outer
    modify fun notes => { notes with chains := chain :: notes.chains }
    (table.rule source target).run fun
      | .types part part' => noting depth chain part part'
      | .members part part' => table.notingMembers (noting depth chain) part part'

/-! ## The run and the run without notes -/

section Members

variable {table} {compare : TypeIndex → TypeIndex → Noting Bool} {source target : TypeIndex}
  {wanted : List Member} {notes : Notes}

theorem notingMembers_missing (absent : table.members? target = none) :
    table.notingMembers compare source target notes = some (false, notes) := by
  rw [notingMembers, absent]
  rfl

theorem notingMembers_again (found : table.members? target = some wanted)
    (inside : (source, target) ∈ notes.assumed) :
    table.notingMembers compare source target notes = some (true, notes) := by
  rw [notingMembers, found]
  change (if (source, target) ∈ notes.assumed then pure true else _ : Noting Bool) notes = _
  rw [if_pos inside]
  rfl

theorem notingMembers_enter (found : table.members? target = some wanted)
    (fresh : (source, target) ∉ notes.assumed) :
    table.notingMembers compare source target notes =
      ((table.membersRule source target).run (fun pair => compare pair.1 pair.2)
        { notes with assumed := insert (source, target) notes.assumed }).map
          (Prod.map id fun notes =>
            { notes with assumed := notes.assumed.erase (source, target) }) := by
  rw [notingMembers, found, Option.map_eq_bind]
  change (if (source, target) ∈ notes.assumed then pure true else _ : Noting Bool) notes = _
  rw [if_neg fresh]
  rfl

/-- The members are compared in the run that notes calls as in the run that does not. -/
theorem forget_notingMembers {compare' : TypeIndex → TypeIndex → Sharing Bool}
    (same : ∀ part part' notes, (compare part part' notes).map (Prod.map id Notes.assumed) =
      compare' part part' notes.assumed) :
    (table.notingMembers compare source target notes).map (Prod.map id Notes.assumed) =
      table.compareMembers compare' source target notes.assumed := by
  cases found : table.members? target with
  | none =>
      rw [table.compareMembers_missing found, notingMembers_missing found]
      rfl
  | some wanted =>
      by_cases inside : (source, target) ∈ notes.assumed
      · rw [table.compareMembers_again found inside, notingMembers_again found inside]
        rfl
      · have compared := Formula.run_forget (table.membersRule source target) Notes.assumed
          (fun pair _ => same pair.1 pair.2)
          { notes with assumed := insert (source, target) notes.assumed }
        rw [table.compareMembers_enter found inside, notingMembers_enter found inside, ← compared,
          Option.map_map, Option.map_map]
        rfl

end Members

/-- **A run that notes its calls answers as the run that does not.** -/
theorem forget_noting (depth : Nat) (outer : List ComparisonCall) (source target : TypeIndex)
    (notes : Notes) :
    (table.noting depth outer source target notes).map (Prod.map id Notes.assumed) =
      table.compare depth source target notes.assumed := by
  induction depth generalizing outer source target notes with
  | zero => rfl
  | succ depth ih =>
      let chain := ⟨notes.assumed, source, target⟩ :: outer
      refine Formula.run_forget _ Notes.assumed (fun question _ state => ?_)
        { notes with chains := chain :: notes.chains }
      cases question with
      | types part part' => exact ih chain part part' state
      | members part part' => exact forget_notingMembers fun _ _ _ => ih chain _ _ _

/-! ## The calls that are noted -/

/-- A chain of calls, the innermost first, of which each is narrower than the one around it. -/
def Narrowing (chain : List ComparisonCall) : Prop :=
  chain.IsChain fun inner outer => table.Narrows outer inner

/-- The notes of a run in which some pairs are assumed: the chains narrow. -/
structure NarrowNotes (assumed : Finset (TypeIndex × TypeIndex)) (notes : Notes) : Prop where
  assumed_eq : notes.assumed = assumed
  chains : ∀ chain ∈ notes.chains, table.Narrowing chain

variable {table}

/-- Comparing members leaves notes narrow if comparing their types does. -/
theorem narrow_notingMembers {compare : TypeIndex → TypeIndex → Noting Bool}
    {source target : TypeIndex} {assumed : Finset (TypeIndex × TypeIndex)} {notes later : Notes}
    {fit : Bool}
    (each : (source, target) ∉ assumed → ∀ pair ∈ (table.membersRule source target).questions,
      ∀ notes fit later, NarrowNotes table (insert (source, target) assumed) notes →
        compare pair.1 pair.2 notes = some (fit, later) →
          NarrowNotes table (insert (source, target) assumed) later)
    (before : NarrowNotes table assumed notes)
    (runs : table.notingMembers compare source target notes = some (fit, later)) :
    NarrowNotes table assumed later := by
  obtain ⟨rfl, chains⟩ := before
  cases found : table.members? target with
  | none =>
      rw [notingMembers_missing found] at runs
      cases runs
      exact ⟨rfl, chains⟩
  | some wanted =>
      by_cases inside : (source, target) ∈ notes.assumed
      · rw [notingMembers_again found inside] at runs
        cases runs
        exact ⟨rfl, chains⟩
      · rw [notingMembers_enter found inside, Option.map_eq_some_iff] at runs
        obtain ⟨⟨fit', middle⟩, compared, same⟩ := runs
        obtain ⟨rfl, rfl⟩ := Prod.mk.inj same
        have entered : NarrowNotes table (insert (source, target) notes.assumed)
            { notes with assumed := insert (source, target) notes.assumed } := ⟨rfl, chains⟩
        have between := Formula.run_invariant (each inside) entered compared
        refine ⟨?_, between.chains⟩
        dsimp only
        rw [between.assumed_eq, Finset.erase_insert inside]

/-- **Every chain of calls that a run notes narrows from call to call.** -/
theorem narrow_noting {depth : Nat} {outer : List ComparisonCall} {source target : TypeIndex}
    {assumed : Finset (TypeIndex × TypeIndex)} {notes later : Notes} {fit : Bool}
    (inside : table.Narrowing (⟨assumed, source, target⟩ :: outer))
    (before : NarrowNotes table assumed notes)
    (runs : table.noting depth outer source target notes = some (fit, later)) :
    NarrowNotes table assumed later := by
  induction depth generalizing outer source target assumed notes later fit with
  | zero => cases runs
  | succ depth ih =>
      obtain ⟨rfl, chains⟩ := before
      have noted : NarrowNotes table notes.assumed
          { notes with chains := (⟨notes.assumed, source, target⟩ :: outer) :: notes.chains } :=
        ⟨rfl, List.forall_mem_cons.2 ⟨inside, chains⟩⟩
      refine Formula.run_invariant (fun question asked state fit later before answered => ?_)
        noted runs
      cases question with
      | types part part' =>
          have smaller : part.number + part'.number < source.number + target.number :=
            table.isBelow_of_mem_rule asked
          have narrower : table.Narrows ⟨notes.assumed, source, target⟩
              ⟨notes.assumed, part, part'⟩ := .part rfl smaller
          exact ih (.cons_cons narrower inside) before answered
      | members part part' =>
          obtain ⟨rfl, rfl, inUse⟩ := table.isBelow_of_mem_rule asked
          refine narrow_notingMembers (fun fresh pair isPair _ _ _ before answered => ?_)
            before answered
          have known := Pool.mem_pairs (Pool.lt_size inUse)
            (table.lt_size_of_mem_membersRule isPair)
          exact ih (.cons_cons (.assume _ known fresh rfl) inside) before answered

/-! ## The members of intersections -/

theorem mapM_eq_some_map {α β : Type} {compute : α → Option β} {value : α → β} {elements : List α}
    (each : ∀ element ∈ elements, compute element = some (value element)) :
    elements.mapM compute = some (elements.map value) := by
  induction elements with
  | nil => rfl
  | cons element others ih =>
      obtain ⟨first, rest⟩ := List.forall_mem_cons.1 each
      rw [List.mapM_cons, first, ih rest]
      rfl

variable (table)

/-- The members of a type, where intersections are nested no deeper than some depth. -/
def membersWithin (depth : Nat) (type : TypeIndex) : Option (Option (List Member)) :=
  match depth with
  | 0 => none
  | depth + 1 =>
    match table.pool.entry type with
    | .named number _ => some (some (((table.shape? number).map Shape.members).getD []))
    | .object members => some (some members)
    | .intersection parts =>
      (parts.mapM (membersWithin depth)).map fun found =>
        some ((found.flatMap (·.getD [])).foldl addMember [])
    | _ => some none

/-- The parts of an intersection have smaller numbers, so a type has no more intersections
inside each other than its number says. -/
theorem membersWithin_eq {depth : Nat} {type : TypeIndex} (deep : type.number < depth) :
    table.membersWithin depth type = some (table.members? type) := by
  induction depth generalizing type with
  | zero => cases deep
  | succ depth ih =>
      rw [members?]
      split
      · next found => rw [membersWithin, found]
      · next found => rw [membersWithin, found]
      · next parts found =>
          have each : parts.mapM (table.membersWithin depth) = some (parts.map table.members?) := by
            refine mapM_eq_some_map fun part inside => ih ?_
            exact Nat.lt_of_lt_of_le (Pool.part_lt found inside) (Nat.le_of_lt_succ deep)
          have merged : (parts.attach.flatMap fun part => (table.members? part.1).getD []) =
              (parts.map table.members?).flatMap (·.getD []) := by
            conv_rhs => rw [← List.attach_map_subtype_val parts]
            simp only [List.flatMap_map]
          rw [membersWithin, found]
          simp only [each, Option.map_some]
          exact congrArg (fun members => some (some (members.foldl addMember []))) merged.symm
      · next notNamed notObject notIntersection =>
          rw [membersWithin]
          split
          · next found => exact absurd found (notNamed _ _)
          · next found => exact absurd found (notObject _)
          · next found => exact absurd found (notIntersection _)
          · rfl

/-! ## The comparison ends -/

/-- **The comparison of two types ends.** A run that notes its calls has the answer of the
comparison at any depth that is deep enough, and every chain of calls that it notes narrows
from call to call: the assumed pairs grow by one of the pairs of the pool, of which there are
as many as the square of its size, or they stay the same and the sum of the two numbers gets
smaller. No chain narrows forever, and the members of a type are found by going into
intersections no deeper than its number says. -/
theorem comparison_ends (table : ShapeTable) :
    (∀ source target, ∃ depth, ∀ deeper ≥ depth, ∃ chains,
      (table.noting deeper [] source target).run ⟨∅, []⟩ =
        some (table.isAssignable source target, ⟨∅, chains⟩) ∧
      ∀ chain ∈ chains, chain.IsChain fun inner outer => table.Narrows outer inner) ∧
    (WellFounded fun inner outer => table.Narrows outer inner) ∧
    table.pool.pairs.length = table.pool.size * table.pool.size ∧
    ∀ type depth, type.number < depth →
      table.membersWithin depth type = some (table.members? type) := by
  refine ⟨fun source target => ?_, table.wellFounded_narrows, table.pool.length_pairs,
    fun type depth deep => table.membersWithin_eq deep⟩
  obtain ⟨depth, answers⟩ := table.exists_depth_compare [] source target
  refine ⟨depth, fun deeper deep => ?_⟩
  have forgotten := table.forget_noting deeper [] source target ⟨∅, []⟩
  rw [show table.compare deeper source target ∅ = _ from answers deeper deep,
    Option.map_eq_some_iff] at forgotten
  obtain ⟨⟨fit, later⟩, runs, same⟩ := forgotten
  obtain ⟨rfl, none⟩ := Prod.mk.inj same
  have narrow : NarrowNotes table ∅ later :=
    narrow_noting (.singleton _) ⟨rfl, List.forall_mem_nil _⟩ runs
  obtain ⟨assumed, chains⟩ := later
  obtain rfl : assumed = ∅ := none
  exact ⟨chains, runs, narrow.chains⟩

end ShapeTable

end InjectionCheck
