/-!
# Conditions made of questions

A formula says how an answer is put together from the answers to some questions, with
"and" and "or" only. What holds if some questions have the answer yes still holds if more
of them have it (`Holds.mono`). The questions can be answered one after the other by
something that has a state, and not all of them need be asked; where every answer leaves
the state as it was, the answer to the formula does too (`run_eq_some`).
-/

set_option autoImplicit false

namespace InjectionCheck

/-- A condition made of questions by "and" and "or". -/
inductive Formula (γ : Type) where
  /-- The answer is known. -/
  | answer (holds : Bool)
  | ask (question : γ)
  | both (first second : Formula γ)
  | either (first second : Formula γ)

namespace Formula

variable {γ : Type}

/-- Whether a formula holds if some questions have the answer yes. -/
def Holds (yes : γ → Prop) : Formula γ → Prop
  | answer holds => holds = true
  | ask question => yes question
  | both first second => first.Holds yes ∧ second.Holds yes
  | either first second => first.Holds yes ∨ second.Holds yes

/-- The answer to a formula, from the answers to its questions. -/
def eval (yes : γ → Bool) : Formula γ → Bool
  | answer holds => holds
  | ask question => yes question
  | both first second => first.eval yes && second.eval yes
  | either first second => first.eval yes || second.eval yes

/-- The questions of a formula, from left to right. -/
def questions : Formula γ → List γ
  | answer _ => []
  | ask question => [question]
  | both first second | either first second => first.questions ++ second.questions

/-- The answer to a formula from something that answers questions and has a state. The
second part is asked only if the first one leaves the answer open. -/
def run {σ : Type} (pose : γ → StateT σ Option Bool) : Formula γ → StateT σ Option Bool
  | answer holds => pure holds
  | ask question => pose question
  | both first second => do
    if ← first.run pose then second.run pose else pure false
  | either first second => do
    if ← first.run pose then pure true else second.run pose

/-- The condition that a formula holds for each of some elements. -/
def all {α : Type} (elements : List α) (part : α → Formula γ) : Formula γ :=
  match elements with
  | [] => answer true
  | element :: others => both (part element) (all others part)

/-- The condition that a formula holds for one of some elements. -/
def any {α : Type} (elements : List α) (part : α → Formula γ) : Formula γ :=
  match elements with
  | [] => answer false
  | element :: others => either (part element) (any others part)

/-! ## What holds -/

theorem eval_iff {yes : γ → Bool} {formula : Formula γ} :
    formula.eval yes = true ↔ formula.Holds fun question => yes question = true := by
  induction formula with
  | answer holds => exact Iff.rfl
  | ask question => exact Iff.rfl
  | both first second ihFirst ihSecond =>
      rw [eval, Holds, Bool.and_eq_true, ihFirst, ihSecond]
  | either first second ihFirst ihSecond =>
      rw [eval, Holds, Bool.or_eq_true, ihFirst, ihSecond]

/-- **More answers yes make nothing fail that held.** -/
theorem Holds.mono {yes yes' : γ → Prop} {formula : Formula γ} (holds : formula.Holds yes)
    (more : ∀ question ∈ formula.questions, yes question → yes' question) :
    formula.Holds yes' := by
  induction formula with
  | answer known => exact holds
  | ask question => exact more question List.mem_cons_self holds
  | both first second ihFirst ihSecond =>
      obtain ⟨left, right⟩ := holds
      exact ⟨ihFirst left fun question asked => more question (List.mem_append_left _ asked),
        ihSecond right fun question asked => more question (List.mem_append_right _ asked)⟩
  | either first second ihFirst ihSecond =>
      rcases holds with left | right
      · exact .inl (ihFirst left fun question asked =>
          more question (List.mem_append_left _ asked))
      · exact .inr (ihSecond right fun question asked =>
          more question (List.mem_append_right _ asked))

/-- **Where every answer leaves the state as it was, the answer to a formula does too.** -/
theorem run_eq_some {σ : Type} {pose : γ → StateT σ Option Bool} {yes : γ → Bool} {state : σ}
    {formula : Formula γ}
    (answers : ∀ question ∈ formula.questions, pose question state = some (yes question, state)) :
    formula.run pose state = some (formula.eval yes, state) := by
  induction formula with
  | answer holds => rfl
  | ask question => exact answers question List.mem_cons_self
  | both first second ihFirst ihSecond =>
      have left := ihFirst fun question asked => answers question (List.mem_append_left _ asked)
      have right := ihSecond fun question asked =>
        answers question (List.mem_append_right _ asked)
      simp only [run, eval, bind, StateT.bind, left, Option.bind_some]
      cases first.eval yes with
      | false => rfl
      | true => exact right
  | either first second ihFirst ihSecond =>
      have left := ihFirst fun question asked => answers question (List.mem_append_left _ asked)
      have right := ihSecond fun question asked =>
        answers question (List.mem_append_right _ asked)
      simp only [run, eval, bind, StateT.bind, left, Option.bind_some]
      cases first.eval yes with
      | false => exact right
      | true => rfl

/-! ## Formulas for each element of a list -/

section Elements

variable {α : Type} {part : α → Formula γ} {question : γ}

@[simp] theorem eval_all (yes : γ → Bool) (elements : List α) :
    (all elements part).eval yes = elements.all fun element => (part element).eval yes := by
  induction elements with
  | nil => rfl
  | cons element others ih => rw [all, eval, ih, List.all_cons]

@[simp] theorem eval_any (yes : γ → Bool) (elements : List α) :
    (any elements part).eval yes = elements.any fun element => (part element).eval yes := by
  induction elements with
  | nil => rfl
  | cons element others ih => rw [any, eval, ih, List.any_cons]

@[simp] theorem mem_questions_all {elements : List α} :
    question ∈ (all elements part).questions ↔
      ∃ element ∈ elements, question ∈ (part element).questions := by
  induction elements with
  | nil => simp [all, questions]
  | cons element others ih =>
      rw [all, questions, List.mem_append, ih]
      simp only [List.mem_cons, exists_eq_or_imp]

@[simp] theorem mem_questions_any {elements : List α} :
    question ∈ (any elements part).questions ↔
      ∃ element ∈ elements, question ∈ (part element).questions := by
  induction elements with
  | nil => simp [any, questions]
  | cons element others ih =>
      rw [any, questions, List.mem_append, ih]
      simp only [List.mem_cons, exists_eq_or_imp]

end Elements

end Formula

end InjectionCheck
