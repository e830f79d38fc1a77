import InjectionCheck.Proofs.ExtendsCycles
import InjectionCheck.Proofs.TokenNames
import InjectionCheck.Proofs.TypeMismatches

/-!
# What problems are about

The outline of a problem is its kind with its places. Problems are compared as they are
worded when repetitions are left out, so two findings with one outline could be worded
alike for some names of tokens and differently for others. Where no two registrations,
listeners or parameters stand at one place (`Located`), this does not happen: findings are
worded alike if and only if they have the same `key`, which has no name of a token in it
(`problem_eq_iff`). So the outlines of the problems, and which problems are repeated, do
not depend on what tokens are called (`outlines_problems`).
-/

set_option autoImplicit false

namespace InjectionCheck

/-! ## Outlines -/

/-- What a problem is about: its kind and its places, and not its wording. -/
structure ProblemOutline where
  kind : ProblemKind
  location : Location
  related : List Location
deriving DecidableEq, Repr

/-- The outline of a problem. -/
def Problem.outline (problem : Problem) : ProblemOutline :=
  ⟨problem.kind, problem.location, problem.related.map RelatedPlace.location⟩

namespace Finding

/-- What tells findings with one outline apart: what the builder is called in which
something is missing, and what configurations a cycle has. -/
def detail : Finding → String
  | .missingDependency builder _ _ _ => builder.describe
  | .extendsCycle first others last reference =>
    message (.extendsCycle first others last reference)
  | .typeMismatch .. | .duplicateToken .. | .duplicateListener .. => ""

/-- What a finding is about, with what tells it apart. -/
def key (finding : Finding) : ProblemOutline × String := (finding.problem.outline, finding.detail)

theorem key_bare (finding : Finding) : finding.bare.key = finding.key := by
  cases finding with
  | extendsCycle first others last reference =>
      have names : ((first.bare :: others.map Configuration.bare) ++ [first.bare]).map
          Configuration.name = ((first :: others) ++ [first]).map Configuration.name := by
        simp only [List.map_append, List.map_cons, List.map_map, List.map_nil]
        rfl
      exact congrArg (fun text => (_, _ ++ " -> ".intercalate text)) names
  | _ => rfl

/-- Of a builder in which something is missing, messages say only what it is called. -/
theorem problem_missingDependency_congr {builder builder' : Configuration}
    (describe : builder.describe = builder'.describe) {registration registration' : Registration}
    (location : registration.location = registration'.location) (dependent : DependentClass)
    (dependency : Dependency) :
    (missingDependency builder dependent dependency registration).problem =
      (missingDependency builder' dependent dependency registration').problem := by
  have message : (missingDependency builder dependent dependency registration).message =
      (missingDependency builder' dependent dependency registration').message := by
    unfold Finding.message
    dsimp only
    rw [describe]
  have hint : (missingDependency builder dependent dependency registration).hint =
      (missingDependency builder' dependent dependency registration').hint := by
    unfold Finding.hint
    dsimp only
    rw [describe]
  unfold problem
  rw [message, hint]
  simp only [Finding.location, location]
  rfl

end Finding

/-! ## Findings in words -/

namespace Wiring

variable {wiring : Wiring}

/-- No two registrations, listeners or parameters stand at one place. -/
structure Located (wiring : Wiring) : Prop where
  registrations : ∀ first ∈ wiring.configurations.flatMap Configuration.registrations,
    ∀ second ∈ wiring.configurations.flatMap Configuration.registrations,
      first.location = second.location → first = second
  listeners : ∀ first ∈ wiring.configurations.flatMap Configuration.listeners,
    ∀ second ∈ wiring.configurations.flatMap Configuration.listeners,
      first.location = second.location → first = second
  parameters : ∀ dependent ∈ wiring.classes, ∀ dependency ∈ dependent.dependencies,
    ∀ dependent' ∈ wiring.classes, ∀ dependency' ∈ dependent'.dependencies,
      dependency.location = dependency'.location →
        dependent = dependent' ∧ dependency = dependency'

/-- What a finding speaks of is of the wiring. -/
def Concerns (wiring : Wiring) : Finding → Prop
  | .missingDependency _ dependent dependency _ =>
    dependent ∈ wiring.classes ∧ dependency ∈ dependent.dependencies
  | .typeMismatch dependent dependency provider actual expected =>
    (dependent ∈ wiring.classes ∧ dependency ∈ dependent.dependencies) ∧
      provider ∈ wiring.configurations.flatMap Configuration.registrations ∧
      ∃ produced, provider.provision = .instanceOf produced ∧
        actual = wiring.program.format (wiring.program.declarationType produced) ∧
        expected = wiring.program.format dependency.expected
  | .duplicateToken again _ => again ∈ wiring.configurations.flatMap Configuration.registrations
  | .duplicateListener again _ => again ∈ wiring.configurations.flatMap Configuration.listeners
  | .extendsCycle .. => True

/-- What is met in an ancestry is of the wiring. -/
theorem mem_of_mem_ancestry {configuration : Configuration}
    (inside : configuration ∈ wiring.configurations) :
    (∀ met ∈ (wiring.ancestry configuration).nearestFirst, met ∈ wiring.configurations) ∧
      ∀ met ∈ (wiring.ancestry configuration).ancestorsFirst, met ∈ wiring.configurations := by
  have nearest : ∀ met ∈ (wiring.ancestry configuration).nearestFirst,
      met ∈ wiring.configurations := fun met isMet =>
    mem_configurations_of_reaches inside ((mem_nearestFirst_ancestry inside).1 isMet)
  obtain ⟨after, visit⟩ := wiring.depthFirst_ancestry configuration
  exact ⟨nearest, fun met isMet => nearest met (visit.perm.mem_iff.2 isMet)⟩

/-- What is repeated is one of the elements. -/
theorem mem_of_mem_repeats {α κ : Type} [DecidableEq κ] {key : α → κ} {items : List α}
    {again first : α} (repeated : (again, first) ∈ repeats key items) : again ∈ items := by
  suffices general : ∀ firsts, (again, first) ∈ repeats.go key firsts items → again ∈ items from
    general [] repeated
  clear repeated
  intro firsts inside
  induction items generalizing firsts with
  | nil => simp [repeats.go] at inside
  | cons item others ih =>
      rw [repeats.go] at inside
      split at inside
      · rcases List.mem_cons.1 inside with same | later
        · exact (Prod.mk.inj same).1 ▸ List.mem_cons_self
        · exact List.mem_cons_of_mem _ (ih _ later)
      · exact List.mem_cons_of_mem _ (ih _ inside)

/-- What is found in a builder is of the wiring. -/
theorem concerns_of_mem_builderFindings {builder : Configuration}
    (inside : builder ∈ wiring.configurations) {finding : Finding}
    (pushed : finding ∈ wiring.builderFindings builder (wiring.ancestry builder)) :
    wiring.Concerns finding := by
  obtain ⟨number, registration, dependent, dependency, -, declared, asks, found⟩ :=
    exists_of_mem_dependentFindings pushed
  have isClass : dependent ∈ wiring.classes := by
    rw [class?_eq_find?] at declared
    exact List.mem_of_find?_eq_some declared
  by_cases mismatch : finding.kind = .typeMismatch
  · obtain ⟨provider, produced, provides, produces, -, rfl⟩ :=
      dependencyFinding?_mismatch_iff.1 ⟨found, mismatch⟩
    refine ⟨⟨isClass, asks⟩, ?_, produced, produces, rfl, rfl⟩
    rw [provider?_provided] at provides
    obtain ⟨met, isMet, isRegistration⟩ :=
      List.mem_flatMap.1 (List.mem_of_find?_eq_some provides)
    exact List.mem_flatMap.2 ⟨met, (mem_of_mem_ancestry inside).1 met isMet, isRegistration⟩
  · unfold dependencyFinding? at found
    split at found
    · unfold providerFinding? at found
      split at found
      · dsimp only at found
        split at found
        · cases found
        · cases found
          exact absurd rfl mismatch
      · cases found
      · cases found
    · split at found
      · cases found
        exact ⟨isClass, asks⟩
      · cases found

theorem concerns_of_mem_findings {finding : Finding} (pushed : finding ∈ wiring.findings) :
    wiring.Concerns finding := by
  rcases List.mem_append.1 pushed with cycle | alone
  · obtain ⟨first, others, last, reference, rfl, -⟩ := isCycle_of_mem_cycles cycle
    trivial
  · obtain ⟨configuration, inside, given⟩ := List.mem_flatMap.1 alone
    have all := (mem_of_mem_ancestry inside).2
    rw [configurationFindings, List.mem_append, List.mem_append] at given
    rcases given with (token | listener) | ofBuilder
    · obtain ⟨⟨again, first⟩, repeated, rfl⟩ := List.mem_map.1 token
      obtain ⟨met, isMet, isRegistration⟩ := List.mem_flatMap.1 (mem_of_mem_repeats repeated)
      exact List.mem_flatMap.2 ⟨met, all met isMet, isRegistration⟩
    · obtain ⟨⟨again, first⟩, repeated, rfl⟩ := List.mem_map.1 listener
      obtain ⟨met, isMet, isListener⟩ := List.mem_flatMap.1 (mem_of_mem_repeats repeated)
      exact List.mem_flatMap.2 ⟨met, all met isMet, isListener⟩
    · split at ofBuilder
      · exact concerns_of_mem_builderFindings inside ofBuilder
      · simp at ofBuilder

section Alike

variable {first second : Finding} (located : wiring.Located) (ofFirst : wiring.Concerns first)
  (ofSecond : wiring.Concerns second)

include located ofFirst ofSecond

/-- Findings that are worded alike are about the same. -/
theorem key_eq_of_problem_eq (same : first.problem = second.problem) : first.key = second.key := by
  have outline : first.problem.outline = second.problem.outline := congrArg Problem.outline same
  have message : first.message = second.message := congrArg Problem.message same
  have kind : first.kind = second.kind := congrArg Problem.kind same
  refine Prod.ext outline ?_
  cases first with
  | missingDependency builder dependent dependency registration =>
      cases second with
      | missingDependency builder' dependent' dependency' registration' =>
          -- the place of the parameter tells the class and the parameter
          have places : dependency.location = dependency'.location :=
            (List.cons.inj (congrArg ProblemOutline.related outline)).1
          obtain ⟨rfl, rfl⟩ := located.parameters dependent ofFirst.1 dependency ofFirst.2
            dependent' ofSecond.1 dependency' ofSecond.2 places
          have last := (String.append_right_inj _).1 message
          exact (String.append_right_inj _).1 ((String.append_left_inj _).1 last)
      | _ => cases kind
  | extendsCycle =>
      cases second with
      | extendsCycle => exact message
      | _ => cases kind
  | _ =>
      cases second <;> cases kind
      all_goals rfl

/-- Findings that are about the same are worded alike. -/
theorem problem_eq_of_key_eq (same : first.key = second.key) : first.problem = second.problem := by
  have outline : first.problem.outline = second.problem.outline := congrArg Prod.fst same
  have kind : first.kind = second.kind := congrArg ProblemOutline.kind outline
  have location : first.location = second.location := congrArg ProblemOutline.location outline
  have related : first.related.map RelatedPlace.location =
      second.related.map RelatedPlace.location := congrArg ProblemOutline.related outline
  have detail : first.detail = second.detail := congrArg Prod.snd same
  cases first with
  | missingDependency builder dependent dependency registration =>
      cases second with
      | missingDependency builder' dependent' dependency' registration' =>
          simp only [Finding.related, List.map_cons, List.map_nil, List.singleton_inj] at related
          obtain ⟨rfl, rfl⟩ := located.parameters dependent ofFirst.1 dependency ofFirst.2
            dependent' ofSecond.1 dependency' ofSecond.2 related
          exact Finding.problem_missingDependency_congr detail location dependent dependency
      | _ => cases kind
  | typeMismatch dependent dependency provider actual expected =>
      cases second with
      | typeMismatch dependent' dependency' provider' actual' expected' =>
          simp only [Finding.related, List.map_cons, List.map_nil, List.singleton_inj] at related
          obtain ⟨rfl, rfl⟩ := located.parameters dependent ofFirst.1.1 dependency ofFirst.1.2
            dependent' ofSecond.1.1 dependency' ofSecond.1.2 related
          obtain rfl := located.registrations provider ofFirst.2.1 provider' ofSecond.2.1 location
          obtain ⟨-, -, produced, produces, rfl, rfl⟩ := ofFirst
          obtain ⟨-, -, produced', produces', rfl, rfl⟩ := ofSecond
          rw [produces] at produces'
          cases produces'
          rfl
      | _ => cases kind
  | duplicateToken again first =>
      cases second with
      | duplicateToken again' first' =>
          obtain rfl := located.registrations again ofFirst again' ofSecond location
          simp only [Finding.related, List.map_cons, List.map_nil, List.singleton_inj] at related
          simp only [Finding.problem, Finding.related, related]
          rfl
      | _ => cases kind
  | duplicateListener again first =>
      cases second with
      | duplicateListener again' first' =>
          obtain rfl := located.listeners again ofFirst again' ofSecond location
          simp only [Finding.related, List.map_cons, List.map_nil, List.singleton_inj] at related
          simp only [Finding.problem, Finding.related, related]
          rfl
      | _ => cases kind
  | extendsCycle =>
      cases second with
      | extendsCycle =>
          simp only [Finding.detail] at detail
          simp only [Finding.location] at location
          simp only [Finding.problem, detail, Finding.location, location]
          rfl
      | _ => cases kind

/-- **Findings are worded alike if and only if they are about the same.** -/
theorem problem_eq_iff : first.problem = second.problem ↔ first.key = second.key :=
  ⟨key_eq_of_problem_eq located ofFirst ofSecond, problem_eq_of_key_eq located ofFirst ofSecond⟩

end Alike

/-! ## Repetitions -/

/-- Keys that are the same for the same elements leave out the same. -/
theorem distinctBy_congr {α κ κ' : Type} [DecidableEq κ] [DecidableEq κ'] {key : α → κ}
    {key' : α → κ'} {items : List α}
    (same : ∀ first ∈ items, ∀ second ∈ items, key first = key second ↔ key' first = key' second) :
    distinctBy key items = distinctBy key' items := by
  induction items with
  | nil => rfl
  | cons item others ih =>
      rw [distinctBy_cons, distinctBy_cons, ih fun first isFirst second isSecond =>
        same first (List.mem_cons_of_mem _ isFirst) second (List.mem_cons_of_mem _ isSecond)]
      congr 1
      refine List.filter_congr fun other kept => ?_
      have isOther := (distinctBy_sublist key' others).subset kept
      have agree := same other (List.mem_cons_of_mem _ isOther) item List.mem_cons_self
      simp only [ne_eq, agree]

/-- **What tokens are called is irrelevant for what the problems are about.** -/
theorem outlines_problems (located : wiring.Located) :
    wiring.problems.map Problem.outline =
      (distinctBy id (wiring.bare.findings.map Finding.key)).map Prod.fst := by
  have keys : wiring.bare.findings.map Finding.key = wiring.findings.map Finding.key := by
    rw [findings_bare, List.map_map]
    exact List.map_congr_left fun finding _ => finding.key_bare
  have alike : distinctBy (id ∘ Finding.problem) wiring.findings =
      distinctBy (id ∘ Finding.key) wiring.findings :=
    distinctBy_congr fun first isFirst second isSecond =>
      problem_eq_iff located (concerns_of_mem_findings isFirst) (concerns_of_mem_findings isSecond)
  rw [keys, problems, distinctBy_map, distinctBy_map, alike, List.map_map, List.map_map]
  rfl

end Wiring

end InjectionCheck
