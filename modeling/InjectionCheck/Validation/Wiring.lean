import InjectionCheck.Validation.Dependency
import InjectionCheck.Walk.NumberIndex
import InjectionCheck.Walk.NumberSet

/-!
# The wiring of a program

The configurations of a program and the classes with constructors, and how
configurations extend each other. A configuration and all that it extends, each one
once, is its ancestry, in two orders: a configuration before its parents, and
parents before the configurations that extend them.

Configurations may extend each other in a circle. `walk` and `resolve` keep the
configurations that were entered and enter none twice; each time that they go from a
configuration to its parents, fewer are left that can be entered.

Configurations and classes are found by their declarations with an index, which finds
what a search through their lists finds.
-/

set_option autoImplicit false

namespace InjectionCheck

/-- The configurations and classes of a program that are checked. -/
structure Wiring where
  program : Program
  /-- The configurations, in the order of their declarations. -/
  configurations : List Configuration
  skipped : List SkippedConfiguration
  /-- The classes with a constructor, in the order of their declarations. -/
  classes : List DependentClass
  /-- No declaration holds two configurations. -/
  configurations_distinct : (configurations.map Configuration.declaration).Nodup
  /-- No declaration declares two classes. -/
  classes_distinct : (classes.map DependentClass.declaration).Nodup
  configurationIndex : NumberIndex Configuration.declaration configurations := .ofList _ _
  classIndex : NumberIndex DependentClass.declaration classes := .ofList _ _

/-- A configuration and all that it extends, each one once. -/
structure Ancestry where
  /-- A configuration before its parents, depth first. -/
  nearestFirst : List Configuration
  /-- Parents before the configurations that extend them. -/
  ancestorsFirst : List Configuration

namespace Ancestry

/-- All registrations, those of ancestors first. -/
def registrations (ancestry : Ancestry) : List Registration :=
  ancestry.ancestorsFirst.flatMap Configuration.registrations

/-- All listeners, those of ancestors first. -/
def listeners (ancestry : Ancestry) : List ListenerBinding :=
  ancestry.ancestorsFirst.flatMap Configuration.listeners

/-- The registrations of classes, each with its class. -/
def registeredClasses (ancestry : Ancestry) : List (Nat × Registration) :=
  (ancestry.nearestFirst.flatMap Configuration.registrations).filterMap fun registration =>
    registration.provision.class?.map (·, registration)

end Ancestry

/-- The elements of a list whose keys do not occur before them. -/
@[inline] def distinctBy {α κ : Type} [DecidableEq κ] (key : α → κ) (items : List α) : List α :=
  go [] items
where
  /-- Leaves out the elements whose keys have been seen. -/
  @[specialize] go (seen : List κ) : List α → List α
    | [] => []
    | item :: others =>
      if key item ∈ seen then go seen others else item :: go (key item :: seen) others

/-- The classes whose instances are provided anywhere in an ancestry, each one with the
nearest registration that provides it. -/
def Ancestry.classesToValidate (ancestry : Ancestry) : List (Nat × Registration) :=
  distinctBy Prod.fst ancestry.registeredClasses

namespace Wiring

/-- The wiring of a program. -/
def ofProgram (program : Program) : Wiring :=
  match found : program.dependentClasses program.linkage.declarations.toList.zipIdx with
  | (classes, extended) =>
    { program := extended
      configurations := program.configurations
      skipped := program.skippedConfigurations
      classes
      configurations_distinct := program.nodup_declaration_configurations
      classes_distinct := by
        have distinct := program.nodup_declaration_dependentClasses
        rwa [found] at distinct }

variable (wiring : Wiring)

/-- The configuration that a declaration holds. -/
def configuration? (declaration : Nat) : Option Configuration :=
  wiring.configurationIndex.get? declaration

theorem configuration?_eq_find? (declaration : Nat) :
    wiring.configuration? declaration =
      wiring.configurations.find? (·.declaration = declaration) :=
  wiring.configurationIndex.get?_eq_find? declaration

/-- The class with a constructor that a declaration declares. -/
def class? (declaration : Nat) : Option DependentClass :=
  wiring.classIndex.get? declaration

theorem class?_eq_find? (declaration : Nat) :
    wiring.class? declaration = wiring.classes.find? (·.declaration = declaration) :=
  wiring.classIndex.get?_eq_find? declaration

/-- The declarations that hold configurations. -/
def nodes : List Nat := wiring.configurations.map Configuration.declaration

theorem mem_nodes {wiring : Wiring} {declaration : Nat} {configuration : Configuration}
    (found : wiring.configuration? declaration = some configuration) :
    declaration ∈ wiring.nodes := by
  rw [configuration?_eq_find?] at found
  have same := List.find?_some found
  simp only [decide_eq_true_eq] at same
  exact List.mem_map.2 ⟨configuration, List.mem_of_find?_eq_some found, same⟩

/-! ## Ancestry -/

/-- A step of a walk from configurations to those that they extend. -/
inductive WalkStep where
  /-- Enter the configuration that a declaration holds. -/
  | enter (declaration : Nat)
  /-- Leave a configuration whose parents have been left. -/
  | leave (configuration : Configuration)
deriving DecidableEq, Repr

/-- The configurations that are entered, and those that are left, on the steps of a
walk. None is entered that has been visited before. -/
def walk (visited : NumberSet) (steps : List WalkStep) : Ancestry :=
  match steps with
  | [] => ⟨[], []⟩
  | .leave configuration :: others =>
    let after := walk visited others
    ⟨after.nearestFirst, configuration :: after.ancestorsFirst⟩
  | .enter declaration :: others =>
    match found : wiring.configuration? declaration with
    | none => walk visited others
    | some configuration =>
      if fresh : declaration ∉ visited then
        have := unvisited_insert_lt (mem_nodes found) fresh
        let parents := configuration.parents.map fun reference => WalkStep.enter reference.target
        let after := walk (visited.insert declaration) (parents ++ .leave configuration :: others)
        ⟨configuration :: after.nearestFirst, after.ancestorsFirst⟩
      else walk visited others
termination_by (unvisited wiring.nodes visited, steps.length)
decreasing_by
  · exact .right _ (Nat.lt_succ_self _)
  · exact .right _ (Nat.lt_succ_self _)
  · exact .left _ _ ‹_›
  · exact .right _ (Nat.lt_succ_self _)

/-- A configuration and all that it extends. -/
def ancestry (configuration : Configuration) : Ancestry :=
  wiring.walk ∅ [.enter configuration.declaration]

/-- Whether some configuration of an ancestry extends what is no configuration that
could be read. -/
def isIncomplete (ancestry : Ancestry) : Bool :=
  ancestry.nearestFirst.any fun configuration =>
    configuration.hasUnresolvedParent ||
      configuration.parents.any fun reference => (wiring.configuration? reference.target).isNone

/-! ## What is provided -/

/-- The registrations of the first list, and those of the second for other tokens. -/
def overlaid (first second : List Registration) : List Registration :=
  first ++ second.filter fun registration =>
    !first.any (·.token.declaration = registration.token.declaration)

/-- The registrations that count among those of one configuration: the first one for
each token. -/
def effective (registrations : List Registration) : List Registration :=
  distinctBy (·.token.declaration) registrations

/-- What some configurations provide, and which configurations were entered. -/
structure Resolution where
  /-- The declarations that hold the configurations that were entered. -/
  entered : NumberSet
  /-- One registration for each token. -/
  bindings : List Registration

/-- What the configurations that some declarations hold provide, without those that are
visited: an earlier one wins over a later one, and a configuration wins over its
parents. -/
def resolve (visited : NumberSet) (pending : List Nat) : Resolution :=
  match pending with
  | [] => ⟨∅, []⟩
  | declaration :: others =>
    match found : wiring.configuration? declaration with
    | none => resolve visited others
    | some configuration =>
      if fresh : declaration ∉ visited then
        have := unvisited_insert_lt (mem_nodes found) fresh
        let inner := resolve (visited.insert declaration)
          (configuration.parents.map ParentReference.target)
        have := unvisited_union_insert_lt (mem_nodes found) fresh inner.entered
        let outer := resolve (visited.insert declaration ∪ inner.entered) others
        let own := overlaid (effective configuration.registrations) inner.bindings
        ⟨inner.entered.insert declaration ∪ outer.entered, overlaid own outer.bindings⟩
      else resolve visited others
termination_by (unvisited wiring.nodes visited, pending.length)
decreasing_by
  · exact .right _ (Nat.lt_succ_self _)
  · exact .left _ _ ‹_›
  · exact .left _ _ ‹_›
  · exact .right _ (Nat.lt_succ_self _)

/-- The registration that counts for each token that a configuration provides. -/
def provided (configuration : Configuration) : List Registration :=
  (wiring.resolve ∅ [configuration.declaration]).bindings

/-- The registration that counts for a token among those that a configuration provides. -/
def provider? (bindings : List Registration) (token : Nat) : Option Registration :=
  bindings.find? (·.token.declaration = token)

end Wiring

end InjectionCheck
