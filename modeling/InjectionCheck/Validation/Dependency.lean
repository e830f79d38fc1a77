import InjectionCheck.Validation.Configuration

/-!
# What classes depend on

A class depends on what its constructor asks for. A parameter asks for the token of
its `@inject` decorator, or else for the class that is its type. Parameters that may
be left out ask for nothing, and so do those whose type is not of the program.
-/

set_option autoImplicit false

namespace InjectionCheck

/-- A parameter of a constructor that has to be provided. -/
structure Dependency where
  token : InjectionToken
  /-- The type of the parameter. -/
  expected : TypeIndex
  parameter : String
  /-- The place among the parameters, counted from zero. -/
  index : Nat
  location : Location
deriving DecidableEq, Repr

/-- A class with a constructor, and what it depends on. -/
structure DependentClass where
  declaration : Nat
  name : String
  file : Nat
  dependencies : List Dependency
  /-- No parameter is asked for twice. -/
  distinct : (dependencies.map Dependency.index).Nodup
deriving DecidableEq, Repr

namespace Program

/-- The token expression of an `@inject` decorator. -/
def injected? (parameter : Parameter) : Option Expression :=
  (parameter.decorators.find? fun decorator =>
    decorator.name = "inject" ∨ decorator.name = "Inject").bind (·.arguments.head?)

/-- The token that the type of a parameter stands for. -/
def typeToken? (program : Program) (file : Nat) (parameter : Parameter) : Option InjectionToken :=
  match parameter.type with
  | some ⟨.named name _, _⟩ =>
    (program.find? file name).bind fun (number, declaration) =>
      match declaration.form with
      | .classType form => some ⟨number, .class_, form.name⟩
      | .interfaceType form => some ⟨number, .type, form.name⟩
      | .typeAlias form => some ⟨number, .type, form.name⟩
      | .binding _ => none
  | _ => none

/-- The token that a parameter asks for. -/
def parameterToken? (program : Program) (file : Nat) (parameter : Parameter) :
    Option InjectionToken :=
  if parameter.isOptional then none
  else
    match injected? parameter with
    | some expression => (program.token file expression).toOption
    | none => program.typeToken? file parameter

/-- What some parameters depend on, and the program whose pool holds their types. -/
def dependencies (program : Program) (file : Nat) :
    (parameters : List (Parameter × Nat)) → List Dependency × Program
  | [] => ([], program)
  | (parameter, index) :: others =>
    match program.parameterToken? file parameter with
    | none => dependencies program file others
    | some token =>
      let (expected, program) :=
        match parameter.type with
        | some type => program.lowerType file type
        | none => (.any, program)
      let (others, program) := dependencies program file others
      (⟨token, expected, parameter.name, index, ⟨file, parameter.span⟩⟩ :: others, program)

/-- The parameters that are depended on are among the given ones, in their order. -/
theorem index_dependencies_sublist (program : Program) (file : Nat)
    (parameters : List (Parameter × Nat)) :
    ((program.dependencies file parameters).1.map Dependency.index).Sublist
      (parameters.map Prod.snd) := by
  induction parameters generalizing program with
  | nil => exact .slnil
  | cons parameter others ih =>
    obtain ⟨parameter, index⟩ := parameter
    simp only [dependencies, List.map_cons]
    split
    · exact (ih program).cons index
    · exact (ih _).cons_cons index

theorem nodup_index_dependencies (program : Program) (file : Nat) (parameters : List Parameter) :
    ((program.dependencies file parameters.zipIdx).1.map Dependency.index).Nodup := by
  refine (program.index_dependencies_sublist file parameters.zipIdx).nodup ?_
  rw [List.zipIdx_map_snd]
  exact List.nodup_range'

/-- A class whose constructor has some parameters, and the program whose pool holds their
types. -/
def dependentClass (program : Program) (number : Nat) (declaration : Declaration)
    (parameters : List Parameter) : DependentClass × Program :=
  match asked : program.dependencies declaration.file parameters.zipIdx with
  | (dependencies, extended) =>
    (⟨number, declaration.name, declaration.file, dependencies, by
      have distinct := program.nodup_index_dependencies declaration.file parameters
      rwa [asked] at distinct⟩, extended)

/-- What some declarations depend on that are classes with a constructor, and the
program whose pool holds the types. -/
def dependentClasses (program : Program) :
    (declarations : List (Declaration × Nat)) → List DependentClass × Program
  | [] => ([], program)
  | (declaration, number) :: others =>
    match declaration.class?.bind ClassDeclaration.constructor? with
    | none => dependentClasses program others
    | some member =>
      let (dependent, program) := program.dependentClass number declaration member.parameters
      let (others, program) := dependentClasses program others
      (dependent :: others, program)

/-- The classes with a constructor are among the given declarations, in their order. -/
theorem declaration_dependentClasses_sublist (program : Program)
    (declarations : List (Declaration × Nat)) :
    ((program.dependentClasses declarations).1.map DependentClass.declaration).Sublist
      (declarations.map Prod.snd) := by
  induction declarations generalizing program with
  | nil => exact .slnil
  | cons declaration others ih =>
    obtain ⟨declaration, number⟩ := declaration
    simp only [dependentClasses, List.map_cons]
    split
    · exact (ih program).cons number
    · next member _ =>
      have same : (program.dependentClass number declaration member.parameters).1.declaration =
        number := rfl
      simp only [List.map_cons, same]
      exact (ih _).cons_cons number

/-- No declaration declares two classes. -/
theorem nodup_declaration_dependentClasses (program : Program) :
    ((program.dependentClasses program.linkage.declarations.toList.zipIdx).1.map
      DependentClass.declaration).Nodup := by
  refine (program.declaration_dependentClasses_sublist _).nodup ?_
  rw [List.zipIdx_map_snd]
  exact List.nodup_range'

end Program

end InjectionCheck
