import InjectionCheck.Proofs.Descriptions
import InjectionCheck.Proofs.TokenNames

/-!
# Wirings of programs without descriptions

Descriptions of symbols are only what tokens are called. A program and the program without
its texts and descriptions have wirings that are the same once tokens have no names
(`Wiring.ofProgram_bare`): a description tells neither whether a binding is a token, nor
which one.
-/

set_option autoImplicit false

namespace InjectionCheck

/-! ## Results that are alike -/

section Alike

variable {ε α β γ δ : Type}

/-- Results that are alike, with steps that keep what is alike alike, give results that are
alike. -/
theorem Except.map_bind_congr {erase : α → β} {erase' : γ → δ} {first second : Except ε α}
    {step step' : α → Except ε γ} (alike : first.map erase = second.map erase)
    (steps : ∀ value value', erase value = erase value' →
      (step value).map erase' = (step' value').map erase') :
    (first >>= step).map erase' = (second >>= step').map erase' := by
  cases first with
  | error reason =>
      cases second with
      | error reason' => cases alike; rfl
      | ok value' => cases alike
  | ok value =>
      cases second with
      | error reason' => cases alike
      | ok value' => exact steps value value' (Except.ok.inj alike)

/-- Steps that keep what is alike alike, from one result. -/
theorem Except.map_bind_congr_right {erase : γ → δ} {first : Except ε α}
    {step step' : α → Except ε γ}
    (steps : ∀ value, (step value).map erase = (step' value).map erase) :
    (first >>= step).map erase = (first >>= step').map erase := by
  cases first with
  | error reason => rfl
  | ok value => exact steps value

theorem Except.map_mapM_congr {erase : γ → δ} {step step' : α → Except ε γ}
    (steps : ∀ item, (step item).map erase = (step' item).map erase) (items : List α) :
    (items.mapM step).map (List.map erase) = (items.mapM step').map (List.map erase) := by
  induction items with
  | nil => rfl
  | cons item others ih =>
      rw [List.mapM_cons, List.mapM_cons]
      refine Except.map_bind_congr (steps item) fun value value' same => ?_
      refine Except.map_bind_congr ih fun values values' sames => ?_
      exact congrArg Except.ok (by rw [List.map_cons, List.map_cons, same, sames])

end Alike

/-! ## Tokens -/

namespace Program

variable (program : Program)

/-- Whether an expression makes a symbol does not depend on a description. -/
theorem isSome_symbolCall?_bare (file : Nat) (expression : Expression) :
    (program.bare.symbolCall? file expression.bare).isSome =
      (program.symbolCall? file expression).isSome := by
  rcases expression.bare_eq with same | ⟨callee, typeArguments, content, inner, others, span, rfl,
    maker, bare⟩
  · rw [same]
    rfl
  · have symbol (arguments : List Expression) :
        (program.symbolCall? file ⟨.call callee typeArguments arguments, span⟩).isSome =
          (program.resolve? file "Symbol").isNone := by
      simp only [symbolCall?, maker, true_and]
      cases (program.resolve? file "Symbol").isNone <;> rfl
    have symbolBare (arguments : List Expression) :
        (program.bare.symbolCall? file ⟨.call callee typeArguments arguments, span⟩).isSome =
          (program.symbolCall? file ⟨.call callee typeArguments arguments, span⟩).isSome := rfl
    rw [bare, symbolBare, symbol, symbol]

theorem symbolToken?_bare (number file : Nat) (binding : BindingDeclaration) :
    (program.bare.symbolToken? number file binding.bare).map .bare =
      (program.symbolToken? number file binding).map InjectionToken.bare := by
  have called : (binding.bare.initial.bind (program.bare.symbolCall? file)).isSome =
      (binding.initial.bind (program.symbolCall? file)).isSome := by
    rw [BindingDeclaration.bare]
    cases binding.initial with
    | none => rfl
    | some initial => exact program.isSome_symbolCall?_bare file initial
  unfold symbolToken?
  cases first : binding.bare.initial.bind (program.bare.symbolCall? file) with
  | none =>
      cases second : binding.initial.bind (program.symbolCall? file) with
      | none => rfl
      | some description => rw [first, second] at called; cases called
  | some description =>
      cases second : binding.initial.bind (program.symbolCall? file) with
      | none => rw [first, second] at called; cases called
      | some description' => rfl

theorem find?_bare (file : Nat) (name : String) :
    program.bare.find? file name = (program.find? file name).map (Prod.map id .bare) :=
  program.linkage.find?_bare file name

/-- **A description does not tell which token an expression refers to.** -/
theorem token_bare (file : Nat) (expression : Expression) :
    (program.bare.token file expression).map .bare =
      (program.token file expression).map InjectionToken.bare := by
  unfold token
  cases expression.name? with
  | none => rfl
  | some name =>
      dsimp only
      rw [find?_bare]
      cases program.find? file name with
      | none => rfl
      | some found =>
          obtain ⟨number, ⟨home, item, exported, form⟩⟩ := found
          cases form with
          | classType form => rfl
          | interfaceType form => rfl
          | typeAlias form => rfl
          | binding binding =>
              have alike := program.symbolToken?_bare number home binding
              dsimp only [Option.map_some, Prod.map, id_eq, Declaration.bare, DeclarationForm.bare]
              cases first : program.bare.symbolToken? number home binding.bare with
              | none =>
                  cases second : program.symbolToken? number home binding with
                  | none => rfl
                  | some token => rw [first, second] at alike; cases alike
              | some token =>
                  cases second : program.symbolToken? number home binding with
                  | none => rw [first, second] at alike; cases alike
                  | some token' =>
                      rw [first, second] at alike
                      exact congrArg Except.ok (Option.some.inj alike)

end Program

/-! ## Configurations -/

namespace Configuration

variable (program : Program) (file : Nat)

theorem entryToken_bare (properties : List Property) (field : ListField) (index : Nat)
    (key : String) :
    (entryToken program.bare file properties field index key).map .bare =
      (entryToken program file properties field index key).map InjectionToken.bare := by
  unfold entryToken
  cases field? properties key with
  | none => rfl
  | some expression =>
      have alike := program.token_bare file expression
      dsimp only
      cases first : program.bare.token file expression with
      | error reason =>
          cases second : program.token file expression with
          | error reason' => rw [first, second] at alike; cases alike; rfl
          | ok token => rw [first, second] at alike; cases alike
      | ok token =>
          cases second : program.token file expression with
          | error reason => rw [first, second] at alike; cases alike
          | ok token' =>
              rw [first, second] at alike
              exact congrArg Except.ok (Except.ok.inj alike)

theorem classNamed?_bare (expression : Expression) :
    classNamed? program.bare file expression = classNamed? program file expression := by
  unfold classNamed?
  cases expression.name? with
  | none => rfl
  | some name =>
      simp only [Option.bind_some, Program.find?_bare]
      cases program.find? file name with
      | none => rfl
      | some found =>
          simp only [Option.map_some, Option.bind_some, Prod.map, id_eq, Declaration.kind_bare]

/-- What stands behind a token depends on the token only. -/
theorem provision_bare (properties : List Property) (index : Nat)
    {token token' : InjectionToken} (same : token.bare = token'.bare) :
    provision program.bare file properties index token =
      provision program file properties index token' := by
  have kind : token.bare.kind = token'.bare.kind := congrArg InjectionToken.kind same
  have declaration : token.bare.declaration = token'.bare.declaration :=
    congrArg InjectionToken.declaration same
  simp only [InjectionToken.bare] at kind declaration
  simp only [provision, classNamed?_bare, kind, declaration]

theorem registration_bare (entry : Expression) (index : Nat) :
    (registration program.bare file entry index).map .bare =
      (registration program file entry index).map Registration.bare := by
  unfold registration
  refine Except.map_bind_congr_right fun properties => ?_
  refine Except.map_bind_congr (entryToken_bare program file properties _ _ _)
    fun token token' same => ?_
  rw [provision_bare program file properties index same]
  refine Except.map_bind_congr_right fun provision => ?_
  have erased : (⟨token, provision, ⟨file, entry.span⟩⟩ : Registration).bare =
      (⟨token', provision, ⟨file, entry.span⟩⟩ : Registration).bare := by
    simp only [Registration.bare, same]
  exact congrArg Except.ok erased

theorem listenerBinding_bare (entry : Expression) (index : Nat) :
    (listenerBinding program.bare file entry index).map .bare =
      (listenerBinding program file entry index).map ListenerBinding.bare := by
  unfold listenerBinding
  refine Except.map_bind_congr_right fun properties => ?_
  refine Except.map_bind_congr (entryToken_bare program file properties _ _ _)
    fun event event' sameEvent => ?_
  refine Except.map_bind_congr (entryToken_bare program file properties _ _ _)
    fun listener listener' sameListener => ?_
  have erased : (⟨event, listener, ⟨file, entry.span⟩⟩ : ListenerBinding).bare =
      (⟨event', listener', ⟨file, entry.span⟩⟩ : ListenerBinding).bare := by
    simp only [ListenerBinding.bare, sameEvent, sameListener]
  exact congrArg Except.ok erased

/-- **A literal holds the same configuration whatever symbols are described as.** -/
theorem ofLiteral_bare (declaration : Nat) (name : String) (literal : Expression) :
    (ofLiteral program.bare file declaration name literal).map .bare =
      (ofLiteral program file declaration name literal).map Configuration.bare := by
  unfold ofLiteral
  cases properties? literal with
  | none => rfl
  | some properties =>
      dsimp only
      split
      · exact Eq.refl (Except.error SkipReason.dynamicKeys)
      · refine Except.map_bind_congr_right fun entries => ?_
        refine Except.map_bind_congr (Except.map_mapM_congr (fun (entry, index) =>
          registration_bare program file entry index) _) fun registrations registrations' same => ?_
        refine Except.map_bind_congr_right fun entries => ?_
        refine Except.map_bind_congr (Except.map_mapM_congr (fun (entry, index) =>
          listenerBinding_bare program file entry index) _)
          fun listeners listeners' sameListeners => ?_
        refine Except.map_bind_congr_right fun entries => ?_
        refine Except.map_bind_congr_right fun parents => ?_
        refine congrArg Except.ok ?_
        simp only [bare, same, sameListeners]

/-- What makes a symbol is the word `Symbol` or its member `for`. -/
theorem form_of_makesSymbol {callee : Expression}
    (maker : Program.symbolMaker? callee = some "Symbol") :
    callee.form = .name "Symbol" ∨ ∃ object, callee.form = .member object "for" := by
  unfold Program.symbolMaker? at maker
  cases form : callee.form with
  | name text =>
      rw [form] at maker
      exact .inl (congrArg _ (Option.some.inj maker))
  | member object property =>
      simp only [form] at maker
      split at maker
      · next isFor => exact .inr ⟨object, by rw [isFor]⟩
      · cases maker
  | _ => simp [form] at maker

/-- What makes a symbol hands no literal to a function that defines a configuration. -/
theorem literal?_bare (initial : Expression) : literal? initial.bare = literal? initial := by
  rcases initial.bare_eq with same | ⟨callee, typeArguments, content, inner, others, span, rfl,
    maker, bare⟩
  · rw [same]
  · rw [bare]
    rcases form_of_makesSymbol maker with form | ⟨object, form⟩ <;> simp [literal?, form]

end Configuration

namespace Program

variable (program : Program)

theorem configurationIn?_bare (number : Nat) (declaration : Declaration) :
    ((program.bare.configurationIn? number declaration.bare).bind Except.toOption).map .bare =
      ((program.configurationIn? number declaration).bind Except.toOption).map
        Configuration.bare := by
  unfold configurationIn?
  rw [Declaration.binding?_bare]
  cases declaration.binding? with
  | none => simp only [Option.map_none, Option.bind_none]
  | some binding =>
      have literals : binding.bare.initial.bind Configuration.literal? =
          binding.initial.bind Configuration.literal? := by
        rw [BindingDeclaration.bare]
        cases binding.initial with
        | none => rfl
        | some initial => exact Configuration.literal?_bare initial
      simp only [Option.map_some, Option.bind_some, literals]
      cases binding.initial.bind Configuration.literal? with
      | none => simp only [Option.map_none, Option.bind_none]
      | some literal =>
          have alike := Configuration.ofLiteral_bare program declaration.file number binding.name
            literal
          have name : binding.bare.name = binding.name := rfl
          have file : declaration.bare.file = declaration.file := rfl
          simp only [Option.map_some, Option.bind_some, name, file]
          cases first : Configuration.ofLiteral program.bare declaration.file number binding.name
            literal with
          | error reason =>
              cases second : Configuration.ofLiteral program declaration.file number binding.name
                literal with
              | error reason' => rfl
              | ok configuration => rw [first, second] at alike; cases alike
          | ok configuration =>
              cases second : Configuration.ofLiteral program declaration.file number binding.name
                literal with
              | error reason => rw [first, second] at alike; cases alike
              | ok configuration' =>
                  rw [first, second] at alike
                  exact congrArg some (Except.ok.inj alike)

theorem declaration?_bare (number : Nat) :
    program.bare.declaration? number = (program.declaration? number).map .bare :=
  program.linkage.getElem?_declarations_bare number

/-- **The configurations of a program are the same whatever symbols are described as.** -/
theorem configurations_bare :
    program.bare.configurations.map .bare = program.configurations.map Configuration.bare := by
  have numbers : program.bare.linkage.numbers = program.linkage.numbers :=
    program.linkage.numbers_bare
  simp only [configurations, configurationEntries, List.filterMap_filterMap, List.map_filterMap,
    numbers]
  refine List.filterMap_congr fun number _ => ?_
  rw [declaration?_bare]
  cases program.declaration? number with
  | none => simp only [Option.map_none, Option.bind_none]
  | some declaration =>
      simp only [Option.map_some, Option.bind_some]
      exact program.configurationIn?_bare number declaration

/-! ## Classes -/

theorem parameterToken?_bare (file : Nat) (parameter : Parameter) :
    (program.bare.parameterToken? file parameter).map .bare =
      (program.parameterToken? file parameter).map InjectionToken.bare := by
  unfold parameterToken?
  split
  · rfl
  · cases injected? parameter with
    | some expression =>
        have alike := program.token_bare file expression
        dsimp only
        cases first : program.bare.token file expression with
        | error reason =>
            cases second : program.token file expression with
            | error reason' => rfl
            | ok token => rw [first, second] at alike; cases alike
        | ok token =>
            cases second : program.token file expression with
            | error reason => rw [first, second] at alike; cases alike
            | ok token' =>
                rw [first, second] at alike
                exact congrArg some (Except.ok.inj alike)
    | none =>
        dsimp only
        unfold typeToken?
        split
        · next name _ _ _ =>
          rw [find?_bare]
          cases program.find? file name with
          | none => rfl
          | some found =>
              obtain ⟨number, ⟨home, item, exported, form⟩⟩ := found
              cases form <;> rfl
        · rfl

theorem lowerType_bare (file : Nat) (type : TypeExpression) :
    program.bare.lowerType file type =
      ((program.lowerType file type).1, (program.lowerType file type).2.bare) := by
  simp only [lowerType]
  have lowered : program.bare.linkage.lower [] program.bare.table.types file type =
      program.linkage.lower [] program.table.types file type :=
    program.linkage.lower_bare [] program.table.types file type
  rw [lowered]
  rfl

theorem dependencies_bare (file : Nat) (parameters : List (Parameter × Nat)) :
    (program.bare.dependencies file parameters).1.map .bare =
        (program.dependencies file parameters).1.map Dependency.bare ∧
      (program.bare.dependencies file parameters).2 =
        (program.dependencies file parameters).2.bare := by
  induction parameters generalizing program with
  | nil => exact ⟨rfl, rfl⟩
  | cons parameter others ih =>
      obtain ⟨parameter, index⟩ := parameter
      have alike := program.parameterToken?_bare file parameter
      rw [dependencies, dependencies]
      cases first : program.bare.parameterToken? file parameter with
      | none =>
          cases second : program.parameterToken? file parameter with
          | none => exact ih program
          | some token => rw [first, second] at alike; cases alike
      | some token =>
          cases second : program.parameterToken? file parameter with
          | none => rw [first, second] at alike; cases alike
          | some token' =>
              rw [first, second] at alike
              have same : token.bare = token'.bare := Option.some.inj alike
              cases parameter.type with
              | none =>
                  dsimp only
                  obtain ⟨found, extended⟩ := ih program
                  exact ⟨by simp only [List.map_cons, Dependency.bare, same, found], extended⟩
              | some type =>
                  dsimp only
                  rw [lowerType_bare]
                  obtain ⟨found, extended⟩ := ih (program.lowerType file type).2
                  exact ⟨by simp only [List.map_cons, Dependency.bare, same, found], extended⟩

theorem dependentClass_bare (number : Nat) (declaration : Declaration)
    (parameters : List Parameter) :
    (program.bare.dependentClass number declaration.bare parameters).1.bare =
        (program.dependentClass number declaration parameters).1.bare ∧
      (program.bare.dependentClass number declaration.bare parameters).2 =
        (program.dependentClass number declaration parameters).2.bare := by
  obtain ⟨found, extended⟩ := program.dependencies_bare declaration.file parameters.zipIdx
  refine ⟨?_, extended⟩
  unfold dependentClass
  simp only [DependentClass.bare, DependentClass.mk.injEq, Declaration.name_bare, true_and]
  exact ⟨rfl, found⟩

theorem dependentClasses_bare (declarations : List (Declaration × Nat)) :
    (program.bare.dependentClasses (declarations.map (Prod.map .bare id))).1.map .bare =
        (program.dependentClasses declarations).1.map DependentClass.bare ∧
      (program.bare.dependentClasses (declarations.map (Prod.map .bare id))).2 =
        (program.dependentClasses declarations).2.bare := by
  induction declarations generalizing program with
  | nil => exact ⟨rfl, rfl⟩
  | cons declaration others ih =>
      obtain ⟨declaration, number⟩ := declaration
      simp only [List.map_cons, Prod.map, id_eq, dependentClasses, Declaration.class?_bare]
      cases declaration.class?.bind ClassDeclaration.constructor? with
      | none => exact ih program
      | some member =>
          obtain ⟨dependent, extended⟩ := program.dependentClass_bare number declaration
            member.parameters
          dsimp only
          rw [extended]
          obtain ⟨found, further⟩ := ih (program.dependentClass number declaration
            member.parameters).2
          exact ⟨by rw [List.map_cons, List.map_cons, dependent]; exact congrArg _ found, further⟩

end Program

/-! ## Wirings -/

namespace Wiring

/-- A wiring without names is known from the types of its program, its configurations and its
classes. -/
theorem bare_congr {first second : Wiring}
    (types : first.program.onlyTypes = second.program.onlyTypes)
    (configurations : first.configurations.map Configuration.bare =
      second.configurations.map Configuration.bare)
    (classes : first.classes.map DependentClass.bare = second.classes.map DependentClass.bare) :
    first.bare = second.bare := by
  have general : ∀ {program program' : Program}
      {configurations configurations' : List Configuration}
      {classes classes' : List DependentClass}
      (distinct : (configurations.map Configuration.declaration).Nodup)
      (distinct' : (configurations'.map Configuration.declaration).Nodup)
      (distinctClasses : (classes.map DependentClass.declaration).Nodup)
      (distinctClasses' : (classes'.map DependentClass.declaration).Nodup),
      program = program' → configurations = configurations' → classes = classes' →
        (⟨program, configurations, [], classes, distinct, distinctClasses, .ofList _ _,
            .ofList _ _⟩ : Wiring) =
          ⟨program', configurations', [], classes', distinct', distinctClasses', .ofList _ _,
            .ofList _ _⟩ := by
    rintro _ _ _ _ _ _ _ _ _ _ rfl rfl rfl
    rfl
  exact general _ _ _ _ types configurations classes

/-- **Without the names of tokens, a program has the wiring that it has without texts and
descriptions.** -/
theorem ofProgram_bare (program : Program) :
    (ofProgram program.bare).bare = (ofProgram program).bare := by
  have declarations : program.bare.linkage.declarations.toList.zipIdx =
      program.linkage.declarations.toList.zipIdx.map (Prod.map Declaration.bare id) := by
    have all : program.bare.linkage.declarations.toList =
        program.linkage.declarations.toList.map .bare :=
      Array.toList_map
    rw [all, List.zipIdx_map]
  obtain ⟨classes, extended⟩ :=
    program.dependentClasses_bare program.linkage.declarations.toList.zipIdx
  rw [← declarations] at classes extended
  refine bare_congr ?_ program.configurations_bare classes
  have types (program : Program) : program.bare.onlyTypes = program.onlyTypes := rfl
  exact (congrArg Program.onlyTypes extended).trans (types _)

end Wiring

end InjectionCheck
