import InjectionCheck.Proofs.Meanings
import InjectionCheck.Proofs.Unplaced

/-!
# Linkages that number declarations differently

Two linkages find the same if under every name in every file they find declarations of one kind
that go by the same (`FindsAlike`), whatever the numbers are. Then an annotation has the same
sketch in both, up to what declarations go by, wherever the annotation and its parts stand
(`map_sketch_unplaced`), and so a declaration has the same contents
(`FindsAlike.map_contents?_eq`).
-/

set_option autoImplicit false

namespace InjectionCheck

/-! ## Declarations without places -/

/-- What is declared, spans aside. -/
def DeclarationForm.unplaced : DeclarationForm → DeclarationForm
  | .classType declaration => .classType declaration.unplaced
  | .interfaceType declaration => .interfaceType declaration.unplaced
  | .typeAlias declaration => .typeAlias declaration.unplaced
  | .binding declaration => .binding declaration.unplaced

/-- A declaration, spans and its place in the file aside. -/
def Declaration.unplaced (declaration : Declaration) : Declaration :=
  ⟨declaration.file, 0, declaration.exported, declaration.form.unplaced⟩

@[simp]
theorem DeclarationForm.name_unplaced (form : DeclarationForm) : form.unplaced.name = form.name := by
  cases form <;> rfl

@[simp]
theorem DeclarationForm.kind_unplaced (form : DeclarationForm) : form.unplaced.kind = form.kind := by
  cases form <;> rfl

@[simp]
theorem Declaration.name_unplaced (declaration : Declaration) :
    declaration.unplaced.name = declaration.name :=
  declaration.form.name_unplaced

@[simp]
theorem Declaration.kind_unplaced (declaration : Declaration) :
    declaration.unplaced.kind = declaration.kind :=
  declaration.form.kind_unplaced

@[simp]
theorem Expression.name?_unplaced (expression : Expression) :
    expression.unplaced.name? = expression.name? := by
  obtain ⟨form, span⟩ := expression
  cases form <;> rfl

theorem Parameter.map_label_unplacedAll (parameters : List Parameter) :
    (Parameter.unplacedAll parameters).map Parameter.label = parameters.map Parameter.label := by
  induction parameters with
  | nil => rfl
  | cons parameter others ih =>
      rw [unplacedAll, List.map_cons, List.map_cons, ih]
      obtain ⟨decorators, access, readonly, name, optional, type, hasDefault, span⟩ := parameter
      rfl

namespace Linkage

variable {κ : Type}

/-- Two linkages find the same under every name, up to what the numbers stand for. -/
structure FindsAlike (first second : Linkage) (look look' : Nat → κ) : Prop where
  resolve : ∀ file name,
    (first.resolve? file name).map look = (second.resolve? file name).map look'
  kinds : ∀ number number', look number = look' number' →
    first.declarations[number]?.map Declaration.kind =
      second.declarations[number']?.map Declaration.kind

variable {first second : Linkage} {look look' : Nat → κ}

theorem FindsAlike.refl (injective : Function.Injective look) : first.FindsAlike first look look :=
  ⟨fun _ _ => rfl, fun _ _ same => by rw [injective same]⟩

/-- A name is found in both linkages or in none. -/
theorem FindsAlike.find?_cases (alike : first.FindsAlike second look look') (file : Nat)
    (name : String) :
    first.find? file name = none ∧ second.find? file name = none ∨
    ∃ number declaration number' declaration', first.find? file name = some (number, declaration) ∧
      second.find? file name = some (number', declaration') ∧ look number = look' number' ∧
      declaration.kind = declaration'.kind := by
  have same := alike.resolve file name
  rw [find?, find?]
  cases found : first.resolve? file name with
  | none =>
      rw [found, Option.map_none, eq_comm, Option.map_eq_none_iff] at same
      exact .inl ⟨rfl, by rw [same]; rfl⟩
  | some number =>
      rw [found, Option.map_some, eq_comm, Option.map_eq_some_iff] at same
      obtain ⟨number', found', sameNumber⟩ := same
      have kinds := alike.kinds number number' sameNumber.symm
      rw [found', Option.bind_some, Option.bind_some]
      cases declared : first.declarations[number]? with
      | none =>
          rw [declared, Option.map_none, eq_comm, Option.map_eq_none_iff] at kinds
          exact .inl ⟨rfl, by rw [kinds]; rfl⟩
      | some declaration =>
          rw [declared, Option.map_some, eq_comm, Option.map_eq_some_iff] at kinds
          obtain ⟨declaration', declared', sameKind⟩ := kinds
          exact .inr ⟨number, declaration, number', declaration', rfl, by rw [declared']; rfl,
            sameNumber.symm, sameKind.symm⟩

/-! ## Annotations -/

/-- A name with arguments has one sketch, if the arguments have: it is looked up in both linkages
alike, and only an array without a declaration looks into its argument. -/
theorem FindsAlike.map_sketch_named (alike : first.FindsAlike second look look') (file : Nat)
    (name : String) {arguments : List TypeExpression} {span span' : Span}
    (elements : ∀ argument ∈ arguments,
      (first.sketch file argument).map look = (second.sketch file argument.unplaced).map look') :
    (first.sketch file ⟨.named name arguments, span⟩).map look =
      (second.sketch file ⟨.named name (TypeExpression.unplacedAll arguments), span'⟩).map look' := by
  have sameLength : (TypeExpression.unplacedAll arguments).isEmpty = arguments.isEmpty := by
    cases arguments <;> rfl
  rw [sketch.eq_def, sketch.eq_def]
  dsimp only
  rw [sameLength]
  generalize arguments.isEmpty = alone, Primitive.ofKeyword? name = keyword
  cases alone <;> cases keyword
  case true.some => rfl
  all_goals
    dsimp only
    rcases alike.find?_cases file name with ⟨none, none'⟩ |
      ⟨number, declaration, number', declaration', found, found', same, kind⟩
    · rw [none, none']
      obtain _ | ⟨element, _ | ⟨other, others⟩⟩ := arguments
      · rfl
      · have sameElement := elements element List.mem_cons_self
        dsimp only [TypeExpression.unplacedAll]
        split
        · rw [Sketch.map_make, Sketch.map_make, List.map_singleton, List.map_singleton, sameElement]
        · rfl
      · rfl
    · rw [found, found']
      dsimp only
      rw [kind]
      split
      · rfl
      · exact congrArg _ same

/-- The type of a name has one sketch. -/
theorem FindsAlike.map_sketch_typeOf (alike : first.FindsAlike second look look') (file : Nat)
    (name : String) {span span' : Span} :
    (first.sketch file ⟨.typeOf name, span⟩).map look =
      (second.sketch file ⟨.typeOf name, span'⟩).map look' := by
  rw [sketch, sketch]
  rcases alike.find?_cases file name with ⟨none, none'⟩ |
    ⟨number, declaration, number', declaration', found, found', same, kind⟩
  · rw [none, none']
    rfl
  · rw [found, found']
    dsimp only
    rw [kind]
    split
    · exact congrArg _ same
    · rfl

-- The sketches of types, parameters and members contain each other, so this is one induction.
mutual

/-- **An annotation has one sketch**, wherever it stands and however declarations are numbered. -/
theorem map_sketch_unplaced (alike : first.FindsAlike second look look') (file : Nat)
    (type : TypeExpression) :
    (first.sketch file type).map look = (second.sketch file type.unplaced).map look' := by
  obtain ⟨form, span⟩ := type
  rw [TypeExpression.unplaced]
  cases form with
  | named name arguments =>
      rw [TypeForm.unplaced]
      refine alike.map_sketch_named file name fun argument inside => ?_
      have := List.sizeOf_lt_of_mem inside
      exact map_sketch_unplaced alike file argument
  | array element =>
      rw [TypeForm.unplaced, sketch, sketch]
      simp only [Sketch.map_make, List.map_cons, List.map_nil, map_sketch_unplaced alike file element]
  | union members =>
      rw [TypeForm.unplaced, sketch, sketch, Sketch.map_make, Sketch.map_make,
        map_sketchAll_unplaced alike file members]
  | intersection members =>
      rw [TypeForm.unplaced, sketch, sketch, Sketch.map_make, Sketch.map_make,
        map_sketchAll_unplaced alike file members]
  | tuple elements =>
      rw [TypeForm.unplaced, sketch, sketch, Sketch.map_make, Sketch.map_make,
        map_sketchAll_unplaced alike file elements]
  | function parameters result =>
      rw [TypeForm.unplaced, sketch, sketch, Sketch.map_make, Sketch.map_make,
        Parameter.map_label_unplacedAll, List.map_append, List.map_append,
        map_sketchParameters_unplaced alike file parameters, List.map_singleton, List.map_singleton,
        map_sketch_unplaced alike file result]
  | object members =>
      have same := map_sketchMembers_unplaced alike file [] members
      rw [TypeForm.unplaced, sketch, sketch, Sketch.map_make, Sketch.map_make, same.1, same.2]
  | stringLiteral content => rw [TypeForm.unplaced, sketch, sketch]; rfl
  | typeOf name => exact alike.map_sketch_typeOf file name
  | otherLiteral => rw [TypeForm.unplaced, sketch, sketch]; rfl
  | unmodelled => rw [TypeForm.unplaced, sketch, sketch]; rfl
termination_by sizeOf type

theorem map_sketchAll_unplaced (alike : first.FindsAlike second look look') (file : Nat)
    (types : List TypeExpression) :
    (first.sketchAll file types).map (Sketch.map look) =
      (second.sketchAll file (TypeExpression.unplacedAll types)).map (Sketch.map look') := by
  cases types with
  | nil => rfl
  | cons type others =>
      rw [TypeExpression.unplacedAll, sketchAll, sketchAll, List.map_cons, List.map_cons,
        map_sketch_unplaced alike file type, map_sketchAll_unplaced alike file others]
termination_by sizeOf types

theorem map_sketchIfAny_unplaced (alike : first.FindsAlike second look look') (file : Nat)
    (type : Option TypeExpression) :
    (first.sketchIfAny file type).map look =
      (second.sketchIfAny file (TypeExpression.unplacedIfAny type)).map look' := by
  cases type with
  | none => rfl
  | some type => exact map_sketch_unplaced alike file type
termination_by sizeOf type

theorem map_sketchParameters_unplaced (alike : first.FindsAlike second look look') (file : Nat)
    (parameters : List Parameter) :
    (first.sketchParameters file parameters).map (Sketch.map look) =
      (second.sketchParameters file (Parameter.unplacedAll parameters)).map (Sketch.map look') := by
  cases parameters with
  | nil => rfl
  | cons parameter others =>
      have := parameter.sizeOf_type_lt
      have sameType : parameter.unplaced.type = TypeExpression.unplacedIfAny parameter.type := by
        cases parameter
        rfl
      rw [Parameter.unplacedAll, sketchParameters_cons, sketchParameters_cons, List.map_cons,
        List.map_cons, sameType, map_sketchIfAny_unplaced alike file parameter.type,
        map_sketchParameters_unplaced alike file others]
termination_by sizeOf parameters

theorem map_sketchMembers_unplaced (alike : first.FindsAlike second look look') (file : Nat)
    (taken : List String) (members : List TypeMember) :
    (first.sketchMembers file taken members).map Prod.fst =
      (second.sketchMembers file taken (TypeMember.unplacedAll members)).map Prod.fst ∧
    ((first.sketchMembers file taken members).map Prod.snd).map (Sketch.map look) =
      ((second.sketchMembers file taken (TypeMember.unplacedAll members)).map Prod.snd).map
        (Sketch.map look') := by
  cases members with
  | nil => exact ⟨rfl, rfl⟩
  | cons member others =>
      obtain ⟨name, optional, readonly, kind, span⟩ := member
      have skipped := map_sketchMembers_unplaced alike file taken others
      have kept := map_sketchMembers_unplaced alike file (taken ++ [name]) others
      rw [TypeMember.unplacedAll, TypeMember.unplaced]
      cases kind with
      | property type =>
          rw [TypeMemberKind.unplaced, sketchMembers, sketchMembers]
          split
          · exact skipped
          · simp only [List.map_cons, kept, map_sketchIfAny_unplaced alike file type, and_self]
      | method parameters result =>
          rw [TypeMemberKind.unplaced, sketchMembers, sketchMembers]
          split
          · exact skipped
          · simp only [List.map_cons, kept, Parameter.map_label_unplacedAll, Sketch.map_make,
              List.map_append, map_sketchParameters_unplaced alike file parameters, List.map_nil,
              map_sketchIfAny_unplaced alike file result, and_self]
termination_by sizeOf members

end

/-! ## Contents -/

/-- What the value of a binding tells is the same, wherever the value stands. -/
theorem inferred_unplaced (alike : first.FindsAlike second look look') (file : Nat)
    (initial : Expression) :
    (∃ primitive, first.inferred file initial = .inl primitive ∧
      second.inferred file initial.unplaced = .inl primitive) ∨
    ∃ number number', first.inferred file initial = .inr number ∧
      second.inferred file initial.unplaced = .inr number' ∧ look number = look' number' := by
  obtain ⟨form, span⟩ := initial
  cases form with
  | construct callee arguments =>
      simp only [inferred, Expression.unplaced, ExpressionForm.unplaced, Expression.name?_unplaced]
      cases callee.name? with
      | none => exact .inl ⟨_, rfl, rfl⟩
      | some name =>
          rw [Option.bind_some, Option.bind_some]
          rcases alike.find?_cases file name with ⟨none, none'⟩ |
            ⟨number, declaration, number', declaration', found, found', same, kind⟩
          · rw [none, none']
            exact .inl ⟨_, rfl, rfl⟩
          · rw [found, found']
            dsimp only
            rw [kind]
            split
            · exact .inr ⟨number, number', rfl, rfl, same⟩
            · exact .inl ⟨_, rfl, rfl⟩
  | call callee typeArguments arguments =>
      simp only [inferred, Expression.unplaced, ExpressionForm.unplaced, Expression.name?_unplaced]
      cases callee.name? with
      | none => exact .inl ⟨_, rfl, rfl⟩
      | some name =>
          have resolved := congrArg Option.isNone (alike.resolve file name)
          rw [Option.isNone_map, Option.isNone_map] at resolved
          dsimp only
          rw [resolved]
          split <;> exact .inl ⟨_, rfl, rfl⟩
  | _ => exact .inl ⟨_, rfl, rfl⟩

theorem map_contents?_unplaced (alike : first.FindsAlike second look look')
    (declaration : Declaration) :
    (first.contents? declaration).map (Sketch.map look) =
      (second.contents? declaration.unplaced).map (Sketch.map look') := by
  obtain ⟨file, item, exported, form⟩ := declaration
  cases form with
  | classType form => rfl
  | interfaceType form => rfl
  | typeAlias form => exact congrArg some (map_sketch_unplaced alike file form.type)
  | binding form =>
      obtain ⟨name, span, type, initial⟩ := form
      cases type with
      | some type => exact congrArg some (map_sketch_unplaced alike file type)
      | none =>
          cases initial with
          | none => rfl
          | some initial =>
              simp only [contents?, Declaration.unplaced, DeclarationForm.unplaced,
                BindingDeclaration.unplaced, Option.map_none, Option.map_some]
              rcases inferred_unplaced alike file initial with ⟨primitive, known, known'⟩ |
                ⟨number, number', constructed, constructed', same⟩
              · rw [known, known']
                rfl
              · rw [constructed, constructed']
                exact congrArg (fun target => some (Sketch.use target)) same

/-- **A declaration has the same contents**, wherever it stands and however declarations are
numbered. -/
theorem FindsAlike.map_contents?_eq (alike : first.FindsAlike second look look')
    (injective : Function.Injective look') {declaration declaration' : Declaration}
    (same : declaration.unplaced = declaration'.unplaced) :
    (first.contents? declaration).map (Sketch.map look) =
      (second.contents? declaration').map (Sketch.map look') :=
  calc (first.contents? declaration).map (Sketch.map look)
    _ = (second.contents? declaration.unplaced).map (Sketch.map look') :=
      map_contents?_unplaced alike declaration
    _ = (second.contents? declaration'.unplaced).map (Sketch.map look') := by rw [same]
    _ = (second.contents? declaration').map (Sketch.map look') :=
      (map_contents?_unplaced (.refl injective) declaration').symm

end Linkage

end InjectionCheck
