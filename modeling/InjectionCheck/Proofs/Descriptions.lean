import InjectionCheck.Program.Basic
import InjectionCheck.Validation.Token
import Mathlib.Data.List.Basic

/-!
# Descriptions of symbols

The description of a symbol that a top-level binding makes can be taken away
(`Expression.bare`). No type depends on it: a program whose declarations have no
descriptions gives its declarations the same types (`declarationTypes_bare`) and its classes
and interfaces the same shapes (`shapes_bare`), and its names refer to the same declarations
(`scopes_bare`).
-/

set_option autoImplicit false

namespace InjectionCheck

/-! ## Taking descriptions away -/

/-- An expression without the description, if it makes a symbol with one. -/
def Expression.bare : Expression → Expression
  | ⟨.call callee typeArguments (⟨.string content, inner⟩ :: others), span⟩ =>
    if Program.symbolMaker? callee = some "Symbol" then
      ⟨.call callee typeArguments (⟨.string "", inner⟩ :: others), span⟩
    else ⟨.call callee typeArguments (⟨.string content, inner⟩ :: others), span⟩
  | expression => expression

/-- A binding whose value has no description. -/
def BindingDeclaration.bare (declaration : BindingDeclaration) : BindingDeclaration :=
  { declaration with initial := declaration.initial.map .bare }

/-- What an item declares, without a description. -/
def ItemForm.bare : ItemForm → ItemForm
  | .binding declaration => .binding declaration.bare
  | other => other

/-- An item without a description. -/
def Item.bare (item : Item) : Item := { item with form := item.form.bare }

/-- What a declaration declares, without a description. -/
def DeclarationForm.bare : DeclarationForm → DeclarationForm
  | .binding declaration => .binding declaration.bare
  | other => other

/-- A declaration without a description. -/
def Declaration.bare (declaration : Declaration) : Declaration :=
  { declaration with form := declaration.form.bare }

/-- The declarations of a program without descriptions. -/
def Linkage.bare (linkage : Linkage) : Linkage :=
  { linkage with declarations := linkage.declarations.map .bare }

/-- A file without its text and without descriptions. -/
def ProgramFile.bare (file : ProgramFile) : ProgramFile :=
  ⟨{ file.source with content := [] }, ⟨file.unit.items.map .bare, []⟩⟩

/-- An expression makes a symbol with a description, or nothing is taken away. -/
theorem Expression.bare_eq (expression : Expression) :
    expression.bare = expression ∨
      ∃ callee typeArguments content inner others span,
        expression = ⟨.call callee typeArguments (⟨.string content, inner⟩ :: others), span⟩ ∧
        Program.symbolMaker? callee = some "Symbol" ∧
        expression.bare =
          ⟨.call callee typeArguments (⟨.string "", inner⟩ :: others), span⟩ := by
  unfold bare
  split
  · next callee typeArguments content inner others span =>
    split
    · next maker => exact .inr ⟨_, _, _, _, _, _, rfl, maker, rfl⟩
    · exact .inl rfl
  · exact .inl rfl

namespace Declaration

variable (declaration : Declaration)

theorem kind_bare : declaration.bare.kind = declaration.kind := by
  obtain ⟨file, item, exported, form⟩ := declaration
  cases form <;> rfl

theorem name_bare : declaration.bare.name = declaration.name := by
  obtain ⟨file, item, exported, form⟩ := declaration
  cases form <;> rfl

theorem class?_bare : declaration.bare.class? = declaration.class? := by
  obtain ⟨file, item, exported, form⟩ := declaration
  cases form <;> rfl

theorem binding?_bare : declaration.bare.binding? = declaration.binding?.map .bare := by
  obtain ⟨file, item, exported, form⟩ := declaration
  cases form <;> rfl

end Declaration

namespace Linkage

variable (linkage : Linkage)

theorem size_declarations_bare :
    linkage.bare.declarations.size = linkage.declarations.size :=
  Array.size_map ..

theorem getElem?_declarations_bare (number : Nat) :
    linkage.bare.declarations[number]? = linkage.declarations[number]?.map .bare :=
  Array.getElem?_map ..

theorem numbers_bare : linkage.bare.numbers = linkage.numbers := by
  rw [numbers, numbers, size_declarations_bare]

theorem find?_bare (file : Nat) (name : String) :
    linkage.bare.find? file name = (linkage.find? file name).map (Prod.map id .bare) := by
  have resolve : linkage.bare.resolve? file name = linkage.resolve? file name := rfl
  rw [find?, find?, resolve]
  cases linkage.resolve? file name with
  | none => rfl
  | some number =>
      simp only [Option.bind_some, getElem?_declarations_bare, Option.map_map]
      rfl

/-- What tells the type of a value is not a description. -/
theorem inferred_bare (file : Nat) (initial : Expression) :
    linkage.bare.inferred file initial.bare = linkage.inferred file initial := by
  have name (expression : Expression) :
      linkage.bare.inferred file expression = linkage.inferred file expression := by
    unfold inferred
    split
    · rfl
    · rfl
    · rfl
    · rfl
    · rfl
    · next callee _ _ =>
      cases callee.name? with
      | none => rfl
      | some name =>
          simp only [Option.bind_some, find?_bare]
          cases linkage.find? file name with
          | none => rfl
          | some found => simp only [Option.map_some, Prod.map, id_eq, Declaration.kind_bare]
    · rfl
    · rfl
  rw [name]
  rcases initial.bare_eq with same | ⟨callee, typeArguments, content, inner, others, span, rfl, -,
    bare⟩
  · rw [same]
  · rw [bare]
    rfl

/-! ## Types -/

-- The functions that lower types call each other, so these are proved together, by the same
-- recursion.
mutual

theorem lowerDeclaration_bare (path : List Nat) (table : TypeTable) (number : Nat) :
    linkage.bare.lowerDeclaration path table number =
      linkage.lowerDeclaration path table number := by
  rw [lowerDeclaration.eq_def linkage.bare, lowerDeclaration.eq_def linkage]
  split
  · rfl
  · by_cases inside : number < linkage.declarations.size
    · have insideBare : number < linkage.bare.declarations.size :=
        linkage.size_declarations_bare ▸ inside
      have same : linkage.bare.declarations[number] = linkage.declarations[number].bare :=
        Array.getElem_map ..
      rw [dif_pos inside, dif_pos insideBare, same]
      dsimp only
      rw [Declaration.name_bare]
      have form : linkage.declarations[number].bare.form =
        linkage.declarations[number].form.bare := rfl
      have file : linkage.declarations[number].bare.file =
        linkage.declarations[number].file := rfl
      rw [form, file]
      cases linkage.declarations[number].form with
      | classType form => rfl
      | interfaceType form => rfl
      | typeAlias form =>
          dsimp only [DeclarationForm.bare]
          by_cases fresh : number ∉ path
          · have := unvisited_cons_lt (List.mem_range.2 inside) fresh
            rw [dif_pos fresh, dif_pos fresh, lower_bare]
          · rw [dif_neg fresh, dif_neg fresh]
      | binding form =>
          dsimp only [DeclarationForm.bare, BindingDeclaration.bare]
          by_cases fresh : number ∉ path
          · have := unvisited_cons_lt (List.mem_range.2 inside) fresh
            rw [dif_pos fresh, dif_pos fresh]
            cases form.type with
            | some type => dsimp only; rw [lower_bare]
            | none =>
                cases form.initial with
                | none => rfl
                | some initial =>
                    dsimp only [Option.map_some]
                    rw [inferred_bare]
                    cases linkage.inferred linkage.declarations[number].file initial with
                    | inl primitive => rfl
                    | inr constructed => dsimp only; rw [lowerDeclaration_bare]
          · rw [dif_neg fresh, dif_neg fresh]
    · have outside : ¬number < linkage.bare.declarations.size := by
        rwa [size_declarations_bare]
      rw [dif_neg inside, dif_neg outside]
termination_by (unvisited linkage.numbers path, 0)

theorem lower_bare (path : List Nat) (table : TypeTable) (file : Nat) (type : TypeExpression) :
    linkage.bare.lower path table file type = linkage.lower path table file type := by
  rw [lower.eq_def linkage.bare, lower.eq_def linkage]
  split
  · next name arguments _ =>
    split
    · rfl
    · rw [find?_bare]
      cases linkage.find? file name with
      | some found =>
          dsimp only [Option.map_some, Prod.map]
          rw [Declaration.kind_bare, lowerDeclaration_bare]
          rfl
      | none =>
          dsimp only [Option.map_none]
          split
          · next element _ => rw [lower_bare]
          · rfl
  · rw [lower_bare]
  · rw [lowerAll_bare]
  · rw [lowerAll_bare]
  · rw [lowerMembers_bare]
  · rw [lowerParameters_bare]
    dsimp only
    rw [lower_bare]
  · rw [lowerAll_bare]
  · rfl
  · next name _ =>
    rw [find?_bare]
    cases linkage.find? file name with
    | some found =>
        dsimp only [Option.map_some, Prod.map]
        rw [Declaration.kind_bare, lowerDeclaration_bare]
        rfl
    | none => rfl
  · rfl
  · rfl
termination_by (unvisited linkage.numbers path, sizeOf type)

theorem lowerAll_bare (path : List Nat) (table : TypeTable) (file : Nat)
    (types : List TypeExpression) :
    linkage.bare.lowerAll path table file types = linkage.lowerAll path table file types := by
  cases types with
  | nil => rw [lowerAll, lowerAll]
  | cons type others =>
      rw [lowerAll, lowerAll, lower_bare]
      dsimp only
      rw [lowerAll_bare]
termination_by (unvisited linkage.numbers path, sizeOf types)

theorem lowerIfAny_bare (path : List Nat) (table : TypeTable) (file : Nat)
    (type : Option TypeExpression) :
    linkage.bare.lowerIfAny path table file type = linkage.lowerIfAny path table file type := by
  cases type with
  | none => rw [lowerIfAny, lowerIfAny]
  | some type => rw [lowerIfAny, lowerIfAny, lower_bare]
termination_by (unvisited linkage.numbers path, sizeOf type)

theorem lowerParameters_bare (path : List Nat) (table : TypeTable) (file : Nat)
    (parameters : List Parameter) :
    linkage.bare.lowerParameters path table file parameters =
      linkage.lowerParameters path table file parameters := by
  cases parameters with
  | nil => rw [lowerParameters, lowerParameters]
  | cons parameter others =>
      have := parameter.sizeOf_type_lt
      rw [lowerParameters, lowerParameters, lowerIfAny_bare]
      dsimp only
      rw [lowerParameters_bare]
termination_by (unvisited linkage.numbers path, sizeOf parameters)

theorem lowerMembers_bare (path : List Nat) (table : TypeTable) (file : Nat)
    (before : List Member) (members : List TypeMember) :
    linkage.bare.lowerMembers path table file before members =
      linkage.lowerMembers path table file before members := by
  cases members with
  | nil => rw [lowerMembers, lowerMembers]
  | cons member others =>
      rw [lowerMembers.eq_def linkage.bare, lowerMembers.eq_def linkage]
      dsimp only
      split
      · rw [lowerMembers_bare]
      · obtain ⟨_, _, _, form, _⟩ := member
        cases form with
        | property type =>
            dsimp only
            rw [lowerIfAny_bare, lowerMembers_bare]
        | method parameters result =>
            dsimp only
            rw [lowerMethod_bare, lowerMembers_bare]
termination_by (unvisited linkage.numbers path, sizeOf members)

theorem lowerMethod_bare (path : List Nat) (table : TypeTable) (file : Nat)
    (parameters : List Parameter) (result : Option TypeExpression) :
    linkage.bare.lowerMethod path table file parameters result =
      linkage.lowerMethod path table file parameters result := by
  rw [lowerMethod, lowerMethod, lowerParameters_bare]
  dsimp only
  rw [lowerIfAny_bare]
termination_by (unvisited linkage.numbers path, sizeOf parameters + sizeOf result + 1)

end

/-- A bare linkage starts from the same table. -/
theorem empty_bare : TypeTable.empty linkage.bare = TypeTable.empty linkage := by
  rw [TypeTable.empty, TypeTable.empty, size_declarations_bare]

theorem declarationTypes_bare (table : TypeTable) :
    linkage.bare.declarationTypes table = linkage.declarationTypes table := by
  simp only [declarationTypes, numbers_bare, lowerDeclaration_bare]

/-! ## Shapes -/

theorem addParameterProperties_bare (file : Nat) (state : List Member × TypeTable)
    (parameters : List Parameter) :
    linkage.bare.addParameterProperties file state parameters =
      linkage.addParameterProperties file state parameters := by
  induction parameters generalizing state with
  | nil => rfl
  | cons parameter others ih =>
      rw [addParameterProperties, addParameterProperties, lowerIfAny_bare]
      split <;> exact ih _

theorem addClassMember_bare (file : Nat) (state : List Member × TypeTable)
    (member : ClassMember) :
    linkage.bare.addClassMember file state member = linkage.addClassMember file state member := by
  cases member with
  | property property => rw [addClassMember, addClassMember, lowerIfAny_bare]
  | method method => rw [addClassMember, addClassMember, lowerMethod_bare]
  | constructor member => exact linkage.addParameterProperties_bare file state member.parameters

theorem ownMembers_bare (table : TypeTable) (declaration : Declaration) :
    linkage.bare.ownMembers table declaration.bare = linkage.ownMembers table declaration := by
  have members : linkage.bare.addClassMember = linkage.addClassMember := by
    funext file state member
    exact linkage.addClassMember_bare file state member
  obtain ⟨file, item, exported, form⟩ := declaration
  cases form with
  | classType form => simp only [ownMembers, Declaration.bare, DeclarationForm.bare, members]
  | interfaceType form => exact linkage.lowerMembers_bare [] table file [] form.members
  | typeAlias form => rfl
  | binding form => rfl

theorem parents_bare (file : Nat) (accepts : DeclarationKind → Bool) (names : List NameUse) :
    linkage.bare.parents file accepts names = linkage.parents file accepts names := by
  refine List.filterMap_congr fun use _ => ?_
  rw [find?_bare]
  cases linkage.find? file use.name with
  | none => rfl
  | some found => simp only [Option.map_some, Prod.map, id_eq, Option.bind_some,
      Declaration.kind_bare]

theorem parentsOf_bare (declaration : Declaration) :
    linkage.bare.parentsOf declaration.bare = linkage.parentsOf declaration := by
  obtain ⟨file, item, exported, form⟩ := declaration
  cases form with
  | classType form => simp only [parentsOf, Declaration.bare, DeclarationForm.bare, parents_bare]
  | interfaceType form =>
      simp only [parentsOf, Declaration.bare, DeclarationForm.bare, parents_bare]
  | typeAlias form => rfl
  | binding form => rfl

theorem base?_bare (declaration : Declaration) :
    linkage.bare.base? declaration.bare = linkage.base? declaration := by
  have file : declaration.bare.file = declaration.file := rfl
  simp only [base?, Declaration.class?_bare, parents_bare, file]

mutual

theorem computeShape_bare (path : List Nat) (table : ShapeTable) (number : Nat) :
    linkage.bare.computeShape path table number = linkage.computeShape path table number := by
  rw [computeShape.eq_def linkage.bare, computeShape.eq_def linkage]
  split
  · rfl
  · by_cases inside : number < linkage.declarations.size
    · have insideBare : number < linkage.bare.declarations.size :=
        linkage.size_declarations_bare ▸ inside
      have same : linkage.bare.declarations[number] = linkage.declarations[number].bare :=
        Array.getElem_map ..
      rw [dif_pos inside, dif_pos insideBare]
      by_cases fresh : number ∉ path
      · have := unvisited_cons_lt (List.mem_range.2 inside) fresh
        rw [dif_pos fresh, dif_pos fresh, same]
        dsimp only
        rw [ownMembers_bare, parentsOf_bare, base?_bare, inherit_bare]
      · rw [dif_neg fresh, dif_neg fresh]
    · have outside : ¬number < linkage.bare.declarations.size := by
        rwa [size_declarations_bare]
      rw [dif_neg inside, dif_neg outside]
termination_by (unvisited linkage.numbers path, 0)

theorem inherit_bare (path : List Nat) (table : ShapeTable) (members : List Member)
    (parents : List Nat) :
    linkage.bare.inherit path table members parents =
      linkage.inherit path table members parents := by
  cases parents with
  | nil => rw [inherit, inherit]
  | cons parent others =>
      rw [inherit, inherit, computeShape_bare, inherit_bare]
termination_by (unvisited linkage.numbers path, parents.length + 1)

end

/-- **Descriptions are irrelevant for the shapes of classes and interfaces.** -/
theorem shapes_bare (types : TypeTable) : linkage.bare.shapes types = linkage.shapes types := by
  have shaped : linkage.bare.shaped = linkage.shaped := by
    rw [Linkage.shaped, Linkage.shaped, numbers_bare]
    refine List.filter_congr fun number _ => ?_
    rw [getElem?_declarations_bare]
    cases linkage.declarations[number]? with
    | none => rfl
    | some declaration => simp only [Option.map_some, Option.any_some, Declaration.kind_bare]
  have compute : linkage.bare.computeShape [] = linkage.computeShape [] := by
    funext table number
    exact linkage.computeShape_bare [] table number
  have empty : ShapeTable.empty linkage.bare types = ShapeTable.empty linkage types := by
    rw [ShapeTable.empty, ShapeTable.empty, size_declarations_bare]
  rw [shapes, shapes, shaped, compute, empty]

end Linkage

/-! ## Names -/

/-- The declarations among items are found without looking at descriptions. -/
theorem Declaration.ofItems_bare (file : Nat) (items : List Item) :
    Declaration.ofItems file (items.map .bare) = (Declaration.ofItems file items).map .bare := by
  rw [ofItems, ofItems, List.zipIdx_map, List.filterMap_map, List.map_filterMap]
  refine List.filterMap_congr fun ⟨⟨form, exported, span⟩, place⟩ _ => ?_
  cases form <;> rfl

theorem Linkage.collect_bare (files : List ProgramFile) :
    Linkage.collect (files.map .bare) = (Linkage.collect files).map .bare := by
  rw [collect, collect, List.zipIdx_map, List.flatMap_map, List.map_flatMap]
  refine List.flatMap_congr fun ⟨file, number⟩ _ => ?_
  exact Declaration.ofItems_bare number file.unit.items

namespace ProgramFile

variable (file : ProgramFile)

theorem imports_bare : file.bare.imports = file.imports := by
  rw [imports, imports, bare, List.filterMap_map]
  refine List.filterMap_congr fun ⟨form, exported, span⟩ _ => ?_
  cases form <;> rfl

theorem exports_bare : file.bare.exports = file.exports := by
  rw [exports, exports, bare, List.filterMap_map]
  refine List.filterMap_congr fun ⟨form, exported, span⟩ _ => ?_
  cases form <;> rfl

end ProgramFile

/-- The declarations of a program with their numbers. -/
def numbered (declarations : List Declaration) : List (Nat × Declaration) :=
  declarations.zipIdx.map fun (declaration, number) => (number, declaration)

theorem numbered_bare (declarations : List Declaration) :
    numbered (declarations.map .bare) = (numbered declarations).map (Prod.map id .bare) := by
  rw [numbered, numbered, List.zipIdx_map, List.map_map, List.map_map]
  rfl

theorem FileNames.ofFile_bare (declarations : List (Nat × Declaration)) (number : Nat)
    (file : ProgramFile) :
    FileNames.ofFile (declarations.map (Prod.map id .bare)) number file.bare =
      FileNames.ofFile declarations number file := by
  rw [ofFile, ofFile, List.filter_map]
  simp only [ProgramFile.imports_bare, ProgramFile.exports_bare, List.map_map,
    List.filterMap_map, Function.comp_def, Prod.map, id_eq, Declaration.name_bare]
  rfl

/-- Files export the same without descriptions. -/
theorem Exports.ofFiles_bare (declarations : List (Nat × Declaration))
    (files : List ProgramFile) :
    Exports.ofFiles (declarations.map (Prod.map id .bare)) (files.map .bare) =
      Exports.ofFiles declarations files := by
  rw [ofFiles, ofFiles, List.zipIdx_map, List.map_map, List.map_map]
  simp only [Function.comp_def, Prod.map, id_eq, FileNames.ofFile_bare]
  rfl

namespace Imported

variable (exports : Exports)

/-- What is in scope after a name has been followed does not depend on what is warned of. -/
theorem scope_bind (source source' : SourceFile) (declaration : ImportDeclaration) (target : Nat)
    {imported imported' : Imported} (same : imported.scope = imported'.scope)
    (specifier : ImportSpecifier) :
    (bind exports source declaration target imported specifier).scope =
      (bind exports source' declaration target imported' specifier).scope := by
  rw [bind, bind, same]
  cases imported'.scope.lookup specifier.localName with
  | some number => exact same
  | none =>
      cases exports.find? target specifier.importedName with
      | some number => rfl
      | none => rfl

theorem scope_follow {source source' : SourceFile} (path : source.path = source'.path)
    {imported imported' : Imported} (same : imported.scope = imported'.scope)
    (declaration : ImportDeclaration) :
    (follow exports source imported declaration).scope =
      (follow exports source' imported' declaration).scope := by
  rw [follow, follow, path]
  cases exports.destination source'.path declaration.source with
  | package => exact same
  | missing => exact same
  | file target =>
      dsimp only
      induction declaration.specifiers generalizing imported imported' with
      | nil => exact same
      | cons specifier others ih =>
          exact ih (scope_bind exports source source' declaration target same specifier)

/-- **The scope of a file does not depend on its text or on descriptions in it.** -/
theorem scope_ofFile_bare (names : FileNames) (file : ProgramFile) :
    (ofFile exports names file.bare).scope = (ofFile exports names file).scope := by
  rw [ofFile, ofFile, ProgramFile.imports_bare]
  have general : ∀ (imports : List ImportDeclaration) (before after : Imported),
      before.scope = after.scope →
        (imports.foldl (follow exports file.bare.source) before).scope =
          (imports.foldl (follow exports file.source) after).scope := by
    intro imports
    induction imports with
    | nil => exact fun _ _ same => same
    | cons declaration others ih =>
        have path : file.bare.source.path = file.source.path := rfl
        exact fun _ _ same => ih _ _ (scope_follow exports path same declaration)
  exact general file.imports _ _ rfl

end Imported

theorem Exports.scopes_bare (exports : Exports) (files : List ProgramFile) :
    (exports.scopes (files.map .bare)).map Imported.scope =
      (exports.scopes files).map Imported.scope := by
  rw [scopes, scopes, List.zip_map_right, List.map_map, List.map_map, List.map_map]
  refine List.map_congr_left fun ⟨names, file⟩ _ => ?_
  exact Imported.scope_ofFile_bare exports names file

/-! ## Programs -/

/-- A program without its texts and without descriptions. -/
def Program.bare (program : Program) : Program :=
  { program with files := #[], linkage := program.linkage.bare, diagnostics := [] }

/-- The program of some files as far as texts and descriptions are irrelevant for it. -/
def Program.ofBareFiles (files : List ProgramFile) : Program :=
  let declarations := (Linkage.collect files).toArray
  let exports := Exports.ofFiles (numbered declarations.toList) files
  let linkage : Linkage := ⟨declarations, ((exports.scopes files).map Imported.scope).toArray⟩
  let (declarationTypes, types) := linkage.declarationTypes (.empty linkage)
  { files := #[]
    linkage
    diagnostics := []
    declarationTypes
    table := linkage.shapes types }

/-- **Without texts and descriptions, a program is the one that its files make without
them.** -/
theorem Program.bare_ofFiles (sources : List SourceFile) :
    (Program.ofFiles sources).bare =
      .ofBareFiles ((sources.map fun source => (ProgramFile.ofSource source).1).map .bare) := by
  have files : (sources.map ProgramFile.ofSource).map Prod.fst =
      sources.map fun source => (ProgramFile.ofSource source).1 := List.map_map
  generalize sources.map (fun source => (ProgramFile.ofSource source).1) = parsed at files ⊢
  have exports := Exports.ofFiles_bare (numbered (Linkage.collect parsed)) parsed
  rw [← numbered_bare] at exports
  have linkage : (⟨((Linkage.collect parsed).map Declaration.bare).toArray,
      (((Exports.ofFiles (numbered (Linkage.collect parsed)) parsed).scopes parsed).map
        Imported.scope).toArray⟩ : Linkage) =
      Linkage.bare ⟨(Linkage.collect parsed).toArray,
        (((Exports.ofFiles (numbered (Linkage.collect parsed)) parsed).scopes parsed).map
          Imported.scope).toArray⟩ := by
    rw [Linkage.bare, List.map_toArray]
  simp only [ofBareFiles, Linkage.collect_bare, exports, Exports.scopes_bare, linkage,
    Linkage.empty_bare, Linkage.declarationTypes_bare, Linkage.shapes_bare]
  simp only [ofFiles, files, bare]
  rfl

end InjectionCheck
