import InjectionCheck.Types.Lowering

/-!
# Sketches of types

What an annotation means is made of a few ingredients: primitive types, the declarations that its
names refer to, and recipes that make a type of others. A sketch keeps these and nothing else: no
spans, no names that are resolved, and no type arguments and members that are not looked at. To
lower an annotation is to lower its sketch (`lower_eq`), one ingredient after another, and a
declaration that is not known yet gets the type of its sketch (`lowerDeclaration_eq`).
-/

set_option autoImplicit false

namespace InjectionCheck

/-! ## Recipes -/

/-- What a function type says of a parameter besides its type. -/
structure ParameterLabel where
  name : String
  optional : Bool
deriving DecidableEq, Repr

/-- What an object type says of a member besides its type. -/
structure MemberLabel where
  name : String
  optional : Bool
  access : Access
  isMethod : Bool
deriving DecidableEq, Repr

/-- The parameter with a label and a type. -/
def ParameterLabel.parameter (label : ParameterLabel) (type : TypeIndex) : TypeParameter :=
  ⟨label.name, type, label.optional⟩

/-- The member with a label and a type. -/
def MemberLabel.member (label : MemberLabel) (type : TypeIndex) : Member :=
  ⟨label.name, label.optional, label.access, type, label.isMethod⟩

/-- How a type is made of its parts. -/
inductive Recipe where
  | unresolved (name : String)
  | stringLiteral (content : String)
  | array
  | tuple
  | union
  | intersection
  /-- The parts are the types of the parameters, and then the result. -/
  | function (parameters : List ParameterLabel)
  | object (members : List MemberLabel)
deriving DecidableEq, Repr

namespace Recipe

/-- How many parts a recipe takes. -/
def Takes (count : Nat) : Recipe → Prop
  | .unresolved _ | .stringLiteral _ => count = 0
  | .array => count = 1
  | .tuple | .union | .intersection => True
  | .function parameters => count = parameters.length + 1
  | .object members => count = members.length

/-- The type that a recipe makes of its parts. -/
def build (types : List TypeIndex) (pool : Pool) : Recipe → TypeIndex × Pool
  | .unresolved name => pool.unresolved name
  | .stringLiteral content => pool.stringLiteral content
  | .array => pool.array (types.headD .error)
  | .tuple => pool.tuple types
  | .union => pool.union types
  | .intersection => pool.intersection types
  | .function parameters =>
    pool.function (List.zipWith ParameterLabel.parameter parameters types) (types.getLastD .error)
  | .object members => pool.object (List.zipWith MemberLabel.member members types)

end Recipe

/-- What stands behind as many parts as there are labels has no label. -/
theorem zipWith_concat {α β γ : Type} {combine : α → β → γ} {labels : List α} {parts : List β}
    (same : parts.length = labels.length) (last : β) :
    List.zipWith combine labels (parts ++ [last]) = List.zipWith combine labels parts := by
  induction labels generalizing parts with
  | nil => rw [List.zipWith_nil_left, List.zipWith_nil_left]
  | cons label labels ih =>
      cases parts with
      | nil => cases same
      | cons part parts => exact congrArg (_ :: ·) (ih (Nat.succ.inj same))

namespace Recipe

theorem build_function {labels : List ParameterLabel} {types : List TypeIndex}
    (same : types.length = labels.length) (result : TypeIndex) (pool : Pool) :
    build (types ++ [result]) pool (.function labels) =
      pool.function (List.zipWith ParameterLabel.parameter labels types) result := by
  rw [build, zipWith_concat same, List.getLastD_concat]

end Recipe

/-! ## Sketches -/

/-- A type as the types it uses and what is made of them. -/
inductive Sketch (α : Type) where
  | known (primitive : Primitive)
  | use (target : α)
  | make (recipe : Recipe) (parts : List (Sketch α))

namespace Sketch

variable {α β γ : Type}

mutual

/-- The value of a sketch, given the values of its ingredients. -/
def fold (known : Primitive → β) (use : α → β) (make : Recipe → List β → β) : Sketch α → β
  | .known primitive => known primitive
  | .use target => use target
  | .make recipe parts => make recipe (foldAll known use make parts)

/-- The values of some sketches. -/
def foldAll (known : Primitive → β) (use : α → β) (make : Recipe → List β → β) :
    List (Sketch α) → List β
  | [] => []
  | part :: others => fold known use make part :: foldAll known use make others

end

theorem foldAll_eq (known : Primitive → β) (use : α → β) (make : Recipe → List β → β)
    (parts : List (Sketch α)) :
    foldAll known use make parts = parts.map (fold known use make) := by
  induction parts with
  | nil => rfl
  | cons part others ih => rw [foldAll, ih, List.map_cons]

theorem fold_make (known : Primitive → β) (use : α → β) (make : Recipe → List β → β)
    (recipe : Recipe) (parts : List (Sketch α)) :
    fold known use make (.make recipe parts) = make recipe (parts.map (fold known use make)) := by
  rw [fold, foldAll_eq]

/-- What holds of a recipe's product if it holds of the parts holds of all sketches. -/
@[elab_as_elim]
theorem induction_on {motive : Sketch α → Prop} (sketch : Sketch α)
    (known : ∀ primitive, motive (.known primitive)) (use : ∀ target, motive (.use target))
    (make : ∀ recipe parts, (∀ part ∈ parts, motive part) → motive (.make recipe parts)) :
    motive sketch := by
  match sketch with
  | .known primitive => exact known primitive
  | .use target => exact use target
  | .make recipe parts =>
    exact make recipe parts fun part inside => induction_on part known use make
termination_by sizeOf sketch
decreasing_by
  have := List.sizeOf_lt_of_mem inside
  simp only [Sketch.make.sizeOf_spec]
  omega

/-- The sketch with other uses. -/
def map (change : α → β) : Sketch α → Sketch β :=
  fold .known (fun target => .use (change target)) .make

@[simp]
theorem map_known (change : α → β) (primitive : Primitive) :
    map change (.known primitive) = .known primitive := rfl

@[simp]
theorem map_use (change : α → β) (target : α) :
    map change (.use target) = .use (change target) := rfl

@[simp]
theorem map_make (change : α → β) (recipe : Recipe) (parts : List (Sketch α)) :
    map change (.make recipe parts) = .make recipe (parts.map (map change)) :=
  fold_make ..

/-- What a sketch uses. -/
def uses : Sketch α → List α := fold (fun _ => []) (fun target => [target]) fun _ => List.flatten

@[simp]
theorem uses_known (primitive : Primitive) : uses (.known primitive : Sketch α) = [] := rfl

@[simp]
theorem uses_use (target : α) : uses (.use target) = [target] := rfl

@[simp]
theorem uses_make (recipe : Recipe) (parts : List (Sketch α)) :
    uses (.make recipe parts) = parts.flatMap uses :=
  fold_make ..

/-- A sketch with other uses uses these. -/
theorem uses_map (change : α → β) (sketch : Sketch α) :
    (sketch.map change).uses = sketch.uses.map change := by
  induction sketch using induction_on with
  | known primitive => rfl
  | use target => rfl
  | make recipe parts ih =>
      rw [map_make, uses_make, uses_make, List.flatMap_map, List.map_flatMap, List.flatMap_def,
        List.flatMap_def, List.map_congr_left ih]

/-- Every recipe of a sketch is given as many parts as it takes. -/
def Fits : Sketch α → Prop :=
  fold (fun _ => True) (fun _ => True) fun recipe parts =>
    recipe.Takes parts.length ∧ ∀ part ∈ parts, part

@[simp]
theorem fits_known (primitive : Primitive) : Fits (.known primitive : Sketch α) := trivial

@[simp]
theorem fits_use (target : α) : Fits (.use target) := trivial

@[simp]
theorem fits_make {recipe : Recipe} {parts : List (Sketch α)} :
    Fits (.make recipe parts) ↔ recipe.Takes parts.length ∧ ∀ part ∈ parts, part.Fits := by
  rw [Fits, fold_make, List.length_map, List.forall_mem_map]

/-- A sketch is that of a function type. -/
def IsFunction (sketch : Sketch α) : Prop := ∃ labels parts, sketch = .make (.function labels) parts

/-- The members of an object type are public and have different names, and its methods are
functions. -/
def OrderlyMembers (parts : List (Sketch α)) : Recipe → Prop
  | .object labels => (labels.map MemberLabel.name).Nodup ∧ ∀ part ∈ labels.zip parts,
    part.1.access = .public_ ∧ (part.1.isMethod = true → part.2.IsFunction)
  | _ => True

/-- Every recipe of a sketch is given as many parts as it takes, and object types are in order. -/
inductive Orderly : Sketch α → Prop where
  | known (primitive : Primitive) : Orderly (.known primitive)
  | use (target : α) : Orderly (.use target)
  | make {recipe : Recipe} {parts : List (Sketch α)} (takes : recipe.Takes parts.length)
    (members : OrderlyMembers parts recipe) (all : ∀ part ∈ parts, Orderly part) :
    Orderly (.make recipe parts)

theorem Orderly.fits {sketch : Sketch α} (orderly : sketch.Orderly) : sketch.Fits := by
  induction orderly with
  | known primitive => exact fits_known primitive
  | use target => exact fits_use target
  | make takes _ _ ih => exact fits_make.2 ⟨takes, ih⟩

/-! ## Lowering a sketch -/

/-- The types that some steps give one after another. -/
def inOrder : List (TypeTable → TypeIndex × TypeTable) → TypeTable → List TypeIndex × TypeTable
  | [], table => ([], table)
  | step :: others, table =>
    let (type, table) := step table
    let (types, table) := inOrder others table
    (type :: types, table)

/-- Lowers a sketch, part after part, given how the types it uses are lowered. -/
def lower (lowerUse : TypeTable → α → TypeIndex × TypeTable) :
    Sketch α → TypeTable → TypeIndex × TypeTable :=
  fold (fun primitive table => (.ofPrimitive primitive, table))
    (fun target table => lowerUse table target)
    fun recipe parts table =>
      let (types, table) := inOrder parts table
      table.make (recipe.build types)

variable {lowerUse : TypeTable → α → TypeIndex × TypeTable} {table : TypeTable}

@[simp]
theorem lower_known (primitive : Primitive) :
    lower lowerUse (.known primitive) table = (.ofPrimitive primitive, table) := rfl

@[simp]
theorem lower_use (target : α) : lower lowerUse (.use target) table = lowerUse table target := rfl

/-- Lowers some sketches, one after another. -/
def lowerAll (lowerUse : TypeTable → α → TypeIndex × TypeTable) (parts : List (Sketch α))
    (table : TypeTable) : List TypeIndex × TypeTable :=
  inOrder (parts.map (lower lowerUse)) table

@[simp]
theorem lower_make (recipe : Recipe) (parts : List (Sketch α)) :
    lower lowerUse (.make recipe parts) table =
      (lowerAll lowerUse parts table).2.make (recipe.build (lowerAll lowerUse parts table).1) := by
  rw [lower, fold_make]
  rfl

@[simp]
theorem lowerAll_nil : lowerAll lowerUse [] table = ([], table) := rfl

@[simp]
theorem lowerAll_cons (part : Sketch α) (others : List (Sketch α)) :
    lowerAll lowerUse (part :: others) table =
      ((lower lowerUse part table).1 :: (lowerAll lowerUse others (lower lowerUse part table).2).1,
        (lowerAll lowerUse others (lower lowerUse part table).2).2) := rfl

theorem lowerAll_append (parts others : List (Sketch α)) :
    lowerAll lowerUse (parts ++ others) table =
      ((lowerAll lowerUse parts table).1 ++
          (lowerAll lowerUse others (lowerAll lowerUse parts table).2).1,
        (lowerAll lowerUse others (lowerAll lowerUse parts table).2).2) := by
  induction parts generalizing table with
  | nil => rfl
  | cons part rest ih => rw [List.cons_append, lowerAll_cons, lowerAll_cons, ih]; rfl

theorem length_lowerAll (parts : List (Sketch α)) :
    (lowerAll lowerUse parts table).1.length = parts.length := by
  induction parts generalizing table with
  | nil => rfl
  | cons part rest ih => simp [ih]

end Sketch

/-! ## Sketches of annotations -/

/-- What a function type says of a parameter. -/
def Parameter.label (parameter : Parameter) : ParameterLabel :=
  ⟨parameter.name, parameter.isOptional⟩

namespace Linkage

variable (linkage : Linkage)

mutual

/-- The sketch of an annotation in a file. -/
def sketch (file : Nat) : TypeExpression → Sketch Nat
  | ⟨.named name arguments, _⟩ =>
    match arguments.isEmpty, Primitive.ofKeyword? name with
    | true, some primitive => .known primitive
    | _, _ =>
      match linkage.find? file name with
      | some (number, declaration) =>
        if declaration.kind = .binding then .known .error else .use number
      | none =>
        match arguments with
        | [element] =>
          if isArrayName name then .make .array [sketch file element]
          else .make (.unresolved name) []
        | _ => .make (.unresolved name) []
  | ⟨.array element, _⟩ => .make .array [sketch file element]
  | ⟨.union members, _⟩ => .make .union (sketchAll file members)
  | ⟨.intersection members, _⟩ => .make .intersection (sketchAll file members)
  | ⟨.tuple elements, _⟩ => .make .tuple (sketchAll file elements)
  | ⟨.function parameters result, _⟩ =>
    .make (.function (parameters.map Parameter.label))
      (sketchParameters file parameters ++ [sketch file result])
  | ⟨.object members, _⟩ =>
    let members := sketchMembers file [] members
    .make (.object (members.map Prod.fst)) (members.map Prod.snd)
  | ⟨.stringLiteral content, _⟩ => .make (.stringLiteral content) []
  | ⟨.typeOf name, _⟩ =>
    match linkage.find? file name with
    | some (number, declaration) =>
      if declaration.kind = .binding then .use number else .known .error
    | none => .known .error
  | ⟨.otherLiteral, _⟩ | ⟨.unmodelled, _⟩ => .known .error

/-- The sketches of some annotations. -/
def sketchAll (file : Nat) : List TypeExpression → List (Sketch Nat)
  | [] => []
  | type :: others => sketch file type :: sketchAll file others

/-- The sketch of an annotation that may be left out. -/
def sketchIfAny (file : Nat) : Option TypeExpression → Sketch Nat
  | none => .known .any
  | some type => sketch file type

/-- The sketches of the types of some parameters. -/
def sketchParameters (file : Nat) : List Parameter → List (Sketch Nat)
  | [] => []
  | ⟨_, _, _, _, _, type, _, _⟩ :: others => sketchIfAny file type :: sketchParameters file others

/-- The members of an object type whose names are not taken, with the sketches of their types. -/
def sketchMembers (file : Nat) (taken : List String) :
    List TypeMember → List (MemberLabel × Sketch Nat)
  | [] => []
  | ⟨name, optional, _, .property type, _⟩ :: others =>
    if name ∈ taken then sketchMembers file taken others
    else (⟨name, optional, .public_, false⟩, sketchIfAny file type) ::
      sketchMembers file (taken ++ [name]) others
  | ⟨name, optional, _, .method parameters result, _⟩ :: others =>
    if name ∈ taken then sketchMembers file taken others
    else
      (⟨name, optional, .public_, true⟩, .make (.function (parameters.map Parameter.label))
        (sketchParameters file parameters ++ [sketchIfAny file result])) ::
        sketchMembers file (taken ++ [name]) others

end

theorem sketchParameters_cons (file : Nat) (parameter : Parameter) (others : List Parameter) :
    linkage.sketchParameters file (parameter :: others) =
      linkage.sketchIfAny file parameter.type :: linkage.sketchParameters file others := by
  cases parameter
  rfl

theorem length_sketchParameters (file : Nat) (parameters : List Parameter) :
    (linkage.sketchParameters file parameters).length = parameters.length := by
  induction parameters with
  | nil => rfl
  | cons parameter others ih => rw [sketchParameters_cons, List.length_cons, ih, List.length_cons]

/-! ### Sketches are in order -/

/-- A function type has a part for each parameter, and one for the result. -/
theorem takes_function (file : Nat) (parameters : List Parameter) (result : Sketch Nat) :
    (Recipe.function (parameters.map Parameter.label)).Takes
      (linkage.sketchParameters file parameters ++ [result]).length := by
  rw [Recipe.Takes, List.length_append, length_sketchParameters, List.length_map]
  rfl

/-- A method has a function type. -/
theorem orderly_method (file : Nat) {parameters : List Parameter} {result : Sketch Nat}
    (orderly : result.Orderly)
    (all : ∀ part ∈ linkage.sketchParameters file parameters, part.Orderly) :
    (Sketch.make (.function (parameters.map Parameter.label))
      (linkage.sketchParameters file parameters ++ [result])).Orderly :=
  .make (linkage.takes_function file parameters result) trivial
    (List.forall_mem_append.2 ⟨all, List.forall_mem_singleton.2 orderly⟩)

/-- The members of an object type are in order. -/
theorem orderlyMembers_sketchMembers (file : Nat) (taken : List String)
    (members : List TypeMember) :
    let sketched := linkage.sketchMembers file taken members
    (sketched.map fun member => member.1.name).Nodup ∧ ∀ member ∈ sketched,
      member.1.name ∉ taken ∧ member.1.access = .public_ ∧
        (member.1.isMethod = true → member.2.IsFunction) := by
  induction members generalizing taken with
  | nil => exact ⟨List.nodup_nil, nofun⟩
  | cons member others ih =>
      obtain ⟨name, optional, readonly, kind, span⟩ := member
      have free : ∀ first : MemberLabel × Sketch Nat, first.1.name = name →
          first.1.access = .public_ ∧ (first.1.isMethod = true → first.2.IsFunction) →
          name ∉ taken →
          let sketched := first :: linkage.sketchMembers file (taken ++ [name]) others
          (sketched.map fun member => member.1.name).Nodup ∧ ∀ member ∈ sketched,
            member.1.name ∉ taken ∧ member.1.access = .public_ ∧
              (member.1.isMethod = true → member.2.IsFunction) := by
        rintro first rfl inOrder notTaken
        obtain ⟨distinct, all⟩ := ih (taken ++ [first.1.name])
        refine ⟨List.nodup_cons.2 ⟨fun again => ?_, distinct⟩,
          List.forall_mem_cons.2 ⟨⟨notTaken, inOrder⟩, fun member inside => ?_⟩⟩
        · obtain ⟨member, inside, same⟩ := List.mem_map.1 again
          exact (all member inside).1 (List.mem_append_right _ (List.mem_singleton.2 same))
        · exact ⟨fun isTaken => (all member inside).1 (List.mem_append_left _ isTaken),
            (all member inside).2⟩
      cases kind with
      | property type =>
          rw [sketchMembers]
          split
          · exact ih taken
          · next notTaken => exact free _ rfl ⟨rfl, nofun⟩ notTaken
      | method parameters result =>
          rw [sketchMembers]
          split
          · exact ih taken
          · next notTaken => exact free _ rfl ⟨rfl, fun _ => ⟨_, _, rfl⟩⟩ notTaken

-- The sketches of types, parameters and members contain each other, so this is one induction.
mutual

theorem orderly_sketch (file : Nat) (type : TypeExpression) :
    (linkage.sketch file type).Orderly := by
  obtain ⟨form, span⟩ := type
  cases form with
  | named name arguments =>
      rw [sketch.eq_def]
      dsimp only
      split
      · exact .known _
      · split
        · split
          · exact .known _
          · exact .use _
        · match arguments with
          | [element] =>
              have part := orderly_sketch file element
              dsimp only
              split
              · exact .make rfl trivial (List.forall_mem_singleton.2 part)
              · exact .make rfl trivial nofun
          | [] => exact .make rfl trivial nofun
          | _ :: _ :: _ => exact .make rfl trivial nofun
  | array element =>
      rw [sketch]
      exact .make rfl trivial (List.forall_mem_singleton.2 (orderly_sketch file element))
  | union members =>
      rw [sketch]
      exact .make trivial trivial (orderly_sketchAll file members)
  | intersection members =>
      rw [sketch]
      exact .make trivial trivial (orderly_sketchAll file members)
  | tuple elements =>
      rw [sketch]
      exact .make trivial trivial (orderly_sketchAll file elements)
  | function parameters result =>
      rw [sketch]
      exact linkage.orderly_method file (orderly_sketch file result)
        (orderly_sketchParameters file parameters)
  | object members =>
      rw [sketch]
      obtain ⟨distinct, all⟩ := linkage.orderlyMembers_sketchMembers file [] members
      refine .make ?_ ⟨?_, ?_⟩ (orderly_sketchMembers file [] members)
      · rw [Recipe.Takes, List.length_map, List.length_map]
      · rwa [List.map_map]
      · rw [List.zip_map', List.map_id']
        exact fun member inside => (all member inside).2
  | stringLiteral content =>
      rw [sketch]
      exact .make rfl trivial nofun
  | typeOf name =>
      rw [sketch]
      split
      · split
        · exact .use _
        · exact .known _
      · exact .known _
  | otherLiteral => rw [sketch]; exact .known _
  | unmodelled => rw [sketch]; exact .known _
termination_by sizeOf type

theorem orderly_sketchAll (file : Nat) (types : List TypeExpression) :
    ∀ part ∈ linkage.sketchAll file types, part.Orderly := by
  cases types with
  | nil => exact nofun
  | cons type others =>
      rw [sketchAll]
      exact List.forall_mem_cons.2 ⟨orderly_sketch file type, orderly_sketchAll file others⟩
termination_by sizeOf types

theorem orderly_sketchIfAny (file : Nat) (type : Option TypeExpression) :
    (linkage.sketchIfAny file type).Orderly := by
  cases type with
  | none => exact .known _
  | some type => exact orderly_sketch file type
termination_by sizeOf type

theorem orderly_sketchParameters (file : Nat) (parameters : List Parameter) :
    ∀ part ∈ linkage.sketchParameters file parameters, part.Orderly := by
  cases parameters with
  | nil => exact nofun
  | cons parameter others =>
      have := parameter.sizeOf_type_lt
      rw [sketchParameters_cons]
      exact List.forall_mem_cons.2
        ⟨orderly_sketchIfAny file parameter.type, orderly_sketchParameters file others⟩
termination_by sizeOf parameters

theorem orderly_sketchMembers (file : Nat) (taken : List String) (members : List TypeMember) :
    ∀ part ∈ (linkage.sketchMembers file taken members).map Prod.snd, part.Orderly := by
  cases members with
  | nil => exact nofun
  | cons member others =>
      obtain ⟨name, optional, readonly, kind, span⟩ := member
      have rest := orderly_sketchMembers file taken others
      have restTaken := orderly_sketchMembers file (taken ++ [name]) others
      cases kind with
      | property type =>
          rw [sketchMembers]
          split
          · exact rest
          · exact List.forall_mem_cons.2 ⟨orderly_sketchIfAny file type, restTaken⟩
      | method parameters result =>
          rw [sketchMembers]
          split
          · exact rest
          · exact List.forall_mem_cons.2 ⟨linkage.orderly_method file
              (orderly_sketchIfAny file result) (orderly_sketchParameters file parameters),
              restTaken⟩
termination_by sizeOf members

end

theorem fits_sketch (file : Nat) (type : TypeExpression) : (linkage.sketch file type).Fits :=
  (linkage.orderly_sketch file type).fits

/-! ### Lowering an annotation -/

mutual

/-- **To lower an annotation is to lower its sketch.** -/
theorem lower_eq (path : List Nat) (table : TypeTable) (file : Nat) (type : TypeExpression) :
    linkage.lower path table file type =
      (linkage.sketch file type).lower (linkage.lowerDeclaration path) table := by
  obtain ⟨form, span⟩ := type
  cases form with
  | named name arguments =>
      rw [lower.eq_def, sketch.eq_def]
      dsimp only
      generalize arguments.isEmpty = isEmpty, Primitive.ofKeyword? name = keyword
      cases isEmpty <;> cases keyword
      case true.some primitive => rfl
      all_goals
        cases linkage.find? file name with
        | some found =>
            dsimp only
            split <;> rfl
        | none =>
            match arguments with
            | [] => rfl
            | [element] =>
                dsimp only
                split
                · rw [lower_eq path table file element]
                  simp [Recipe.build]
                · rfl
            | _ :: _ :: _ => rfl
  | array element =>
      rw [lower, sketch, lower_eq path table file element]
      simp [Recipe.build]
  | union members => rw [lower, sketch, lowerAll_eq path table file members, Sketch.lower_make]; rfl
  | intersection members =>
      rw [lower, sketch, lowerAll_eq path table file members, Sketch.lower_make]; rfl
  | tuple elements =>
      rw [lower, sketch, lowerAll_eq path table file elements, Sketch.lower_make]; rfl
  | object members =>
      rw [lower, sketch, lowerMembers_eq path table file [] members, Sketch.lower_make]
      rfl
  | function parameters result =>
      rw [lower, sketch, lowerParameters_eq path table file parameters, Sketch.lower_make,
        Sketch.lowerAll_append]
      dsimp only
      rw [lower_eq path _ file result]
      simp only [Sketch.lowerAll_cons, Sketch.lowerAll_nil]
      refine congrArg (TypeTable.make _) (funext fun pool => ?_)
      rw [Recipe.build_function (by rw [Sketch.length_lowerAll, length_sketchParameters,
        List.length_map])]
  | stringLiteral content => rw [lower, sketch]; rfl
  | typeOf name =>
      rw [lower, sketch]
      cases linkage.find? file name with
      | some found =>
          dsimp only
          split <;> rfl
      | none => rfl
  | otherLiteral => rw [lower, sketch]; rfl
  | unmodelled => rw [lower, sketch]; rfl
termination_by sizeOf type

theorem lowerAll_eq (path : List Nat) (table : TypeTable) (file : Nat)
    (types : List TypeExpression) :
    linkage.lowerAll path table file types =
      Sketch.lowerAll (linkage.lowerDeclaration path) (linkage.sketchAll file types) table := by
  cases types with
  | nil => rw [lowerAll]; rfl
  | cons type others =>
      rw [lowerAll, lower_eq path table file type]
      dsimp only
      rw [lowerAll_eq path _ file others]
      rfl
termination_by sizeOf types

theorem lowerIfAny_eq (path : List Nat) (table : TypeTable) (file : Nat)
    (type : Option TypeExpression) :
    linkage.lowerIfAny path table file type =
      (linkage.sketchIfAny file type).lower (linkage.lowerDeclaration path) table := by
  cases type with
  | none => rw [lowerIfAny]; rfl
  | some type => rw [lowerIfAny, lower_eq path table file type]; rfl
termination_by sizeOf type

theorem lowerParameters_eq (path : List Nat) (table : TypeTable) (file : Nat)
    (parameters : List Parameter) :
    linkage.lowerParameters path table file parameters =
      let lowered := Sketch.lowerAll (linkage.lowerDeclaration path)
        (linkage.sketchParameters file parameters) table
      (List.zipWith ParameterLabel.parameter (parameters.map Parameter.label) lowered.1,
        lowered.2) := by
  cases parameters with
  | nil => rw [lowerParameters]; rfl
  | cons parameter others =>
      have := parameter.sizeOf_type_lt
      rw [lowerParameters, lowerIfAny_eq path table file parameter.type]
      dsimp only
      rw [lowerParameters_eq path _ file others, sketchParameters_cons]
      rfl
termination_by sizeOf parameters

theorem lowerMembers_eq (path : List Nat) (table : TypeTable) (file : Nat) (before : List Member)
    (members : List TypeMember) :
    linkage.lowerMembers path table file before members =
      let sketched := linkage.sketchMembers file (before.map Member.name) members
      let lowered := Sketch.lowerAll (linkage.lowerDeclaration path) (sketched.map Prod.snd) table
      (before ++ List.zipWith MemberLabel.member (sketched.map Prod.fst) lowered.1, lowered.2) := by
  cases members with
  | nil => rw [lowerMembers]; simp [sketchMembers]
  | cons member others =>
      have taken : before.any (fun earlier => earlier.name = member.name) =
          decide (member.name ∈ before.map Member.name) := by
        rw [Bool.eq_iff_iff]
        simp only [List.any_eq_true, decide_eq_true_eq, List.mem_map]
      obtain ⟨name, optional, readonly, kind, span⟩ := member
      rw [lowerMembers.eq_def]
      dsimp only at taken ⊢
      rw [taken]
      by_cases known : name ∈ before.map Member.name
      · cases kind <;>
        · rw [if_pos (decide_eq_true known), lowerMembers_eq path table file before others,
            sketchMembers, if_pos known]
      · cases kind with
        | property type =>
            rw [if_neg (by simpa using known), sketchMembers, if_neg known]
            dsimp only
            rw [lowerIfAny_eq path table file type, lowerMembers_eq path _ file _ others]
            simp [MemberLabel.member]
        | method parameters result =>
            rw [if_neg (by simpa using known), sketchMembers, if_neg known]
            dsimp only
            rw [lowerMethod_eq path table file parameters result, lowerMembers_eq path _ file _ others]
            simp [MemberLabel.member]
termination_by sizeOf members

theorem lowerMethod_eq (path : List Nat) (table : TypeTable) (file : Nat)
    (parameters : List Parameter) (result : Option TypeExpression) :
    linkage.lowerMethod path table file parameters result =
      (Sketch.make (.function (parameters.map Parameter.label))
        (linkage.sketchParameters file parameters ++ [linkage.sketchIfAny file result])).lower
          (linkage.lowerDeclaration path) table := by
  rw [lowerMethod, lowerParameters_eq path table file parameters]
  dsimp only
  rw [lowerIfAny_eq path _ file result, Sketch.lower_make, Sketch.lowerAll_append]
  simp only [Sketch.lowerAll_cons, Sketch.lowerAll_nil]
  refine congrArg (TypeTable.make _) (funext fun pool => ?_)
  rw [Recipe.build_function (by rw [Sketch.length_lowerAll, length_sketchParameters,
    List.length_map])]
termination_by sizeOf parameters + sizeOf result + 1

end

end Linkage

end InjectionCheck
