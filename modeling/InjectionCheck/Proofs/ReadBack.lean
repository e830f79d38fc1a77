import InjectionCheck.Proofs.SilentStatements
import InjectionCheck.Proofs.TypeReadings

/-!
# Written types are read back

The rules for types read what a type is written with, and give an annotation that means the same:
its sketch is the sketch of the type, with the names replaced by what they refer to
(`Linkage.Legible.readsBack`).
-/

set_option autoImplicit false

namespace InjectionCheck

/-! ## Brackets of written types -/

/-- All brackets are closed in what a type is written with. -/
structure Spelling.Balanced (spelling : Spelling) : Prop where
  text : Lookahead.Closed spelling.text
  operand : Lookahead.Closed spelling.operand
  signature : Lookahead.Closed spelling.signature

namespace Spelling

open Lookahead (Closed)

theorem closed_colon {kinds : List Kind} (closed : Closed kinds) :
    Closed (.mark .colon :: kinds) :=
  .append (.single rfl rfl) closed

theorem closed_parens {kinds : List Kind} (closed : Closed kinds) :
    Closed ([.mark .lparen] ++ kinds ++ [.mark .rparen]) :=
  .group rfl rfl rfl closed

theorem balanced_plain {kinds : List Kind} (closed : Closed kinds) : (plain kinds).Balanced :=
  ⟨closed, closed, closed_colon closed⟩

theorem balanced_loose {kinds : List Kind} (closed : Closed kinds) : (loose kinds).Balanced :=
  ⟨closed, closed_parens closed, closed_colon closed⟩

theorem closed_nameKinds (name : String) (optional : Bool) : Closed (nameKinds name optional) := by
  cases optional
  · exact .single rfl rfl
  · exact .append (.single rfl rfl) (.single rfl rfl)

theorem closed_wordKind (word : List Char) : Closed [Scanner.wordKind word] := by
  rw [Scanner.wordKind]
  split <;> exact .single rfl rfl

variable {parts : List Spelling}

theorem closed_zipWith {α : Type} {spell : α → Spelling → List Kind}
    (all : ∀ label, ∀ part ∈ parts, Closed (spell label part)) (labels : List α) :
    ∀ kinds ∈ List.zipWith spell labels parts, Closed kinds := by
  intro kinds inside
  obtain ⟨place, _, rfl⟩ := List.getElem_of_mem inside
  rw [List.getElem_zipWith]
  exact all _ _ (List.getElem_mem _)

theorem closed_parameters (all : ∀ part ∈ parts, part.Balanced) (labels : List ParameterLabel) :
    Closed (ParameterLabel.spelling labels parts) :=
  closed_parens (.intercalate rfl rfl (closed_zipWith (fun _ part inside =>
    .append (closed_nameKinds _ _) (closed_colon (all part inside).text)) labels))

/-- Brackets are closed in what a recipe makes if they are closed in the parts. -/
theorem balanced_recipe (all : ∀ part ∈ parts, part.Balanced) (recipe : Recipe) :
    (recipe.spelling parts).Balanced := by
  have texts : ∀ kinds ∈ parts.map text, Closed kinds :=
    List.forall_mem_map.2 fun part inside => (all part inside).text
  have operands : ∀ kinds ∈ parts.map operand, Closed kinds :=
    List.forall_mem_map.2 fun part inside => (all part inside).operand
  cases recipe with
  | unresolved name => exact balanced_plain (.single rfl rfl)
  | stringLiteral content => exact balanced_plain (.single rfl rfl)
  | array =>
      refine balanced_plain (.append ?_ (.group rfl rfl rfl .nil))
      cases parts with
      | nil => exact .nil
      | cons part parts => exact operands _ List.mem_cons_self
  | tuple => exact balanced_plain (.group rfl rfl rfl (.intercalate rfl rfl texts))
  | union => exact balanced_loose (.intercalate rfl rfl operands)
  | intersection => exact balanced_loose (.intercalate rfl rfl operands)
  | function labels =>
      have parameters := closed_parameters all labels
      have result : Closed ((parts.map text).getLastD []) := by
        rcases List.eq_nil_or_concat' (parts.map text) with same | ⟨others, last, same⟩ <;>
          rw [same] at texts ⊢
        · exact .nil
        · rw [List.getLastD_concat]
          exact texts last (List.mem_append_right _ List.mem_cons_self)
      have arrow : Closed (ParameterLabel.spelling labels parts ++
          .mark .arrow :: (parts.map text).getLastD []) :=
        parameters.append (.append (.single rfl rfl) result)
      exact ⟨arrow, closed_parens arrow, parameters.append (closed_colon result)⟩
  | object labels =>
      refine balanced_plain (.group rfl rfl rfl (.intercalate rfl rfl (closed_zipWith
        (fun label part inside => .append (closed_nameKinds _ _) ?_) labels)))
      split
      · exact (all part inside).signature
      · exact closed_colon (all part inside).text

end Spelling

/-- All brackets are closed in what a type is written with. -/
theorem Sketch.balanced_spelling {κ : Type} (sketch : Sketch (Leaf κ)) : sketch.spelling.Balanced := by
  induction sketch using induction_on with
  | known primitive => exact Spelling.balanced_plain (Spelling.closed_wordKind _)
  | use leaf =>
      cases leaf with
      | number number => exact Spelling.balanced_plain .nil
      | named declaration name => exact Spelling.balanced_plain (.single rfl rfl)
  | make recipe parts ih =>
      rw [spelling_make]
      exact Spelling.balanced_recipe (List.forall_mem_map.2 ih) recipe

/-! ## How written types begin -/

/-- What a type is written with begins like a type. -/
structure Spelling.Begins (spelling : Spelling) : Prop where
  text : BeginsType spelling.text
  operand : BeginsType spelling.operand

theorem beginsType_name {name : String} (isTypeName : isTypeName name = true) :
    BeginsType [.name name] := by
  refine ⟨_, [], rfl, rfl, fun name' same => ?_⟩
  cases same
  simp only [InjectionCheck.isTypeName, Bool.and_eq_true, decide_eq_true_eq] at isTypeName
  exact ⟨⟨isTypeName.1.2, isTypeName.2⟩, .nil⟩

theorem beginsType_primitive {primitive : Primitive} (notError : primitive ≠ .error) :
    BeginsType [Scanner.wordKind primitive.text.toList] := by
  cases primitive
  case error => exact absurd rfl notError
  case void => exact ⟨.keyword .void_, [], rfl, rfl, nofun⟩
  case null => exact ⟨.keyword .null_, [], rfl, rfl, nofun⟩
  all_goals
    refine ⟨.name _, [], rfl, rfl, fun name same => ?_⟩
    cases same
    exact ⟨by decide, .nil⟩

theorem begins_plain {kinds : List Kind} (begins : BeginsType kinds) :
    (Spelling.plain kinds).Begins := ⟨begins, begins⟩

theorem begins_loose {kinds : List Kind} (begins : BeginsType kinds) :
    (Spelling.loose kinds).Begins := ⟨begins, .of_mark rfl _⟩

/-- A written type begins like a type. -/
theorem Linkage.Legible.begins {linkage : Linkage} {file : Nat} {sketch : Sketch (Leaf Nat)}
    (legible : linkage.Legible file sketch) : sketch.spelling.Begins := by
  induction legible with
  | known primitive notError => exact begins_plain (beginsType_primitive notError)
  | use leaf legible =>
      cases leaf with
      | number number => exact legible.elim
      | named number name => exact begins_plain (beginsType_name legible.1)
  | make recipe parts takes legible all ih =>
      rw [Sketch.spelling_make]
      have operands : 2 ≤ parts.length → ∀ sign : Mark, sign.endsPrimary = true →
          BeginsType ([.mark sign].intercalate
            ((parts.map Sketch.spelling).map Spelling.operand)) := fun several sign ends => by
        refine .intercalate ends (fun none => ?_) ?_
        · rw [List.map_eq_nil_iff, List.map_eq_nil_iff] at none
          rw [none] at several
          cases several
        · rw [List.map_map]
          exact List.forall_mem_map.2 fun part inside => (ih part inside).operand
      cases recipe with
      | unresolved name => exact begins_plain (beginsType_name legible.1)
      | stringLiteral content => exact begins_plain ⟨_, [], rfl, rfl, nofun⟩
      | array =>
          obtain ⟨element, rfl⟩ := List.length_eq_one_iff.1 takes
          exact begins_plain ((ih element List.mem_cons_self).operand.append (.mark rfl))
      | tuple => exact begins_plain (.of_mark rfl _)
      | union => exact begins_loose (operands legible .pipe rfl)
      | intersection => exact begins_loose (operands legible .amp rfl)
      | function labels => exact ⟨.of_mark rfl _, .of_mark rfl _⟩
      | object labels => exact begins_plain (.of_mark rfl _)

/-! ## What an annotation says -/

/-- What a leaf of a sketch uses. -/
def Leaf.target : Leaf Nat → Nat
  | .number target => target
  | .named declaration _ => declaration

namespace Linkage

variable (linkage : Linkage) (file : Nat)

/-- An annotation means in a file what a sketch says. -/
def Means (sketch : Sketch (Leaf Nat)) (type : TypeExpression) : Prop :=
  linkage.sketch file type = sketch.map Leaf.target

/-- A member of an annotation means in a file what a label and a sketch say. -/
def MeansMember (part : MemberLabel × Sketch (Leaf Nat)) (member : TypeMember) : Prop :=
  ∀ taken others, part.1.name ∉ taken → linkage.sketchMembers file taken (member :: others) =
    (part.1, part.2.map Leaf.target) :: linkage.sketchMembers file (taken ++ [part.1.name]) others

variable {linkage file}

theorem sketchAll_eq_of_means {parts : List (Sketch (Leaf Nat))} {types : List TypeExpression}
    (all : List.Forall₂ (linkage.Means file) parts types) :
    linkage.sketchAll file types = parts.map (Sketch.map Leaf.target) := by
  induction all with
  | nil => rfl
  | cons means _ ih => rw [sketchAll, means, ih, List.map_cons]

/-- Parameters are sketched as their labels and parts say. -/
theorem sketchParameters_eq_of_means {labels : List ParameterLabel}
    {parts : List (Sketch (Leaf Nat))} (same : parts.length = labels.length)
    {parameters : List Parameter}
    (all : List.Forall₂ (Rules.MeansParameter Prod.fst fun part => linkage.Means file part.2)
      (labels.zip parts) parameters) :
    parameters.map Parameter.label = labels ∧
      linkage.sketchParameters file parameters = parts.map (Sketch.map Leaf.target) := by
  induction labels generalizing parts parameters with
  | nil =>
      rw [List.length_eq_zero_iff.1 same]
      cases all
      exact ⟨rfl, rfl⟩
  | cons label labels ih =>
      cases parts with
      | nil => cases same
      | cons part parts =>
          obtain _ | ⟨⟨isLabel, type, isType, means⟩, all⟩ := all
          obtain ⟨sameLabels, sameParts⟩ := ih (Nat.succ.inj same) all
          rw [List.map_cons, isLabel, sameLabels, sketchParameters_cons, isType, sketchIfAny, means,
            sameParts]
          exact ⟨rfl, rfl⟩

/-- Members with different names are sketched as their labels and parts say. -/
theorem sketchMembers_eq_of_means {parts : List (MemberLabel × Sketch (Leaf Nat))}
    {members : List TypeMember} (all : List.Forall₂ (linkage.MeansMember file) parts members)
    {taken : List String} (distinct : (parts.map fun part => part.1.name).Nodup)
    (free : ∀ part ∈ parts, part.1.name ∉ taken) :
    linkage.sketchMembers file taken members =
      parts.map fun part => (part.1, part.2.map Leaf.target) := by
  induction all generalizing taken with
  | nil => rfl
  | @cons part member parts members means _ ih =>
      obtain ⟨fresh, distinct⟩ := List.nodup_cons.1 distinct
      obtain ⟨isFree, free⟩ := List.forall_mem_cons.1 free
      rw [means taken members isFree, ih distinct, List.map_cons]
      intro other inside
      rw [List.mem_append, List.mem_singleton, not_or]
      exact ⟨free other inside, fun same => fresh (List.mem_map.2 ⟨other, inside, same⟩)⟩

/-! ## Reading back -/

variable (linkage file)

/-- The rules for types give annotations of what a sketch says when they read what it is written
with. -/
structure ReadsBack (sketch : Sketch (Leaf Nat)) : Prop where
  type (limit : Cursor) : Reads (fun sign => sign.endsType = true) (Rules.all limit).type
    sketch.spelling.text (linkage.Means file sketch)
  operand : Rules.ReadsOperand sketch.spelling.operand (linkage.Means file sketch)
  /-- The parts are read back, too. -/
  inner {recipe : Recipe} {parts : List (Sketch (Leaf Nat))} (made : sketch = .make recipe parts) :
    ∀ part ∈ parts, ∀ limit, Reads (fun sign => sign.endsType = true) (Rules.all limit).type
      part.spelling.text (linkage.Means file part)

variable {linkage file}

open Rules (reads_type reads_unionType reads_intersectionType reads_operandType ReadsOperand)

/-- What is read in front of some marks is read in front of fewer. -/
theorem reads_of_imp {α : Type} {moves : Bool} {allowed : Cursor → Prop}
    {rule : (c : Cursor) → allowed c → Outcome moves c α} {ends ends' : Mark → Bool}
    {kinds : List Kind} {right : α → Prop}
    (reads : Reads (fun sign => ends sign = true) rule kinds right)
    (imp : ∀ sign, ends' sign = true → ends sign = true) :
    Reads (fun sign => ends' sign = true) rule kinds right :=
  fun c inside sign rest isEnd => reads c inside sign rest (imp sign isEnd)

/-- What is read as something more special is read. -/
theorem reads_mono {α : Type} {moves : Bool} {allowed : Cursor → Prop}
    {rule : (c : Cursor) → allowed c → Outcome moves c α} {ends : Mark → Prop}
    {kinds : List Kind} {right right' : α → Prop} (reads : Reads ends rule kinds right)
    (imp : ∀ value, right value → right' value) : Reads ends rule kinds right' :=
  fun c inside sign rest isEnd ahead => (reads c inside sign rest isEnd ahead).mono imp

/-- A type without `&` and `|` at its top is read as a member of a union, and as a type. -/
theorem reads_member {kinds : List Kind} {right : TypeExpression → Prop} {limit : Cursor}
    (reads : Reads (fun sign => sign.endsOperand = true) (Rules.all limit).operandType kinds right)
    (begins : BeginsType kinds) :
    Reads (fun sign => sign.endsMember = true) (Rules.all limit).intersectionType kinds right :=
  reads_intersectionType (reads_of_imp reads fun _ => Mark.endsOperand_of_endsMember) begins rfl

theorem reads_of_suffixed {kinds : List Kind} {right : TypeExpression → Prop}
    (reads : ∀ limit, Reads (fun sign => sign.endsType = true) (Rules.all limit).suffixedType kinds
      right)
    (begins : BeginsType kinds) (limit : Cursor) :
    Reads (fun sign => sign.endsType = true) (Rules.all limit).type kinds right :=
  reads_type fun limit => reads_unionType (reads_intersectionType (reads_operandType (reads limit)
    begins fun _ ends => Mark.endsPrimary_of_endsOperand (Mark.endsOperand_of_endsType ends))
      begins rfl) begins rfl

/-- What is read with suffixes behind it is read as an operand. -/
theorem reads_operand {kinds : List Kind} {right : TypeExpression → Prop}
    (reads : ReadsOperand kinds right) (begins : BeginsType kinds) (limit : Cursor) :
    Reads (fun sign => sign.endsOperand = true) (Rules.all limit).operandType kinds right :=
  reads_operandType (reads.suffixed limit) begins fun _ => Mark.endsPrimary_of_endsOperand

namespace ReadsBack

variable {sketch : Sketch (Leaf Nat)}

/-- A type that never mixes with what is around it. -/
theorem of_plain {kinds : List Kind} (spelling : sketch.spelling = .plain kinds)
    (reads : ReadsOperand kinds (linkage.Means file sketch)) (begins : BeginsType kinds)
    (inner : ∀ {recipe : Recipe} {parts : List (Sketch (Leaf Nat))},
      sketch = .make recipe parts → ∀ part ∈ parts, linkage.ReadsBack file part) :
    linkage.ReadsBack file sketch where
  type limit := by
    rw [spelling]
    exact reads_of_suffixed (fun limit => reads_of_imp (reads.suffixed limit) fun _ =>
      Mark.endsOperand_of_endsType) begins limit
  operand := by
    rw [spelling]
    exact reads
  inner made part inside := (inner made part inside).type

/-- A type that is put in parentheses where it would mix with what is around it. -/
theorem of_parens {kinds : List Kind} (text : sketch.spelling.text = kinds)
    (operand : sketch.spelling.operand = [.mark .lparen] ++ kinds ++ [.mark .rparen])
    (reads : ∀ limit, Reads (fun sign => sign.endsType = true) (Rules.all limit).type kinds
      (linkage.Means file sketch))
    (inner : ∀ {recipe : Recipe} {parts : List (Sketch (Leaf Nat))},
      sketch = .make recipe parts → ∀ part ∈ parts, linkage.ReadsBack file part) :
    linkage.ReadsBack file sketch where
  type limit := by
    rw [text]
    exact reads limit
  operand := by
    rw [operand]
    exact .of_primary fun limit =>
      Rules.reads_parens (reads limit) (text ▸ sketch.balanced_spelling.text)
  inner made part inside := (inner made part inside).type

theorem of_loose {kinds : List Kind} (spelling : sketch.spelling = .loose kinds)
    (reads : ∀ limit, Reads (fun sign => sign.endsType = true) (Rules.all limit).type kinds
      (linkage.Means file sketch))
    (inner : ∀ {recipe : Recipe} {parts : List (Sketch (Leaf Nat))},
      sketch = .make recipe parts → ∀ part ∈ parts, linkage.ReadsBack file part) :
    linkage.ReadsBack file sketch :=
  of_parens (congrArg Spelling.text spelling) (congrArg Spelling.operand spelling) reads inner

end ReadsBack

theorem reads_primitive {primitive : Primitive} (notError : primitive ≠ .error) (limit : Cursor) :
    Reads (fun sign => sign.endsPrimary = true) (Rules.all limit).primaryType
      [Scanner.wordKind primitive.text.toList] (linkage.Means file (.known primitive)) := by
  have means : ∀ span, linkage.Means file (.known primitive) ⟨.named primitive.text [], span⟩ := by
    intro span
    have isKeyword : Primitive.ofKeyword? primitive.text = some primitive := by
      cases primitive
      case error => exact absurd rfl notError
      all_goals rfl
    simp only [Means, sketch, isKeyword]
    rfl
  cases primitive
  case error => exact absurd rfl notError
  case null => exact Rules.reads_reserved (.inl rfl) means
  case void => exact Rules.reads_reserved (.inr rfl) means
  all_goals exact Rules.reads_name means

/-- A name that is no primitive type means what it refers to. -/
theorem sketch_name {name : String} (isTypeName : isTypeName name = true) (span : Span) :
    linkage.sketch file ⟨.named name [], span⟩ =
      match linkage.find? file name with
      | some (number, declaration) =>
        if declaration.kind = .binding then .known .error else .use number
      | none => .make (.unresolved name) [] := by
  have noKeyword : Primitive.ofKeyword? name = none := by
    simp only [InjectionCheck.isTypeName, Bool.and_eq_true, Option.isNone_iff_eq_none] at isTypeName
    exact isTypeName.1.1.2
  rw [sketch.eq_def]
  simp only [noKeyword]
  rfl

namespace ReadsBack

variable {parts : List (Sketch (Leaf Nat))}

/-- Arrays are read back. -/
theorem array {element : Sketch (Leaf Nat)} (reads : linkage.ReadsBack file element)
    (begins : BeginsType element.spelling.operand) :
    linkage.ReadsBack file (.make .array [element]) := by
  refine of_plain (Sketch.spelling_make _ _) (reads.operand.array fun value span means => ?_)
    (begins.append (.mark rfl)) ?_
  · rw [Means, sketch, means]
    simp
  · rintro recipe parts ⟨⟩
    exact List.forall_mem_singleton.2 reads

/-- Tuples are read back. -/
theorem tuple (reads : ∀ part ∈ parts, linkage.ReadsBack file part)
    (begins : ∀ part ∈ parts, part.spelling.Begins) :
    linkage.ReadsBack file (.make .tuple parts) := by
  refine of_plain (Sketch.spelling_make _ _) (.of_primary fun limit => ?_) (.of_mark rfl _) ?_
  · rw [List.map_map]
    refine reads_mono (Rules.reads_tuple (fun part inside => (reads part inside).type limit)
      fun part inside => (begins part inside).text) ?_
    rintro _ ⟨elements, span, rfl, all⟩
    rw [Means, sketch, sketchAll_eq_of_means all, Sketch.map_make]
  · rintro recipe parts ⟨⟩
    exact reads

/-- Unions are read back. -/
theorem union (reads : ∀ part ∈ parts, linkage.ReadsBack file part)
    (begins : ∀ part ∈ parts, part.spelling.Begins) (several : 2 ≤ parts.length) :
    linkage.ReadsBack file (.make .union parts) := by
  match parts with
  | [] | [_] => simp at several
  | first :: second :: others =>
    refine of_loose (Sketch.spelling_make _ _) ?_ ?_
    · rw [List.map_map]
      refine fun _ => reads_type fun limit => reads_mono (Rules.reads_union (fun part inside =>
        reads_member (reads_operand (reads part inside).operand (begins part inside).operand limit)
          (begins part inside).operand) (begins first List.mem_cons_self).operand
          (fun _ => Mark.endsMember_of_endsType) rfl) ?_
      rintro _ ⟨members, span, rfl, all⟩
      rw [Means, sketch, sketchAll_eq_of_means all, Sketch.map_make]
    · rintro recipe parts ⟨⟩
      exact reads

/-- Intersections are read back. -/
theorem intersection (reads : ∀ part ∈ parts, linkage.ReadsBack file part)
    (begins : ∀ part ∈ parts, part.spelling.Begins) (several : 2 ≤ parts.length) :
    linkage.ReadsBack file (.make .intersection parts) := by
  match parts with
  | [] | [_] => simp at several
  | first :: second :: others =>
    refine of_loose (Sketch.spelling_make _ _) ?_ ?_
    · rw [List.map_map]
      have beginsAll : BeginsType ([Kind.mark .amp].intercalate
          ((first :: second :: others).map (Spelling.operand ∘ Sketch.spelling))) :=
        .intercalate rfl (List.cons_ne_nil _ _)
          (List.forall_mem_map.2 fun part inside => (begins part inside).operand)
      refine fun _ => reads_type fun limit => reads_unionType (reads_mono (Rules.reads_intersection
        (fun part inside =>
          reads_operand (reads part inside).operand (begins part inside).operand limit)
        (begins first List.mem_cons_self).operand (fun _ => Mark.endsOperand_of_endsType) rfl) ?_)
        beginsAll rfl
      rintro _ ⟨members, span, rfl, all⟩
      rw [Means, sketch, sketchAll_eq_of_means all, Sketch.map_make]
    · rintro recipe parts ⟨⟩
      exact reads

/-- A labelled type is spelled as its label and its part are. -/
theorem zipWith_spelling {α : Type} {spell : α → Spelling → List Kind} (labels : List α) :
    List.zipWith spell labels (parts.map Sketch.spelling) =
      (labels.zip parts).map fun part => spell part.1 part.2.spelling := by
  rw [List.zipWith_map_right, List.zip, List.map_zipWith]

theorem parameters_eq {labels : List ParameterLabel} {parts : List (Sketch (Leaf Nat))}
    (same : parts.length = labels.length) (result : Sketch (Leaf Nat)) :
    ParameterLabel.spelling labels ((parts ++ [result]).map Sketch.spelling) =
      [.mark .lparen] ++ Rules.parameterKinds Prod.fst (fun part => part.2.spelling.text)
        (labels.zip parts) ++ [.mark .rparen] := by
  rw [ParameterLabel.spelling, List.map_append, List.map_singleton,
    zipWith_concat (by rw [List.length_map, same]), zipWith_spelling]
  rfl

theorem forall_mem_zip {α : Type} {labels : List α} {holds : Sketch (Leaf Nat) → Prop}
    (all : ∀ part ∈ parts, holds part) : ∀ part ∈ labels.zip parts, holds part.2 :=
  fun _ inside => all _ (List.of_mem_zip inside).2

/-- Function types are read back. -/
theorem function {labels : List ParameterLabel} {result : Sketch (Leaf Nat)}
    (same : parts.length = labels.length)
    (reads : ∀ part ∈ parts ++ [result], linkage.ReadsBack file part)
    (begins : result.spelling.Begins) :
    linkage.ReadsBack file (.make (.function labels) (parts ++ [result])) := by
  obtain ⟨readsParts, readsResult⟩ := List.forall_mem_append.1 reads
  have readsResult := readsResult result List.mem_cons_self
  have parameters := parameters_eq same result
  have spelling := Sketch.spelling_make (.function labels) (parts ++ [result])
  have text : (Sketch.make (.function labels) (parts ++ [result])).spelling.text =
      [.mark .lparen] ++ Rules.parameterKinds Prod.fst (fun part => part.2.spelling.text)
        (labels.zip parts) ++ [.mark .rparen] ++ .mark .arrow :: result.spelling.text := by
    rw [spelling, ← parameters]
    simp [Recipe.spelling, Spelling.loose]
  have operand : (Sketch.make (.function labels) (parts ++ [result])).spelling.operand =
      [.mark .lparen] ++ (Sketch.make (.function labels) (parts ++ [result])).spelling.text ++
        [.mark .rparen] := by
    rw [spelling]
    rfl
  refine of_parens rfl operand (fun _ => ?_) ?_
  · rw [text]
    have closed : Lookahead.Closed (Rules.parameterKinds Prod.fst
        (fun part => part.2.spelling.text) (labels.zip parts)) :=
      .intercalate rfl rfl (List.forall_mem_map.2 fun part _ =>
        .append (Spelling.closed_nameKinds _ _)
          (Spelling.closed_colon part.2.balanced_spelling.text))
    refine reads_of_suffixed (fun limit => Rules.reads_suffixedType (reads_mono
      (Rules.reads_function (forall_mem_zip fun part inside => (readsParts part inside).type limit)
        (readsResult.type limit) begins.text closed) ?_) rfl) (.of_mark rfl _) _
    rintro _ ⟨parameters, value, span, rfl, all, means⟩
    obtain ⟨sameLabels, sameParts⟩ := sketchParameters_eq_of_means same all
    rw [Means, sketch, sameLabels, sameParts, means, Sketch.map_make, List.map_append,
      List.map_singleton]
  · rintro recipe parts ⟨⟩
    exact reads

/-- A named part is read back as a member of an object type. -/
theorem reads_typeMember {label : MemberLabel} {part : Sketch (Leaf Nat)}
    (reads : linkage.ReadsBack file part) (legible : linkage.Legible file part)
    (isPublic : label.access = .public_) (isFunction : label.isMethod = true → part.IsFunction)
    (limit : Cursor) :
    Reads (fun sign => sign.endsType = true) (Rules.all limit).typeMember
      (label.kinds part.spelling)
      fun member => ∃ one, member = some one ∧ linkage.MeansMember file (label, part) one := by
  obtain ⟨name, optional, access, isMethod⟩ := label
  subst isPublic
  cases isMethod with
  | false =>
      refine reads_mono (@Rules.reads_property _ _ _ _ ⟨name, optional, .public_, false⟩
        (reads.type limit)) ?_
      rintro _ ⟨_, rfl, type, readonly, span, rfl, means⟩
      refine ⟨_, rfl, fun taken others free => ?_⟩
      rw [sketchMembers, if_neg free, sketchIfAny, means]
  | true =>
      obtain ⟨labels, parts, rfl⟩ := isFunction rfl
      obtain _ | _ | ⟨_, _, takes, _, all⟩ := legible
      obtain rfl | ⟨parts, result, rfl⟩ := List.eq_nil_or_concat' parts
      · cases takes
      have same : parts.length = labels.length := by simpa [Recipe.Takes] using takes
      have inner := reads.inner rfl
      obtain ⟨readsParts, readsResult⟩ := List.forall_mem_append.1 inner
      have signature : (Sketch.make (.function labels) (parts ++ [result])).spelling.signature =
          [.mark .lparen] ++ Rules.parameterKinds Prod.fst (fun part => part.2.spelling.text)
            (labels.zip parts) ++ [.mark .rparen] ++ .mark .colon :: result.spelling.text := by
        rw [Sketch.spelling_make, ← parameters_eq same result]
        simp [Recipe.spelling, Spelling.loose]
      rw [MemberLabel.kinds, if_pos rfl, signature]
      refine reads_mono (@Rules.reads_method _ _ _ Prod.fst _ _ _ _ _
        ⟨name, optional, .public_, true⟩
        (forall_mem_zip fun part inside => readsParts part inside limit)
        (readsResult result List.mem_cons_self limit)
        (all result (List.mem_append_right _ List.mem_cons_self)).begins.text) ?_
      rintro _ ⟨_, rfl, parameters, value, readonly, span, rfl, all, means⟩
      refine ⟨_, rfl, fun taken others free => ?_⟩
      obtain ⟨sameLabels, sameParts⟩ := sketchParameters_eq_of_means same all
      rw [sketchMembers, if_neg free, sameLabels, sameParts, sketchIfAny, means, Sketch.map_make,
        List.map_append, List.map_singleton]

/-- A member begins with its name, and a mark follows that is no square bracket. -/
theorem kinds_eq {label : MemberLabel} {part : Sketch (Leaf Nat)}
    (isFunction : label.isMethod = true → part.IsFunction) :
    ∃ name mark others, label.kinds part.spelling = .name name :: .mark mark :: others ∧
      mark ≠ .lbracket := by
  obtain ⟨name, optional, access, isMethod⟩ := label
  cases optional
  case true => exact ⟨name, .question, _, rfl, nofun⟩
  cases isMethod
  case false => exact ⟨name, .colon, _, rfl, nofun⟩
  obtain ⟨labels, parts, rfl⟩ := isFunction rfl
  rw [Sketch.spelling_make]
  exact ⟨name, .lparen, _, rfl, nofun⟩

/-- Object types are read back. -/
theorem object {labels : List MemberLabel} (same : parts.length = labels.length)
    (legible : linkage.LegibleRecipe file parts (.object labels))
    (all : ∀ part ∈ parts, linkage.Legible file part)
    (reads : ∀ part ∈ parts, linkage.ReadsBack file part) :
    linkage.ReadsBack file (.make (.object labels) parts) := by
  obtain ⟨distinct, names, functions⟩ := legible
  have sameLabels : (labels.zip parts).map Prod.fst = labels :=
    List.map_fst_zip (Nat.le_of_eq same.symm)
  have sameParts : (labels.zip parts).map Prod.snd = parts :=
    List.map_snd_zip (Nat.le_of_eq same)
  refine of_plain (Sketch.spelling_make _ _) (.of_primary fun limit => ?_) (.of_mark rfl _) ?_
  · rw [zipWith_spelling]
    refine reads_mono (Rules.reads_object (fun part inside => reads_typeMember
      (reads _ (List.of_mem_zip inside).2) (all _ (List.of_mem_zip inside).2)
      (names _ (List.of_mem_zip inside).1).2 (functions part inside) limit)
      fun part inside => kinds_eq (functions part inside)) ?_
    rintro _ ⟨members, span, rfl, all⟩
    have sketched : linkage.sketchMembers file [] members =
        (labels.zip parts).map fun part => (part.1, part.2.map Leaf.target) := by
      refine sketchMembers_eq_of_means all ?_ nofun
      rwa [← sameLabels, List.map_map] at distinct
    rw [Means, sketch, sketched, List.map_map, List.map_map, Sketch.map_make]
    congr 1
    · exact congrArg Recipe.object sameLabels
    · conv_rhs => rw [← sameParts, List.map_map]
      rfl
  · rintro recipe parts ⟨⟩
    exact reads

end ReadsBack

/-- **Whatever can be read back is read back.** -/
theorem Legible.readsBack {sketch : Sketch (Leaf Nat)} (legible : linkage.Legible file sketch) :
    linkage.ReadsBack file sketch := by
  induction legible with
  | known primitive notError =>
      exact .of_plain rfl (.of_primary fun limit => reads_primitive notError limit)
        (beginsType_primitive notError) nofun
  | use leaf legible =>
      cases leaf with
      | number number => exact legible.elim
      | named number name =>
          obtain ⟨isTypeName, declaration, found, notBinding⟩ := legible
          refine .of_plain rfl (.of_primary fun limit => Rules.reads_name fun span => ?_)
            (beginsType_name isTypeName) nofun
          rw [Means, sketch_name isTypeName, found]
          simp only [if_neg notBinding]
          rfl
  | make recipe parts takes legible all ih =>
      have begins : ∀ part ∈ parts, part.spelling.Begins := fun part inside =>
        (all part inside).begins
      cases recipe with
      | unresolved name =>
          obtain ⟨isTypeName, unknown⟩ := legible
          obtain rfl := List.length_eq_zero_iff.1 takes
          refine .of_plain (Sketch.spelling_make _ _) (.of_primary fun limit =>
            Rules.reads_name fun span => ?_) (beginsType_name isTypeName) ?_
          · rw [Means, sketch_name isTypeName, unknown]
            rfl
          · rintro recipe parts ⟨⟩
            exact nofun
      | stringLiteral content =>
          obtain rfl := List.length_eq_zero_iff.1 takes
          refine .of_plain (Sketch.spelling_make _ _) (.of_primary fun limit =>
            Rules.reads_string fun span => ?_) ⟨_, [], rfl, rfl, nofun⟩ ?_
          · rw [Means, Linkage.sketch]
            rfl
          · rintro recipe parts ⟨⟩
            exact nofun
      | array =>
          obtain ⟨element, rfl⟩ := List.length_eq_one_iff.1 takes
          exact .array (ih element List.mem_cons_self) (begins element List.mem_cons_self).operand
      | tuple => exact .tuple ih begins
      | union => exact .union ih begins legible
      | intersection => exact .intersection ih begins legible
      | function labels =>
          obtain rfl | ⟨parts, result, rfl⟩ := List.eq_nil_or_concat' parts
          · cases takes
          · have same : parts.length = labels.length := by simpa [Recipe.Takes] using takes
            exact .function same ih (begins result (List.mem_append_right _ List.mem_cons_self))
      | object labels => exact .object takes legible all ih

end Linkage

/-! ## Declarations of names for types -/

namespace Cursor

variable {kinds : List Kind} {right : TypeExpression → Prop}

/-- What the rules for types read is read as the type at a cursor. -/
theorem gives_type (reads : ∀ limit, Reads (fun sign => sign.endsType = true)
      (Rules.all limit).type kinds right) {c : Cursor} {sign : Mark} {rest : List Kind}
    (ends : sign.endsType = true) (ahead : c.kinds = kinds ++ .mark sign :: rest) :
    c.type.Gives right (.mark sign :: rest) := by
  -- A cursor with one more token ahead, at which the recursive rules include this one.
  have gives := reads ⟨c.behind, default :: c.ahead, c.stop⟩ c (Nat.lt_succ_self _) sign rest ends
    ahead
  rw [Rules.all] at gives
  exact gives

/-- The declaration of a name for a type is read. -/
theorem gives_aliasAfter (reads : ∀ limit, Reads (fun sign => sign.endsType = true)
      (Rules.all limit).type kinds right) {c : Cursor}
    (ahead : c.kinds = .name "X" :: .mark .eq :: (kinds ++ [.mark .semicolon])) :
    c.aliasAfter.Gives (fun declaration => declaration.name = "X" ∧ right declaration.type) [] := by
  refine (gives_expectName ahead).andThen fun name c₁ _ isName left => ?_
  refine (gives_skipAnglesIfAny left nofun).bind fun _ c₂ _ _ left => ?_
  refine (gives_expectMark left).lax.bind fun _ c₃ _ _ left => ?_
  refine (gives_type reads rfl left).lax.bind fun type c₄ _ isRight left => ?_
  have semicolon : c₄.optionalSemicolon.Gives (fun _ => True) [] :=
    (gives_optionalMark left).map fun _ _ => trivial
  exact semicolon.map fun _ _ => ⟨isName, isRight⟩

end Cursor

/-- A file that holds nothing but the declaration of a name for a type. -/
def SourceUnit.Declares (unit : SourceUnit) (right : TypeExpression → Prop) : Prop :=
  ∃ declaration span, unit.items = [⟨.typeAlias declaration, false, span⟩] ∧ unit.errors = [] ∧
    declaration.name = "X" ∧ right declaration.type

theorem SourceUnit.declares_ofTokens {kinds : List Kind} {right : TypeExpression → Prop}
    (reads : ∀ limit, Reads (fun sign => sign.endsType = true) (Rules.all limit).type kinds right)
    {list : TokenList} (ahead : list.tokens.map Token.kind = aliasKinds kinds) :
    (SourceUnit.ofTokens list).Declares right := by
  have start : (Cursor.start list.tokens list.stop).kinds = aliasKinds kinds := ahead
  obtain ⟨past, isNext, isWord, left⟩ := Cursor.next?_of_kinds start
  have seesName : past.rest.seesSomeName = true := by
    rw [Cursor.seesSomeName, Cursor.kind?_of_kinds left]
  have isItem : past.item = .ofOutcome ((past.go past.rest.aliasAfter).mapAt
      (Cursor.itemFrom past.token.span false .typeAlias)) := by
    rw [Cursor.Past.item, isWord]
    dsimp only
    rw [Cursor.Past.statement, isWord]
    exact if_pos seesName
  have gives : (past.go past.rest.aliasAfter).Gives _ [] := .go (Cursor.gives_aliasAfter reads left)
  have stops : past.item.outcome.Gives (fun _ => True) [] := by
    have items : ((past.go past.rest.aliasAfter).mapAt
        (Cursor.itemFrom past.token.span false .typeAlias)).Gives (fun _ => True) [] :=
      gives.mapAt fun _ _ _ => trivial
    rw [isItem]
    exact items.map fun _ _ => trivial
  obtain ⟨declaration, span, items, isDeclaration⟩ : ∃ declaration span,
      past.item.items = [⟨.typeAlias declaration, false, span⟩] ∧
        declaration.name = "X" ∧ right declaration.type := by
    rw [isItem]
    generalize past.go past.rest.aliasAfter = outcome at gives
    obtain ⟨⟨result, d⟩, reaches, moved⟩ := outcome
    obtain ⟨declaration, d, same, isDeclaration, _⟩ := gives
    cases same
    exact ⟨declaration, _, rfl, isDeclaration⟩
  have noErrors : past.item.errors = [] := by
    rw [isItem]
    exact Outcome.Silent.map (.mapAt (.go Cursor.silent_aliasAfter))
  have all : SourceUnit.after (.start list.tokens list.stop) =
      ([⟨.typeAlias declaration, false, span⟩], []) := by
    rw [SourceUnit.after, isNext]
    dsimp only
    generalize past.item = statement at stops items noErrors
    obtain ⟨itemsOf, ⟨⟨result, d⟩, reaches, moved, errors⟩⟩ := statement
    obtain ⟨value, d, same, _, stopped⟩ := stops
    cases same
    cases (items : itemsOf = _)
    cases (noErrors : errors = [])
    have none : d.next? = none := by
      cases isNext : d.next? with
      | none => rfl
      | some past =>
          rw [Cursor.kinds_of_next? isNext] at stopped
          cases stopped
    have nothingLeft : SourceUnit.after d = ([], []) := by rw [SourceUnit.after, none]
    dsimp only
    rw [nothingLeft]
    rfl
  exact ⟨declaration, span, by rw [ofTokens, all], by rw [ofTokens, all]; exact List.mergeSort_nil,
    isDeclaration⟩

/-- **The declaration of a name for a written type is read back, without faults and errors.** -/
theorem Linkage.Legible.declares {linkage : Linkage} {file : Nat} {sketch : Sketch (Leaf Nat)}
    (legible : linkage.Legible file sketch) :
    let list := TokenList.ofText (aliasText sketch.written.text).toList
    list.faults = [] ∧ (SourceUnit.ofTokens list).Declares (linkage.Means file sketch) := by
  obtain ⟨kinds, faults⟩ := legible.spelled.text.declared.ofText
  exact ⟨faults, SourceUnit.declares_ofTokens legible.readsBack.type kinds⟩

end InjectionCheck
