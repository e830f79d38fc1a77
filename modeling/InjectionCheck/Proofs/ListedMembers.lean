import InjectionCheck.Proofs.DeclaredInheritance
import InjectionCheck.Proofs.SettledTypes

/-!
# Shapes without a table of shapes

The members of a class or an interface can be listed from the declarations alone: its own members,
the first one where several have one name, and then of each parent in order those whose names are
not taken yet (`Linkage.allMembers`). This goes up through the parents again and again, with no
memory of what was listed before, and it comes to an end where extends clauses do not lead in a
circle.

Shapes are computed once and kept, and while a shape is being computed its declaration gives no
members. In the absence of circles none of this can be told from the shapes: whatever is computed
first, each shape has the members that are listed (`Linkage.tells_computeShape`), and their types
are those that their annotations mean. `Program.shape_ofFiles` says so of the shapes of a program,
and that no class or interface is left without a shape in the presence of circles either.
-/

set_option autoImplicit false

namespace InjectionCheck

/-- Members as they read, whatever numbers their types have: what is said of each one, and the
sketch of its type. -/
def TypeTable.describe (table : TypeTable) (members : List Member) :
    List (MemberLabel × Sketch (Leaf Nat)) :=
  members.map fun member => (member.label, table.pool.sketchBy id member.type)

/-! ## Members as they are declared -/

/-- What is said of a member, and the sketch of its type. -/
abbrev ListedMember := MemberLabel × Sketch Nat

namespace ListedMember

/-- Of several members with one name the first one. -/
def firstOfNames : List ListedMember → List ListedMember
  | [] => []
  | member :: others =>
    member :: (firstOfNames others).filter fun other => other.1.name ≠ member.1.name

/-- Some members, and then those of others whose names are not taken. -/
def inherit (members inherited : List ListedMember) : List ListedMember :=
  members ++ inherited.filter fun member => member.1.name ∉ members.map (·.1.name)

end ListedMember

namespace Linkage

variable (linkage : Linkage)

/-- A method, which has a function type. -/
def listMethod (file : Nat) (name : String) (optional : Bool) (access : Access)
    (parameters : List Parameter) (result : Option TypeExpression) : ListedMember :=
  (⟨name, optional, access, true⟩, .make (.function (parameters.map Parameter.label))
    (linkage.sketchParameters file parameters ++ [linkage.sketchIfAny file result]))

/-- The members of instances that a member of a class declares: static members declare none, and
the constructor those of its parameters that are properties. -/
def listClassMember (file : Nat) : ClassMember → List ListedMember
  | .property form =>
    if form.isStatic then []
    else [(⟨form.name, form.optional, form.access, false⟩, linkage.sketchIfAny file form.type)]
  | .method form =>
    if form.isStatic then []
    else [linkage.listMethod file form.name form.optional form.access form.parameters form.result]
  | .constructor form =>
    (form.parameters.filter Parameter.isProperty).map fun parameter =>
      (⟨parameter.name, parameter.optional, parameter.access.getD .public_, false⟩,
        linkage.sketchIfAny file parameter.type)

/-- A member of an interface, which is public. -/
def listTypeMember (file : Nat) : TypeMember → ListedMember
  | ⟨name, optional, _, .property type, _⟩ =>
    (⟨name, optional, .public_, false⟩, linkage.sketchIfAny file type)
  | ⟨name, optional, _, .method parameters result, _⟩ =>
    linkage.listMethod file name optional .public_ parameters result

/-- The members that a declaration declares, in order. -/
def listMembers (declaration : Declaration) : List ListedMember :=
  match declaration.form with
  | .classType form => form.members.flatMap (linkage.listClassMember declaration.file)
  | .interfaceType form => form.members.map (linkage.listTypeMember declaration.file)
  | .typeAlias _ | .binding _ => []

/-- **The members of a class or an interface, own and inherited**, where extends clauses do not lead
in a circle. -/
def allMembers (acyclic : linkage.Acyclic) (number : Nat) : List ListedMember :=
  match _ : linkage.declarations[number]? with
  | none => []
  | some declaration =>
    (linkage.parentsOf declaration).attach.foldl
      (fun before parent => ListedMember.inherit before (allMembers acyclic parent.1))
      (ListedMember.firstOfNames (linkage.listMembers declaration))
termination_by acyclic.wellFounded.wrap number
decreasing_by exact ⟨declaration, ‹_›, parent.2⟩

theorem allMembers_eq {acyclic : linkage.Acyclic} {number : Nat} {declaration : Declaration}
    (declared : linkage.declarations[number]? = some declaration) :
    linkage.allMembers acyclic number = (linkage.parentsOf declaration).foldl
      (fun before parent => ListedMember.inherit before (linkage.allMembers acyclic parent))
      (ListedMember.firstOfNames (linkage.listMembers declaration)) := by
  rw [allMembers]
  split
  · next undeclared =>
    rw [undeclared] at declared
    cases declared
  · next other found =>
    cases declared.symm.trans found
    exact List.foldl_attach (f := fun before parent =>
      ListedMember.inherit before (linkage.allMembers acyclic parent))

/-- A listed member with the type that a table gives it. -/
def memberIn (table : TypeTable) (member : ListedMember) : Member :=
  member.1.member (member.2.lower (linkage.lowerDeclaration []) table).1

end Linkage

/-! ## Lists of members and of listed members -/

namespace ListedMember

/-- Adds a member unless its name is taken. -/
def add (members : List ListedMember) (member : ListedMember) : List ListedMember :=
  if member.1.name ∈ members.map (·.1.name) then members else members ++ [member]

/-- Of the first ones of their names, those whose names are not taken. -/
theorem filter_firstOfNames_cons (taken : List String) (member : ListedMember)
    (others : List ListedMember) :
    (firstOfNames (member :: others)).filter (fun other => other.1.name ∉ taken) =
      if member.1.name ∈ taken then
        (firstOfNames others).filter fun other => other.1.name ∉ taken
      else
        member :: (firstOfNames others).filter fun other =>
          other.1.name ∉ taken ++ [member.1.name] := by
  rw [firstOfNames]
  by_cases isTaken : member.1.name ∈ taken
  · rw [if_pos isTaken, List.filter_cons_of_neg (by simpa using isTaken), List.filter_filter]
    apply List.filter_congr
    intro other _
    have unlike : other.1.name ∉ taken → other.1.name ≠ member.1.name := by
      intro free same
      exact free (same ▸ isTaken)
    simpa using unlike
  · rw [if_neg isTaken, List.filter_cons_of_pos (by simpa using isTaken), List.filter_filter]
    congr 1
    apply List.filter_congr
    intro other _
    rw [← Bool.decide_and]
    simp only [List.mem_append, List.mem_singleton, not_or, ne_eq]

/-- Where members are added one after another, the first one of each name is added. -/
theorem foldl_add (members before : List ListedMember) :
    members.foldl add before = inherit before (firstOfNames members) := by
  induction members generalizing before with
  | nil => exact (List.append_nil before).symm
  | cons member others ih =>
    rw [List.foldl_cons, ih, inherit, inherit, filter_firstOfNames_cons, add]
    split
    · rfl
    · rw [List.map_append, List.map_singleton, List.append_assoc, List.singleton_append]

theorem nil_inherit (members : List ListedMember) : inherit [] members = members := by
  simp [inherit]

variable {give : ListedMember → Member} (keepsName : ∀ member, (give member).name = member.1.name)
include keepsName

theorem any_name_map (members : List ListedMember) (name : String) :
    (members.map give).any (·.name = name) = decide (name ∈ members.map (·.1.name)) := by
  rw [Bool.eq_iff_iff, any_name_eq_iff, decide_eq_true_eq, List.map_map]
  simp only [Function.comp_def, keepsName]

theorem map_add (members : List ListedMember) (member : ListedMember) :
    (add members member).map give = addMember (members.map give) (give member) := by
  rw [add, addMember, any_name_map keepsName, keepsName]
  by_cases taken : member.1.name ∈ members.map (·.1.name)
  · rw [if_pos taken, if_pos (decide_eq_true taken)]
  · rw [if_neg taken, if_neg (by simpa using taken), List.map_append, List.map_singleton]

theorem map_inherit (members inherited : List ListedMember) :
    (inherit members inherited).map give =
      withInherited (members.map give) (inherited.map give) := by
  rw [inherit, withInherited, List.map_append, List.filter_map]
  congr 2
  apply List.filter_congr
  intro member _
  rw [Function.comp_apply, any_name_map keepsName, keepsName, decide_not]

end ListedMember

/-! ## Own members -/

namespace Linkage

section OwnMembers

variable (linkage : Linkage)

/-- Lowers a listed member, and adds it unless its name is taken. -/
def addListed (state : List Member × TypeTable) (member : ListedMember) :
    List Member × TypeTable :=
  let made := member.2.lower (linkage.lowerDeclaration []) state.2
  (addMember state.1 (member.1.member made.1), made.2)

theorem addParameterProperties_eq (file : Nat) (state : List Member × TypeTable)
    (parameters : List Parameter) :
    linkage.addParameterProperties file state parameters =
      ((parameters.filter Parameter.isProperty).map fun parameter =>
        ((⟨parameter.name, parameter.optional, parameter.access.getD .public_, false⟩,
          linkage.sketchIfAny file parameter.type) : ListedMember)).foldl linkage.addListed
            state := by
  induction parameters generalizing state with
  | nil => rfl
  | cons parameter others ih =>
    rw [addParameterProperties]
    split
    · next isProperty =>
      rw [List.filter_cons_of_pos isProperty, lowerIfAny_eq]
      exact ih _
    · next noProperty => rw [List.filter_cons_of_neg noProperty, ih]

theorem addClassMember_eq (file : Nat) (state : List Member × TypeTable) (member : ClassMember) :
    linkage.addClassMember file state member =
      (linkage.listClassMember file member).foldl linkage.addListed state := by
  cases member with
  | property form =>
    rw [addClassMember, listClassMember]
    split
    · rfl
    · rw [lowerIfAny_eq]
      rfl
  | method form =>
    rw [addClassMember, listClassMember]
    split
    · rfl
    · rw [lowerMethod_eq]
      rfl
  | constructor form => exact linkage.addParameterProperties_eq file state form.parameters

theorem foldl_addClassMember_eq (file : Nat) (members : List ClassMember)
    (state : List Member × TypeTable) :
    members.foldl (linkage.addClassMember file) state =
      (members.flatMap (linkage.listClassMember file)).foldl linkage.addListed state := by
  rw [List.foldl_flatMap]
  congr 1
  funext state member
  exact linkage.addClassMember_eq file state member

/-- The members of an interface, of which only those with free names are lowered. -/
theorem sketchMembers_eq (file : Nat) (taken : List String) (members : List TypeMember) :
    linkage.sketchMembers file taken members =
      (ListedMember.firstOfNames (members.map (linkage.listTypeMember file))).filter
        fun member => member.1.name ∉ taken := by
  induction members generalizing taken with
  | nil => rfl
  | cons member others ih =>
    have step : linkage.sketchMembers file taken (member :: others) =
        if member.name ∈ taken then linkage.sketchMembers file taken others
        else linkage.listTypeMember file member ::
          linkage.sketchMembers file (taken ++ [member.name]) others := by
      obtain ⟨name, optional, readonly, kind, span⟩ := member
      cases kind <;> rfl
    have sameName : (linkage.listTypeMember file member).1.name = member.name := by
      obtain ⟨name, optional, readonly, kind, span⟩ := member
      cases kind <;> rfl
    rw [step, List.map_cons, ListedMember.filter_firstOfNames_cons, sameName, ih, ih]

theorem fits_listMethod (file : Nat) (name : String) (optional : Bool) (access : Access)
    (parameters : List Parameter) (result : Option TypeExpression) :
    (linkage.listMethod file name optional access parameters result).2.Fits :=
  (linkage.orderly_method file (linkage.orderly_sketchIfAny file result)
    (linkage.orderly_sketchParameters file parameters)).fits

theorem fits_listClassMember (file : Nat) (form : ClassMember) :
    ∀ member ∈ linkage.listClassMember file form, member.2.Fits := by
  intro member isMember
  cases form with
  | property form =>
    rw [listClassMember] at isMember
    split at isMember
    · cases isMember
    · rw [List.mem_singleton.1 isMember]
      exact (linkage.orderly_sketchIfAny file form.type).fits
  | method form =>
    rw [listClassMember] at isMember
    split at isMember
    · cases isMember
    · rw [List.mem_singleton.1 isMember]
      exact linkage.fits_listMethod file form.name form.optional form.access form.parameters
        form.result
  | constructor form =>
    obtain ⟨parameter, -, rfl⟩ := List.mem_map.1 isMember
    exact (linkage.orderly_sketchIfAny file parameter.type).fits

theorem fits_listTypeMember (file : Nat) (member : TypeMember) :
    (linkage.listTypeMember file member).2.Fits := by
  obtain ⟨name, optional, readonly, kind, span⟩ := member
  cases kind with
  | property type => exact (linkage.orderly_sketchIfAny file type).fits
  | method parameters result =>
    exact linkage.fits_listMethod file name optional .public_ parameters result

theorem fits_listMembers (declaration : Declaration) :
    ∀ member ∈ linkage.listMembers declaration, member.2.Fits := by
  intro member isMember
  unfold listMembers at isMember
  split at isMember
  · obtain ⟨form, -, isMember⟩ := List.mem_flatMap.1 isMember
    exact linkage.fits_listClassMember declaration.file form member isMember
  · obtain ⟨form, -, rfl⟩ := List.mem_map.1 isMember
    exact linkage.fits_listTypeMember declaration.file form
  · cases isMember
  · cases isMember

variable {linkage} {table : TypeTable} {state : List Member × TypeTable}

theorem memberIn_name (table : TypeTable) (member : ListedMember) :
    (linkage.memberIn table member).name = member.1.name := rfl

/-- Some members are those that are listed, with types of the table that every later table gives
them. -/
structure Lists (linkage : Linkage) (table : TypeTable) (members : List Member)
    (listed : List ListedMember) : Prop where
  same : ∀ later, table.Widens later → members = listed.map (linkage.memberIn later)
  inUse : ∀ member ∈ members, member.type.number < table.pool.size

variable {later : TypeTable} {members inherited : List Member}
  {listed listedToo : List ListedMember}

theorem Lists.nil (linkage : Linkage) (table : TypeTable) : linkage.Lists table [] [] :=
  ⟨fun _ _ => rfl, List.forall_mem_nil _⟩

theorem Lists.widen (lists : linkage.Lists table members listed) (widens : table.Widens later) :
    linkage.Lists later members listed where
  same latest further := lists.same latest (widens.trans further)
  inUse member isMember := Nat.lt_of_lt_of_le (lists.inUse member isMember) widens.pool.size_le

theorem Lists.inherit (lists : linkage.Lists table members listed)
    (lists' : linkage.Lists table inherited listedToo) :
    linkage.Lists table (withInherited members inherited)
      (ListedMember.inherit listed listedToo) where
  same later widens := by
    rw [ListedMember.map_inherit (memberIn_name later), ← lists.same later widens,
      ← lists'.same later widens]
  inUse member isMember := by
    rcases mem_withInherited.1 isMember with own | ⟨given, -⟩
    · exact lists.inUse member own
    · exact lists'.inUse member given

/-- A member is added with the type that every later table gives it. -/
theorem Lists.add (lists : linkage.Lists table members listed) (settled : linkage.Settled table)
    {member : ListedMember} (fits : member.2.Fits) :
    let made := linkage.addListed (members, table) member
    linkage.Lists made.2 made.1 (ListedMember.add listed member) := by
  have drawn := settled.draws_sketch fits
  have before := lists.widen drawn.toWidens
  refine ⟨?_, ?_⟩
  · intro later widens
    rw [ListedMember.map_add (memberIn_name later), ← before.same later widens, memberIn,
      settled.lower_again fits widens]
    rfl
  · intro other isOther
    rcases mem_addMember isOther with isMember | rfl
    · exact before.inUse other isMember
    · exact drawn.inUse

theorem Settled.foldl_addListed (settled : linkage.Settled state.2) {members : List ListedMember}
    (fits : ∀ member ∈ members, member.2.Fits) (lists : linkage.Lists state.2 state.1 listed) :
    let made := members.foldl linkage.addListed state
    state.2.Widens made.2 ∧
      linkage.Lists made.2 made.1 (members.foldl ListedMember.add listed) := by
  induction members generalizing state listed with
  | nil => exact ⟨.refl _, lists⟩
  | cons member others ih =>
    obtain ⟨fitsFirst, fitsOthers⟩ := List.forall_mem_cons.1 fits
    have first := (settled.draws_sketch fitsFirst).toWidens
    have settledFirst : linkage.Settled (linkage.addListed state member).2 := settled.widen first
    obtain ⟨rest, listsAll⟩ := ih settledFirst fitsOthers (lists.add settled fitsFirst)
    exact ⟨first.trans rest, listsAll⟩

/-- Sketches are lowered one after another to the types that every later table gives them. -/
theorem Settled.lowerAll_again (settled : linkage.Settled table) {parts : List (Sketch Nat)}
    (fits : ∀ part ∈ parts, part.Fits) :
    let made := Sketch.lowerAll (linkage.lowerDeclaration []) parts table
    table.Widens made.2 ∧ (∀ type ∈ made.1, type.number < made.2.pool.size) ∧
      ∀ later, made.2.Widens later →
        made.1 = parts.map fun part => (part.lower (linkage.lowerDeclaration []) later).1 := by
  induction parts generalizing table with
  | nil => exact ⟨.refl table, List.forall_mem_nil _, fun _ _ => rfl⟩
  | cons part others ih =>
    obtain ⟨fitsFirst, fitsOthers⟩ := List.forall_mem_cons.1 fits
    have first := settled.draws_sketch fitsFirst
    obtain ⟨rest, inUse, types⟩ := ih (settled.widen first.toWidens) fitsOthers
    rw [Sketch.lowerAll_cons]
    refine ⟨first.toWidens.trans rest, ?_, ?_⟩
    · exact List.forall_mem_cons.2 ⟨Nat.lt_of_lt_of_le first.inUse rest.pool.size_le, inUse⟩
    · intro later widens
      rw [List.map_cons, types later widens, settled.lower_again fitsFirst (rest.trans widens)]

/-- The members of an interface are lowered one after another. -/
theorem Settled.lists_zipWith (settled : linkage.Settled table)
    (fits : ∀ member ∈ listed, member.2.Fits) :
    let made := Sketch.lowerAll (linkage.lowerDeclaration []) (listed.map Prod.snd) table
    table.Widens made.2 ∧ linkage.Lists made.2
      (List.zipWith MemberLabel.member (listed.map Prod.fst) made.1) listed := by
  obtain ⟨widens, inUse, types⟩ := settled.lowerAll_again (List.forall_mem_map.2 fits)
  refine ⟨widens, ?_, ?_⟩
  · intro later further
    rw [types later further, List.map_map, List.zipWith_map, List.zipWith_self]
    rfl
  · intro member isMember
    rw [← List.map_uncurry_zip_eq_zipWith] at isMember
    obtain ⟨⟨label, type⟩, isPair, rfl⟩ := List.mem_map.1 isMember
    exact inUse type (List.of_mem_zip isPair).2

/-- **The own members of a declaration are those that it lists**, the first one of each name. -/
theorem Settled.ownMembers (settled : linkage.Settled table) (declaration : Declaration) :
    let made := linkage.ownMembers table declaration
    table.Widens made.2 ∧ linkage.Lists made.2 made.1
      (ListedMember.firstOfNames (linkage.listMembers declaration)) := by
  obtain ⟨file, item, exported, form⟩ := declaration
  cases form with
  | classType form =>
    have same : linkage.ownMembers table ⟨file, item, exported, .classType form⟩ =
        (linkage.listMembers ⟨file, item, exported, .classType form⟩).foldl linkage.addListed
          ([], table) :=
      linkage.foldl_addClassMember_eq file form.members ([], table)
    have start : linkage.Lists (([], table) : List Member × TypeTable).2 [] [] :=
      .nil linkage table
    have lists := Settled.foldl_addListed settled
      (linkage.fits_listMembers ⟨file, item, exported, .classType form⟩) start
    rwa [← same, ListedMember.foldl_add, ListedMember.nil_inherit] at lists
  | interfaceType form =>
    have same : linkage.ownMembers table ⟨file, item, exported, .interfaceType form⟩ =
        let made := Sketch.lowerAll (linkage.lowerDeclaration [])
          ((linkage.sketchMembers file [] form.members).map Prod.snd) table
        (List.zipWith MemberLabel.member
          ((linkage.sketchMembers file [] form.members).map Prod.fst) made.1, made.2) :=
      linkage.lowerMembers_eq [] table file [] form.members
    have sketched : linkage.sketchMembers file [] form.members =
        ListedMember.firstOfNames (form.members.map (linkage.listTypeMember file)) := by
      simp [sketchMembers_eq]
    have lists := settled.lists_zipWith (List.forall_mem_map.1 fun part isPart =>
      (linkage.orderly_sketchMembers file [] form.members part isPart).fits)
    rw [same]
    rwa [sketched] at lists ⊢
  | typeAlias form => exact ⟨.refl table, .nil linkage table⟩
  | binding form => exact ⟨.refl table, .nil linkage table⟩

end OwnMembers

/-! ## Shapes -/

/-- The types of a table are settled, and its shapes have the members that are listed. -/
structure Tells (linkage : Linkage) (acyclic : linkage.Acyclic) (table : ShapeTable) : Prop where
  settled : linkage.Settled table.types
  lists : ∀ number shape, table.shape? number = some shape →
    linkage.Lists table.types shape.members (linkage.allMembers acyclic number)

section Shapes

variable {linkage : Linkage} {acyclic : linkage.Acyclic} {table : ShapeTable}

/-- Types are added and bases recorded. -/
theorem Tells.widen (tells : linkage.Tells acyclic table) {types : TypeTable}
    (widens : table.types.Widens types) (bases : Array (Option Nat)) :
    linkage.Tells acyclic { table with types, bases } where
  settled := tells.settled.widen widens
  lists number shape found := (tells.lists number shape found).widen widens

/-- A shape is kept that has the members that are listed. -/
theorem Tells.keep (tells : linkage.Tells acyclic table) {number : Nat} {shape : Shape}
    (lists : linkage.Lists table.types shape.members (linkage.allMembers acyclic number)) :
    linkage.Tells acyclic
      { table with shapes := table.shapes.setIfInBounds number (some shape) } where
  settled := tells.settled
  lists other found isFound := by
    rw [ShapeTable.shape?_keep] at isFound
    split at isFound
    · next same =>
      obtain rfl := same.1
      cases isFound
      exact lists
    · exact tells.lists other found isFound

variable (linkage)

-- As in `keeps_computeShape`, the declarations whose shapes are being computed lead to all others
-- that come up meanwhile, so that in the absence of circles no parent is left out.
mutual

/-- **Computing a shape gives the members that are listed**, whatever was computed before. -/
theorem tells_computeShape (acyclic : linkage.Acyclic) (path : List Nat) {table : ShapeTable}
    (records : linkage.RecordsBases table) (tells : linkage.Tells acyclic table) (number : Nat)
    (leads : ∀ other ∈ path, Relation.TransGen linkage.Extends other number) :
    let further := linkage.computeShape path table number
    table.types.Widens further.types ∧ linkage.Tells acyclic further := by
  rw [computeShape]
  split
  · exact ⟨.refl _, tells⟩
  · split
    · next inside =>
      split
      · next fresh =>
        have := unvisited_cons_lt (List.mem_range.2 inside) fresh
        have declared := Array.getElem?_eq_getElem inside
        have base : linkage.base? linkage.declarations[number] = linkage.declaredBase number := by
          rw [declaredBase, declared, Option.bind_some]
        dsimp only
        rw [base]
        obtain ⟨widens, own⟩ := tells.settled.ownMembers linkage.declarations[number]
        have grows := linkage.grows_ownMembers table.types linkage.declarations[number]
        have steps : ∀ parent ∈ linkage.parentsOf linkage.declarations[number],
            ∀ other ∈ number :: path, Relation.TransGen linkage.Extends other parent := by
          intro parent isParent other isOther
          have step : linkage.Extends number parent := ⟨_, declared, isParent⟩
          rcases List.mem_cons.1 isOther with rfl | before
          · exact .single step
          · exact (leads other before).tail step
        obtain ⟨further, tellsAll, lists⟩ := tells_inherit acyclic (number :: path)
          ((Advances.record number grows).records records)
          (tells.widen widens (table.bases.setIfInBounds number (linkage.declaredBase number)))
          own (linkage.parentsOf linkage.declarations[number]) steps
          (fun parent isParent => parent_lt isParent)
        rw [← linkage.allMembers_eq declared] at lists
        exact ⟨widens.trans further, tellsAll.keep lists⟩
      · exact ⟨.refl _, tells⟩
    · exact ⟨.refl _, tells⟩
termination_by (unvisited linkage.numbers path, 0)

theorem tells_inherit (acyclic : linkage.Acyclic) (path : List Nat) {table : ShapeTable}
    (records : linkage.RecordsBases table) (tells : linkage.Tells acyclic table)
    {members : List Member} {listed : List ListedMember}
    (lists : linkage.Lists table.types members listed) (parents : List Nat)
    (leads : ∀ parent ∈ parents, ∀ other ∈ path, Relation.TransGen linkage.Extends other parent)
    (inside : ∀ parent ∈ parents, parent < linkage.declarations.size) :
    let made := linkage.inherit path table members parents
    table.types.Widens made.2.types ∧ linkage.Tells acyclic made.2 ∧
      linkage.Lists made.2.types made.1 (parents.foldl
        (fun before parent => ListedMember.inherit before (linkage.allMembers acyclic parent))
        listed) := by
  cases parents with
  | nil =>
    rw [inherit]
    exact ⟨.refl _, tells, lists⟩
  | cons parent others =>
    rw [inherit]
    obtain ⟨leadsFirst, leadsOthers⟩ := List.forall_mem_cons.1 leads
    obtain ⟨insideFirst, insideOthers⟩ := List.forall_mem_cons.1 inside
    obtain ⟨widens, tellsParent⟩ := tells_computeShape acyclic path records tells parent leadsFirst
    obtain ⟨advances, present⟩ := linkage.advances_computeShape path table parent
    obtain ⟨shape, found⟩ := Option.isSome_iff_exists.1
      (present records insideFirst fun again => acyclic _ (leadsFirst _ again))
    dsimp only
    rw [found, Option.map_some, Option.getD_some]
    obtain ⟨further, tellsAll, listsAll⟩ := tells_inherit acyclic path (advances.records records)
      tellsParent ((lists.widen widens).inherit (tellsParent.lists parent shape found)) others
      leadsOthers insideOthers
    exact ⟨widens.trans further, tellsAll, listsAll⟩
termination_by (unvisited linkage.numbers path, parents.length + 1)

end

theorem tells_empty (acyclic : linkage.Acyclic) {types : TypeTable}
    (settled : linkage.Settled types) : linkage.Tells acyclic (.empty linkage types) where
  settled := settled
  lists number shape found := by
    simp only [ShapeTable.shape?, ShapeTable.empty, Array.getElem?_replicate] at found
    split at found <;> cases found

/-- The shapes that there are when those of some declarations are computed in some order. -/
def shapesIn (order : List Nat) (types : TypeTable) : ShapeTable :=
  order.foldl (linkage.computeShape []) (.empty linkage types)

/-- **In any order the shapes have the members that are listed.** -/
theorem tells_shapesIn (acyclic : linkage.Acyclic) (order : List Nat) {types : TypeTable}
    (settled : linkage.Settled types) :
    types.Widens (linkage.shapesIn order types).types ∧
      linkage.Tells acyclic (linkage.shapesIn order types) := by
  have step : ∀ (order : List Nat) (table : ShapeTable), linkage.RecordsBases table →
      linkage.Tells acyclic table →
        table.types.Widens (order.foldl (linkage.computeShape []) table).types ∧
          linkage.Tells acyclic (order.foldl (linkage.computeShape []) table) := by
    intro order
    induction order with
    | nil => exact fun table _ tells => ⟨.refl _, tells⟩
    | cons number others ih =>
      intro table records tells
      obtain ⟨widens, tellsOne⟩ :=
        linkage.tells_computeShape acyclic [] records tells number (List.forall_mem_nil _)
      have advances := (linkage.advances_computeShape [] table number).1
      obtain ⟨further, tellsAll⟩ := ih _ (advances.records records) tellsOne
      exact ⟨widens.trans further, tellsAll⟩
  exact step order _ (linkage.recordsBases_empty types) (linkage.tells_empty acyclic settled)

/-- A declaration whose shape is computed has one, also where extends clauses lead in a circle. -/
theorem isSome_shape?_shapesIn {order : List Nat} {number : Nat} (types : TypeTable)
    (isOne : number ∈ order) (inside : number < linkage.declarations.size) :
    ((linkage.shapesIn order types).shape? number).isSome = true :=
  (linkage.advances_foldl_computeShape order (linkage.recordsBases_empty types)).2 number isOne
    inside

/-! ### Types of listed members -/

variable {linkage}

theorem mem_of_mem_firstOfNames {member : ListedMember} {members : List ListedMember}
    (isFirst : member ∈ ListedMember.firstOfNames members) : member ∈ members := by
  induction members with
  | nil => cases isFirst
  | cons first others ih =>
    rcases List.mem_cons.1 isFirst with rfl | later
    · exact List.mem_cons_self
    · exact List.mem_cons_of_mem _ (ih (List.mem_of_mem_filter later))

theorem fits_allMembers (acyclic : linkage.Acyclic) (number : Nat) :
    ∀ member ∈ linkage.allMembers acyclic number, member.2.Fits := by
  induction number using acyclic.wellFounded.induction with
  | _ number ih =>
    cases declared : linkage.declarations[number]? with
    | none =>
      have nothing : linkage.allMembers acyclic number = [] := by
        rw [allMembers]
        split
        · rfl
        · next found => cases declared.symm.trans found
      rw [nothing]
      exact List.forall_mem_nil _
    | some declaration =>
      rw [linkage.allMembers_eq declared]
      refine List.foldlRecOn _ _ (motive := fun members : List ListedMember =>
        ∀ member ∈ members, member.2.Fits) ?_ ?_
      · intro member isMember
        exact linkage.fits_listMembers declaration member (mem_of_mem_firstOfNames isMember)
      · intro members fits parent isParent member isMember
        rcases List.mem_append.1 isMember with own | given
        · exact fits member own
        · exact ih parent ⟨declaration, declared, isParent⟩ member (List.mem_of_mem_filter given)

/-- The types of listed members are those that their annotations mean. -/
theorem Lists.describe_eq {types : TypeTable} {members : List Member} {listed : List ListedMember}
    (lists : linkage.Lists types members listed) (settled : linkage.Settled types)
    (fits : ∀ member ∈ listed, member.2.Fits) :
    types.describe members =
      listed.map fun member => (member.1, member.2.value types.sketchOf) := by
  have same := lists.same types (.refl types)
  rw [TypeTable.describe, same, List.map_map]
  apply List.map_congr_left
  intro member isMember
  have drawn := settled.draws_sketch (fits member isMember)
  have inUse := lists.inUse (linkage.memberIn types member)
    (same ▸ List.mem_map_of_mem isMember)
  have kept := drawn.pool.sketchBy_eq id _ inUse
  exact Prod.ext rfl (kept.symm.trans drawn.sketched)

end Shapes

end Linkage

/-! ## Programs -/

namespace Program

/-- **Every class and interface has a shape**, in which no name is repeated, and which is nominal
exactly if some member is not public. Where extends clauses do not lead in a circle, the shape has
the members that are listed, with the types that the program gives their annotations, and in
whatever order shapes are computed, this one has members that read the same. -/
theorem shape_ofFiles (sources : List SourceFile) {number : Nat} {name : String}
    (declares : (ofFiles sources).linkage.DeclaresObject number name) :
    let program := ofFiles sources
    ∃ shape, program.shape? number = some shape ∧ (shape.members.map Member.name).Nodup ∧
      (shape.isNominal = true ↔ ∃ member ∈ shape.members, member.access ≠ .public_) ∧
      ∀ acyclic : program.linkage.Acyclic,
        shape.members = (program.linkage.allMembers acyclic number).map
          (program.linkage.memberIn program.table.types) ∧
        ∀ order : List Nat, number ∈ order →
          let table := program.linkage.shapesIn order
            (program.linkage.declarationTypes (.empty program.linkage)).2
          ∃ other, table.shape? number = some other ∧
            other.members = (program.linkage.allMembers acyclic number).map
              (program.linkage.memberIn table.types) ∧
            table.types.describe other.members =
              program.table.types.describe shape.members := by
  intro program
  obtain ⟨declaration, declared, isObject, _⟩ := declares
  have inside := (Array.getElem?_eq_some_iff.1 declared).1
  have isShaped : number ∈ program.linkage.shaped := by
    refine List.mem_filter.2 ⟨List.mem_range.2 inside, ?_⟩
    rw [declared, Option.any_some]
    simpa using isObject
  have inOrder (order : List Nat) (isOne : number ∈ order) :=
    program.linkage.isSome_shape?_shapesIn
      (program.linkage.declarationTypes (.empty program.linkage)).2 isOne inside
  obtain ⟨shape, found⟩ := Option.isSome_iff_exists.1 (inOrder _ isShaped)
  have wellMade := (FromFiles.ofFiles sources).wellMade number shape found
  refine ⟨shape, found, wellMade.distinct, wellMade.nominal, ?_⟩
  · intro acyclic
    have settled := program.linkage.settled_declarationTypes
    have fits := Linkage.fits_allMembers acyclic number
    have told := fun order => program.linkage.tells_shapesIn acyclic order settled
    obtain ⟨widens, tells⟩ := told program.linkage.shaped
    have lists := tells.lists number shape found
    refine ⟨lists.same _ (.refl _), ?_⟩
    intro order isOne table
    obtain ⟨other, found'⟩ := Option.isSome_iff_exists.1 (inOrder order isOne)
    obtain ⟨widens', tells'⟩ := told order
    have lists' := tells'.lists number other found'
    refine ⟨other, found', lists'.same _ (.refl _), ?_⟩
    have types := lists.describe_eq tells.settled fits
    have types' := lists'.describe_eq tells'.settled fits
    rw [settled.sketchOf_eq widens] at types
    rw [settled.sketchOf_eq widens'] at types'
    exact types'.trans types.symm

/-- A person is a being in two ways, and has the members of a being once, also where its shape is
the first one that is computed. -/
theorem shape_ofFiles_people :
    let program := ofFiles [people]
    let first := program.linkage.shapesIn [3, 0, 2, 1]
      (program.linkage.declarationTypes (.empty program.linkage)).2
    (∃ name, program.linkage.DeclaresObject 3 name) ∧
      ∃ (acyclic : program.linkage.Acyclic) (shape other : Shape),
        program.shape? 3 = some shape ∧ (shape.members.map Member.name).Nodup ∧
        shape.members = (program.linkage.allMembers acyclic 3).map
          (program.linkage.memberIn program.table.types) ∧
        first.shape? 3 = some other ∧
        first.types.describe other.members = program.table.types.describe shape.members := by
  obtain ⟨plain, _, _, isPerson⟩ := linkage_people
  obtain ⟨person, declared, isInterface, _⟩ := exists_of_isDeclared isPerson
  have declares : (ofFiles [people]).linkage.DeclaresObject 3 person.name :=
    ⟨person, declared, .inr isInterface, rfl⟩
  have acyclic := acyclic_of_isPlain plain
  obtain ⟨shape, found, distinct, _, listed⟩ := shape_ofFiles [people] declares
  obtain ⟨same, inOrder⟩ := listed acyclic
  obtain ⟨other, found', _, same'⟩ := inOrder [3, 0, 2, 1] List.mem_cons_self
  exact ⟨⟨_, declares⟩, acyclic, shape, other, found, distinct, same, found', same'⟩

end Program

end InjectionCheck
