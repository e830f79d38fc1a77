import InjectionCheck.Proofs.FileProgress
import InjectionCheck.Proofs.NestedGroups
import InjectionCheck.Proofs.SilentStatements
import Mathlib.Tactic.MkIffOfInductiveProp

/-!
# Bodies that are skipped

Bodies of functions, methods, accessors and constructors are passed as bracketed groups. Here it
is written down which braces of a file are such bodies: for each rule on the way from the
statements of a file to a body, when it skips the body at a cursor (`Skips`). A rule that does so
succeeds with everything in front of the body and stops at its brace.

The members of a class and the statements of a file are read one after another, behind a member
or statement, or where recovery from its error ends. So a body is reached through any number of
members and statements that parse or do not.
-/

set_option autoImplicit false

namespace InjectionCheck

open Cursor

variable {α : Type} {moves : Bool} {c limit : Cursor}

/-- A rule succeeds, and something holds of its value and the cursor where it stops. -/
def Outcome.Then (outcome : Outcome moves c α)
    (holds : (value : α) → (d : Cursor) → d.remaining ≤ c.remaining → Prop) : Prop :=
  ∃ value, outcome.result = .ok value ∧ holds value outcome.rest outcome.reaches.remaining_le

/-- What holds only with some tokens ahead holds of a rule only with as many ahead. -/
theorem Outcome.Then.remaining_le {b : Cursor} {outcome : Outcome moves c α}
    {holds : (value : α) → (d : Cursor) → d.remaining ≤ c.remaining → Prop}
    (follows : outcome.Then holds)
    (further : ∀ value d atMost, holds value d atMost → b.remaining ≤ d.remaining) :
    b.remaining ≤ c.remaining := by
  obtain ⟨value, -, held⟩ := follows
  exact Nat.le_trans (further _ _ _ held) outcome.reaches.remaining_le

/-- The body at a cursor is next. -/
def Cursor.OpensBody (c b : Cursor) : Prop := c = b ∧ c.seesMark .lbrace = true

theorem Cursor.OpensBody.remaining_le {b : Cursor} (opens : c.OpensBody b) :
    b.remaining ≤ c.remaining :=
  Nat.le_of_eq (congrArg remaining opens.1.symm)

/-! ## Functions -/

/-- The rest of a function after its name skips the body. -/
def Rules.CallableSkips (rules : Rules limit) (c : Cursor) (inside : c.remaining ≤ limit.remaining)
    (b : Cursor) : Prop :=
  c.skipAnglesIfAny.Then fun _ c₁ atMost₁ =>
    (rules.parameters c₁ (Cursor.le_trans atMost₁ inside)).Then fun _ c₂ atMost₂ =>
      (rules.resultAscription c₂ (Cursor.le_trans atMost₂ (Cursor.le_trans atMost₁ inside))).Then
        fun _ c₃ _ => c₃.OpensBody b

namespace Cursor

/-- The rest of a function after its name skips the body. -/
def CallableSkips (c b : Cursor) : Prop := (Rules.all c).CallableSkips c c.le_self b

/-- A function skips its body. -/
def FunctionSkips (c b : Cursor) : Prop :=
  (c.expectKeyword .function_).Then fun _ c₁ atMost₁ =>
    (c₁.optionalMark .star).Then fun _ c₂ atMost₂ =>
      (c₂.optional fun kind => kind matches .name _).Then fun _ c₃ atMost₃ =>
        (Rules.all c).CallableSkips c₃ (Cursor.le_trans atMost₃ (Cursor.le_trans atMost₂ atMost₁)) b

/-! ## Members of classes -/

/-- A constructor skips its body, after its name. -/
def ConstructorSkips (c b : Cursor) : Prop := c.parameters.Then fun _ d _ => d.OpensBody b

/-- A method or getter skips its body, after its name. -/
def MethodSkips (c b : Cursor) : Prop :=
  c.skipAnglesIfAny.Then fun _ c₁ _ =>
    c₁.parameters.Then fun _ c₂ _ => c₂.resultAscription.Then fun _ c₃ _ => c₃.OpensBody b

/-- A member with a name skips its body. -/
def NamedMemberSkips (c b : Cursor) : Prop :=
  (c.optionalMark .star).Then fun _ c₁ _ =>
    c₁.propertyName.Then fun property c₂ _ =>
      (c₂.optionalMark .question).Then fun _ c₃ _ =>
        (c₃.optionalMark .bang).Then fun _ c₄ _ =>
          if property.name.getD "" = "constructor" ∧ c₄.seesMark .lparen then c₄.ConstructorSkips b
          else Rules.startsSignature c₄ ∧ c₄.MethodSkips b

/-- A method with a computed name skips its body. -/
def ComputedMemberSkips (c b : Cursor) : Prop :=
  c.skipGroup.Then fun _ c₁ _ =>
    (c₁.optionalMark .question).Then fun _ c₂ _ =>
      c₂.ascription.Then fun _ c₃ _ =>
        c₃.initial.Then fun _ c₄ _ => Rules.startsSignature c₄ ∧ c₄.CallableSkips b

/-- A member skips its body, after its modifiers. -/
def ModifiedMemberSkips (modifiers : Modifiers) (c b : Cursor) : Prop :=
  ¬(modifiers.isStatic ∧ c.seesMark .lbrace) ∧
    if c.seesMark .lbracket then c.ComputedMemberSkips b
    else
      ∃ past, c.next? = some past ∧
        if c.seesAccessorWord "get" then past.rest.NamedMemberSkips b
        else if c.seesAccessorWord "set" then
          past.rest.propertyName.Then fun _ d _ => d.CallableSkips b
        else c.NamedMemberSkips b

/-- A member of a class skips its body. -/
def ClassMemberSkips (c b : Cursor) : Prop :=
  c.mark? .semicolon = none ∧
    c.decorators.Then fun _ d _ =>
      (d.modifiers .none).Then fun modifiers e _ => e.ModifiedMemberSkips modifiers b

/-- Where a class goes on after the member that starts with a token: behind the member, or where
recovery from its error ends. -/
def Past.memberEnd {c : Cursor} (past : c.Past) :
    { d : Cursor // c.Reaches d ∧ d.remaining < c.remaining } :=
  match c.classMember with
  | ⟨⟨.ok _, d⟩, reaches, moved, _⟩ => ⟨d, reaches, Outcome.less_of_moved moved⟩
  | ⟨⟨.error _, d⟩, reaches, _, _⟩ => recoverMember past d reaches

/-- What the member at a cursor adds to its class. -/
def memberAdded (c : Cursor) : List ClassMember :=
  match c.classMember.result with
  | .ok member => member.toList
  | .error _ => []

/-- The error of the member at a cursor, if it does not parse. -/
def memberError (c : Cursor) : List ParseError :=
  match c.classMember.result with
  | .ok _ => []
  | .error error => [error]

/-- The members from a cursor on are the first one and those behind it. -/
theorem membersAfter_next {c : Cursor} {past : c.Past} (opened : c.mark? .rbrace = none)
    (isNext : c.next? = some past) (opening : Opening) (earlier : List ClassMember) :
    (membersAfter opening earlier c).errors =
        c.memberError ++
          (membersAfter opening (c.memberAdded ++ earlier) past.memberEnd.val).errors ∧
      (membersAfter opening earlier c).stopped =
        (membersAfter opening (c.memberAdded ++ earlier) past.memberEnd.val).stopped := by
  have silent := silent_classMember c
  rw [membersAfter.eq_def, opened, isNext]
  dsimp only [memberAdded, memberError, Past.memberEnd]
  generalize c.classMember = member at silent ⊢
  obtain ⟨⟨result, d⟩, reaches, moved, errors⟩ := member
  cases (silent : errors = [])
  cases result <;> exact ⟨rfl, rfl⟩

/-- One of the members of a class up to its closing brace skips its body. -/
@[mk_iff]
inductive MembersSkip (b : Cursor) : Cursor → Prop where
  | here {c : Cursor} {past : c.Past} (isNext : c.next? = some past)
    (opened : c.mark? .rbrace = none) (skips : c.ClassMemberSkips b) : MembersSkip b c
  | later {c : Cursor} {past : c.Past} (isNext : c.next? = some past)
    (opened : c.mark? .rbrace = none) (further : MembersSkip b past.memberEnd.val) :
    MembersSkip b c

/-- A member of a class skips its body, where the class starts with its word. -/
def ClassSkips (decorators : List Decorator) (isAbstract : Bool) (c b : Cursor) : Prop :=
  (c.classHead decorators isAbstract).Then fun _ d _ =>
    (d.expectMark .lbrace).Then fun _ e _ => MembersSkip b e

/-! ## Statements -/

/-- A statement skips a body, after its decorators and the word `export`: its own one if it is a
function, or that of a member if it is a class. -/
@[mk_iff]
inductive Past.StatementSkips {c : Cursor} (past : c.Past) (decorators : List Decorator)
    (b : Cursor) : Prop where
  | classWord (kind : past.token.kind = .keyword .class_) (skips : c.ClassSkips decorators false b)
  | abstractClass (kind : past.token.kind = .name "abstract")
    (second : past.rest.kind? = some (.keyword .class_))
    (skips : past.rest.ClassSkips decorators true b)
  | functionWord (kind : past.token.kind = .keyword .function_) (skips : c.FunctionSkips b)
  | asyncFunction (kind : past.token.kind = .name "async")
    (second : past.rest.kind? = some (.keyword .function_)) (skips : past.rest.FunctionSkips b)

/-- A statement skips a body, if there is a statement. -/
def StatementSkips (decorators : List Decorator) (c b : Cursor) : Prop :=
  ∃ past, c.next? = some past ∧ past.StatementSkips decorators b

/-- A class with a name skips the body of a member as the default export. -/
def DefaultClassSkips (decorators : List Decorator) (isAbstract : Bool) (c b : Cursor) : Prop :=
  ∃ past, c.next? = some past ∧ past.rest.seesSomeName ∧ c.ClassSkips decorators isAbstract b

/-- A default export skips a body, after its words. -/
@[mk_iff]
inductive DefaultSkips (decorators : List Decorator) (c b : Cursor) : Prop where
  | abstractClass {past : c.Past} (isNext : c.next? = some past)
    (kind : c.kind? = some (.name "abstract")) (second : c.peek? 1 = some (.keyword .class_))
    (skips : past.rest.DefaultClassSkips decorators true b)
  | classWord (kind : c.kind? = some (.keyword .class_))
    (skips : c.DefaultClassSkips decorators false b)
  | functionWord (kind : c.kind? = some (.keyword .function_)) (skips : c.FunctionSkips b)

/-- A statement after the word `export` and its decorators skips a body. -/
def ExportedSkips (decorators : List Decorator) (c b : Cursor) : Prop :=
  (∃ past, c.keyword? .default_ = some past ∧ past.rest.DefaultSkips decorators b) ∨
    c.keyword? .default_ = none ∧
      (if c.peek? 1 = some (.mark .lbrace) then c.optional (· = .name "type")
        else .ok false).Then fun _ d _ =>
          (d.seesMark .lbrace || d.seesMark .star) = false ∧ d.StatementSkips decorators b

/-- A statement after the word `export` skips a body. -/
def ExportSkips (earlier : List Decorator) (c b : Cursor) : Prop :=
  c.decorators.Then fun decorators d _ => d.ExportedSkips (earlier ++ decorators) b

/-- A statement after its decorators skips a body. -/
def DecoratedSkips (decorators : List Decorator) (c b : Cursor) : Prop :=
  (∃ past, c.keyword? .export_ = some past ∧ past.rest.ExportSkips decorators b) ∨
    c.keyword? .export_ = none ∧ c.StatementSkips decorators b

theorem Past.le_rest {c : Cursor} (past : c.Past) :
    past.rest.remaining ≤ past.rest.remaining :=
  past.rest.le_self

/-- The decorator behind a mark at the start of a statement. -/
def Past.firstDecorator {c : Cursor} (past : c.Past) : Outcome false past.rest Decorator :=
  ((Rules.all past.rest).decoratorAfter past.token.span past.rest past.le_rest).lax

/-- A top-level statement skips a body. -/
@[mk_iff]
inductive Past.ItemSkips {c : Cursor} (past : c.Past) (b : Cursor) : Prop where
  | decorated (kind : past.token.kind = .mark .at)
    (skips : past.firstDecorator.Then fun first d _ =>
      d.decorators.Then fun others e _ => e.DecoratedSkips (first :: others) b)
  | exported (kind : past.token.kind = .keyword .export_) (skips : past.rest.ExportSkips [] b)
  | plain (noDecorator : ¬past.token.kind = .mark .at)
    (noExport : ¬past.token.kind = .keyword .export_) (skips : past.StatementSkips [] b)

/-- The parser skips the body at a cursor, where the statements of a file are read on from
another one. -/
@[mk_iff]
inductive FileSkips (b : Cursor) : Cursor → Prop where
  | here {c : Cursor} {past : c.Past} (isNext : c.next? = some past) (skips : past.ItemSkips b) :
    FileSkips b c
  | later {c : Cursor} {past : c.Past} (isNext : c.next? = some past)
    (further : FileSkips b past.itemEnd.val) : FileSkips b c

end Cursor

/-! ## Bodies are ahead

A rule that skips the body at a cursor starts at that cursor or before it. -/

section Ahead

variable {b : Cursor} {decorators : List Decorator} {isAbstract : Bool}

theorem Rules.CallableSkips.remaining_le {rules : Rules limit} {inside}
    (skips : rules.CallableSkips c inside b) : b.remaining ≤ c.remaining :=
  Outcome.Then.remaining_le skips fun _ _ _ skips => skips.remaining_le fun _ _ _ skips =>
    skips.remaining_le fun _ _ _ opens => opens.remaining_le

namespace Cursor

theorem FunctionSkips.remaining_le (skips : c.FunctionSkips b) : b.remaining ≤ c.remaining :=
  Outcome.Then.remaining_le skips fun _ _ _ skips => skips.remaining_le fun _ _ _ skips =>
    skips.remaining_le fun _ _ _ skips => skips.remaining_le

theorem ConstructorSkips.remaining_le (skips : c.ConstructorSkips b) :
    b.remaining ≤ c.remaining :=
  Outcome.Then.remaining_le skips fun _ _ _ opens => opens.remaining_le

theorem MethodSkips.remaining_le (skips : c.MethodSkips b) : b.remaining ≤ c.remaining :=
  Outcome.Then.remaining_le skips fun _ _ _ skips => skips.remaining_le fun _ _ _ skips =>
    skips.remaining_le fun _ _ _ opens => opens.remaining_le

theorem NamedMemberSkips.remaining_le (skips : c.NamedMemberSkips b) :
    b.remaining ≤ c.remaining := by
  refine Outcome.Then.remaining_le skips fun _ _ _ skips => skips.remaining_le fun _ _ _ skips =>
    skips.remaining_le fun _ _ _ skips => skips.remaining_le fun _ _ _ skips => ?_
  split at skips
  · exact skips.remaining_le
  · exact skips.2.remaining_le

theorem ComputedMemberSkips.remaining_le (skips : c.ComputedMemberSkips b) :
    b.remaining ≤ c.remaining :=
  Outcome.Then.remaining_le skips fun _ _ _ skips => skips.remaining_le fun _ _ _ skips =>
    skips.remaining_le fun _ _ _ skips => skips.remaining_le fun _ _ _ skips =>
      Rules.CallableSkips.remaining_le skips.2

theorem ModifiedMemberSkips.remaining_le {modifiers : Modifiers}
    (skips : c.ModifiedMemberSkips modifiers b) : b.remaining ≤ c.remaining := by
  obtain ⟨-, skips⟩ := skips
  split at skips
  · exact skips.remaining_le
  obtain ⟨past, -, skips⟩ := skips
  split at skips
  · exact Nat.le_trans skips.remaining_le (Nat.le_of_lt past.less)
  split at skips
  · refine Nat.le_trans (skips.remaining_le fun _ _ _ skips => ?_) (Nat.le_of_lt past.less)
    exact Rules.CallableSkips.remaining_le skips
  · exact skips.remaining_le

theorem ClassMemberSkips.remaining_le (skips : c.ClassMemberSkips b) :
    b.remaining ≤ c.remaining :=
  skips.2.remaining_le fun _ _ _ skips => skips.remaining_le fun _ _ _ skips =>
    skips.remaining_le

theorem MembersSkip.remaining_le (skips : MembersSkip b c) : b.remaining ≤ c.remaining := by
  induction skips with
  | here _ _ skips => exact skips.remaining_le
  | @later c past _ _ _ ih => exact Nat.le_trans ih past.memberEnd.property.1.remaining_le

theorem ClassSkips.remaining_le (skips : c.ClassSkips decorators isAbstract b) :
    b.remaining ≤ c.remaining :=
  Outcome.Then.remaining_le skips fun _ _ _ skips => skips.remaining_le fun _ _ _ skips =>
    MembersSkip.remaining_le skips

theorem Past.StatementSkips.remaining_le {past : c.Past}
    (skips : past.StatementSkips decorators b) : b.remaining ≤ c.remaining := by
  have behind := Nat.le_of_lt past.less
  cases skips with
  | classWord _ skips => exact skips.remaining_le
  | abstractClass _ _ skips => exact Nat.le_trans skips.remaining_le behind
  | functionWord _ skips => exact skips.remaining_le
  | asyncFunction _ _ skips => exact Nat.le_trans skips.remaining_le behind

theorem StatementSkips.remaining_le (skips : c.StatementSkips decorators b) :
    b.remaining ≤ c.remaining := by
  obtain ⟨past, -, skips⟩ := skips
  exact skips.remaining_le

theorem DefaultClassSkips.remaining_le (skips : c.DefaultClassSkips decorators isAbstract b) :
    b.remaining ≤ c.remaining := by
  obtain ⟨-, -, -, skips⟩ := skips
  exact skips.remaining_le

theorem DefaultSkips.remaining_le (skips : c.DefaultSkips decorators b) :
    b.remaining ≤ c.remaining := by
  cases skips with
  | @abstractClass past _ _ _ skips =>
      exact Nat.le_trans skips.remaining_le (Nat.le_of_lt past.less)
  | classWord _ skips => exact skips.remaining_le
  | functionWord _ skips => exact skips.remaining_le

theorem ExportedSkips.remaining_le (skips : c.ExportedSkips decorators b) :
    b.remaining ≤ c.remaining := by
  obtain ⟨past, -, skips⟩ | ⟨-, skips⟩ := skips
  · exact Nat.le_trans skips.remaining_le (Nat.le_of_lt past.less)
  · exact skips.remaining_le fun _ _ _ skips => skips.2.remaining_le

theorem ExportSkips.remaining_le (skips : c.ExportSkips decorators b) :
    b.remaining ≤ c.remaining :=
  Outcome.Then.remaining_le skips fun _ _ _ skips => skips.remaining_le

theorem DecoratedSkips.remaining_le (skips : c.DecoratedSkips decorators b) :
    b.remaining ≤ c.remaining := by
  obtain ⟨past, -, skips⟩ | ⟨-, skips⟩ := skips
  · exact Nat.le_trans skips.remaining_le (Nat.le_of_lt past.less)
  · exact skips.remaining_le

theorem Past.ItemSkips.remaining_le {past : c.Past} (skips : past.ItemSkips b) :
    b.remaining ≤ c.remaining := by
  have behind := Nat.le_of_lt past.less
  cases skips with
  | decorated _ skips =>
      refine Nat.le_trans (skips.remaining_le fun _ _ _ skips => ?_) behind
      exact skips.remaining_le fun _ _ _ skips => skips.remaining_le
  | exported _ skips => exact Nat.le_trans skips.remaining_le behind
  | plain _ _ skips => exact skips.remaining_le

theorem FileSkips.remaining_le (skips : FileSkips b c) : b.remaining ≤ c.remaining := by
  induction skips with
  | here _ skips => exact skips.remaining_le
  | @later c past _ _ ih => exact Nat.le_trans ih past.itemEnd.property.1.remaining_le

end Cursor

end Ahead

/-! ## Deciding what is skipped -/

section Deciding

instance Outcome.decidableThen {outcome : Outcome moves c α}
    {holds : (value : α) → (d : Cursor) → d.remaining ≤ c.remaining → Prop}
    [∀ value d atMost, Decidable (holds value d atMost)] : Decidable (outcome.Then holds) :=
  match result : outcome.result with
  | .ok value =>
    decidable_of_iff (holds value outcome.rest outcome.reaches.remaining_le)
      ⟨fun held => ⟨value, result, held⟩, fun ⟨_, succeeded, held⟩ => by
        cases result.symm.trans succeeded
        exact held⟩
  | .error _ => isFalse fun ⟨_, succeeded, _⟩ => by cases result.symm.trans succeeded

instance decidableExistsSome {β : Type} {found : Option β} {holds : β → Prop}
    [DecidablePred holds] : Decidable (∃ value, found = some value ∧ holds value) :=
  match found with
  | some value => decidable_of_iff (holds value) (by simp)
  | none => isFalse (by simp)

variable {b : Cursor} {decorators : List Decorator} {isAbstract : Bool} {modifiers : Modifiers}

instance : Decidable (c.OpensBody b) := inferInstanceAs (Decidable (c = b ∧ _))

instance {rules : Rules limit} {inside} : Decidable (rules.CallableSkips c inside b) :=
  inferInstanceAs (Decidable (Outcome.Then _ _))

namespace Cursor

instance : Decidable (c.CallableSkips b) :=
  inferInstanceAs (Decidable (Rules.CallableSkips _ _ _ _))

instance : Decidable (c.FunctionSkips b) := inferInstanceAs (Decidable (Outcome.Then _ _))

instance : Decidable (c.ConstructorSkips b) := inferInstanceAs (Decidable (Outcome.Then _ _))

instance : Decidable (c.MethodSkips b) := inferInstanceAs (Decidable (Outcome.Then _ _))

set_option synthInstance.maxSize 400 in
instance : Decidable (c.NamedMemberSkips b) := inferInstanceAs (Decidable (Outcome.Then _ _))

instance : Decidable (c.ComputedMemberSkips b) := inferInstanceAs (Decidable (Outcome.Then _ _))

instance : Decidable (c.ModifiedMemberSkips modifiers b) :=
  inferInstanceAs (Decidable (_ ∧ if c.seesMark .lbracket then _ else ∃ past, c.next? = some past ∧
    if c.seesAccessorWord "get" then past.rest.NamedMemberSkips b
    else if c.seesAccessorWord "set" then
      past.rest.propertyName.Then fun _ d _ => d.CallableSkips b
    else c.NamedMemberSkips b))

instance : Decidable (c.ClassMemberSkips b) := inferInstanceAs (Decidable (_ ∧ Outcome.Then _ _))

instance decidableMembersSkip (b c : Cursor) : Decidable (MembersSkip b c) :=
  match isNext : c.next? with
  | some past =>
    have := past.memberEnd.property.2
    have := decidableMembersSkip b past.memberEnd.val
    decidable_of_iff (c.mark? .rbrace = none ∧
        (c.ClassMemberSkips b ∨ MembersSkip b past.memberEnd.val))
      (by simp [membersSkip_iff b c, isNext, and_or_left])
  | none => isFalse (by simp [membersSkip_iff b c, isNext])
termination_by c.remaining

instance : Decidable (c.ClassSkips decorators isAbstract b) :=
  inferInstanceAs (Decidable (Outcome.Then _ _))

instance {past : c.Past} : Decidable (past.StatementSkips decorators b) :=
  decidable_of_iff' _ (past.statementSkips_iff decorators b)

instance : Decidable (c.StatementSkips decorators b) :=
  inferInstanceAs (Decidable (∃ past, c.next? = some past ∧ past.StatementSkips decorators b))

instance : Decidable (c.DefaultClassSkips decorators isAbstract b) :=
  inferInstanceAs (Decidable (∃ past, c.next? = some past ∧ past.rest.seesSomeName ∧
    c.ClassSkips decorators isAbstract b))

instance : Decidable (c.DefaultSkips decorators b) :=
  decidable_of_iff' _ (defaultSkips_iff decorators c b)

instance : Decidable (c.ExportedSkips decorators b) :=
  inferInstanceAs (Decidable ((∃ past, c.keyword? .default_ = some past ∧
    past.rest.DefaultSkips decorators b) ∨ _ ∧ Outcome.Then _ _))

instance : Decidable (c.ExportSkips decorators b) := inferInstanceAs (Decidable (Outcome.Then _ _))

instance : Decidable (c.DecoratedSkips decorators b) :=
  inferInstanceAs (Decidable ((∃ past, c.keyword? .export_ = some past ∧
    past.rest.ExportSkips decorators b) ∨ _ ∧ _))

instance {past : c.Past} : Decidable (past.ItemSkips b) :=
  decidable_of_iff' _ (past.itemSkips_iff b)

instance decidableFileSkips (b c : Cursor) : Decidable (FileSkips b c) :=
  match isNext : c.next? with
  | some past =>
    have := past.itemEnd.property.2
    have := decidableFileSkips b past.itemEnd.val
    decidable_of_iff (past.ItemSkips b ∨ FileSkips b past.itemEnd.val)
      (by simp [fileSkips_iff b c, isNext])
  | none => isFalse (by simp [fileSkips_iff b c, isNext])
termination_by c.remaining

end Cursor

end Deciding

end InjectionCheck
