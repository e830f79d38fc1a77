import InjectionCheck.Grammar.Expressions

/-!
# Classes

The rules for classes and their members. A member that does not parse is recorded
as an error and passed, and the class goes on after it. So a class may come with
errors whether or not the class as a whole parses.
-/

set_option autoImplicit false

namespace InjectionCheck

namespace Cursor

/-- The decorators at a cursor. -/
def decorators (c : Cursor) : Outcome false c (List Decorator) :=
  (Rules.all c).decorators [] c c.le_self

/-- The parameters at a cursor, in parentheses. -/
def parameters (c : Cursor) : Outcome true c (List Parameter) :=
  (Rules.all c).parameters c c.le_self

/-- The members of an interface at a cursor, in braces. -/
def typeMembers (c : Cursor) : Outcome true c (List TypeMember) :=
  (Rules.all c).typeMembers c c.le_self

/-- Passes the parameters, return type and body of a function after its name. -/
def skipCallableTail (c : Cursor) : Outcome true c Unit :=
  (Rules.all c).skipCallableTail c c.le_self

/-- Passes a function. -/
def skipFunction (c : Cursor) : Outcome true c Unit :=
  (Rules.all c).skipFunction c c.le_self

/-- A type after a colon, if there is one. -/
def ascription (c : Cursor) : Outcome false c (Option TypeExpression) :=
  match c.mark? .colon with
  | some past => ((past.go past.rest.type).map some).lax
  | none => .ok none

/-- A return type after a colon, if there is one. -/
def resultAscription (c : Cursor) : Outcome false c (Option TypeExpression) :=
  (Rules.all c).resultAscription c c.le_self

/-- A value after an equals sign, if there is one. -/
def initial (c : Cursor) : Outcome false c (Option Expression) :=
  match c.mark? .eq with
  | some past => ((past.go past.rest.assignment).map some).lax
  | none => .ok none

/-! ## Heritage -/

/-- Passes the parts of a name after its first, and says whether there are any. -/
def skipNameParts (qualified : Bool) (c : Cursor) : Outcome false c Bool :=
  match c.mark? .dot with
  | some past =>
    have := past.less
    (past.go (past.rest.propertyName.andThen fun _ d _ => skipNameParts true d)).lax
  | none => .ok qualified
termination_by c.remaining
decreasing_by omega

/-- A name in a heritage clause. A qualified name is passed and gives nothing. -/
def heritageName (c : Cursor) : Outcome true c (Option NameUse) :=
  c.expectName.andThen fun name d _ =>
    (d.skipNameParts false).bind fun qualified e _ =>
      e.skipAnglesIfAny.bind fun _ f _ =>
        (.ok (if qualified then none else some name) : Outcome false f (Option NameUse))

/-- Names in a heritage clause, with commas between them. -/
def heritageNames (earlier : List NameUse) (c : Cursor) : Outcome true c (List NameUse) :=
  c.heritageName.andThen fun name d _ =>
    match d.mark? .comma with
    | some past =>
      have := past.less
      (past.go (heritageNames (name.toList ++ earlier) past.rest)).lax
    | none => .ok (name.toList ++ earlier).reverse
termination_by c.remaining
decreasing_by omega

/-- A heritage clause with names, if there is one. -/
def heritageClause (word : Keyword) (c : Cursor) : Outcome false c (List NameUse) :=
  match c.keyword? word with
  | some past => (past.go (past.rest.heritageNames [])).lax
  | none => .ok []

/-- The clause that names the base of a class, if there is one. -/
def baseClause (c : Cursor) : Outcome false c (Option NameUse) :=
  match c.keyword? .extends_ with
  | some past => (past.go past.rest.heritageName).lax
  | none => .ok none

/-! ## Members -/

/-- Whether a given word starts an accessor and is not itself the name of a
member. -/
def seesAccessorWord (c : Cursor) (word : String) : Bool :=
  c.seesName word && (c.namesProperty 1 || c.peek? 1 = some (.mark .lbracket))

/-- Passes the body of a function, or a semicolon instead of one. -/
def skipBody (c : Cursor) : Outcome false c Unit :=
  if c.seesMark .lbrace then (c.skipGroup.map fun _ => ()).lax else c.optionalSemicolon

/-- Passes an index signature or a member with a computed name. -/
def skipComputedClassMember (c : Cursor) : Outcome true c Unit :=
  c.skipGroup.andThen fun _ c₁ _ =>
    (c₁.optionalMark .question).bind fun _ c₂ _ =>
      c₂.ascription.bind fun _ c₃ _ =>
        c₃.initial.bind fun _ c₄ _ =>
          if Rules.startsSignature c₄ then c₄.skipCallableTail.lax else c₄.optionalSemicolon

end Cursor

/-- The type of a property without annotation whose value is a primitive literal. -/
def Expression.literalType? (value : Expression) : Option TypeExpression :=
  let named (name : String) : Option TypeExpression := some ⟨.named name [], value.span⟩
  match value.form with
  | .string _ | .template => named "string"
  | .number => named "number"
  | .boolean _ => named "boolean"
  | _ => none

namespace Cursor

/-- A constructor after its name. -/
def constructorAfter (start : Span) (c : Cursor) : Outcome true c ClassMember :=
  c.parameters.andThen fun parameters d _ =>
    d.skipBody.bind fun _ e _ =>
      (.ok (.constructor ⟨parameters, e.spanFrom start⟩) : Outcome false e ClassMember)

/-- A method or getter after its name. A getter counts as a property. -/
def methodAfter (start : Span) (modifiers : Modifiers) (isGetter : Bool) (name : String)
    (optional : Bool) (c : Cursor) : Outcome true c ClassMember :=
  c.skipAnglesIfAny.bind fun _ c₁ _ =>
    c₁.parameters.andThen fun parameters c₂ _ =>
      c₂.resultAscription.bind fun result c₃ _ =>
        c₃.skipBody.bind fun _ c₄ _ =>
          let access := modifiers.access.getD .public_
          let span := c₄.spanFrom start
          let member : ClassMember :=
            if isGetter then
              .property ⟨access, modifiers.isStatic, true, name, optional, result, span⟩
            else .method ⟨access, modifiers.isStatic, name, optional, parameters, result, span⟩
          (.ok member : Outcome false c₄ ClassMember)

/-- A property after its name. -/
def propertyAfter (start : Span) (modifiers : Modifiers) (name : String) (optional : Bool)
    (c : Cursor) : Outcome false c ClassMember :=
  c.ascription.bind fun type c₁ _ =>
    c₁.initial.bind fun value c₂ _ =>
      c₂.optionalSemicolon.bind fun _ c₃ _ =>
        .ok (.property
          { access := modifiers.access.getD .public_
            isStatic := modifiers.isStatic
            readonly := modifiers.readonly
            name
            optional
            type := type <|> value.bind Expression.literalType?
            span := c₃.spanFrom start })

/-- A member with a name. -/
def namedMember (start : Span) (modifiers : Modifiers) (isGetter : Bool) (c : Cursor) :
    Outcome true c ClassMember :=
  (c.optionalMark .star).bind fun _ c₁ _ =>
    c₁.propertyName.andThen fun property c₂ _ =>
      (c₂.optionalMark .question).bind fun optional c₃ _ =>
        (c₃.optionalMark .bang).bind fun _ c₄ _ =>
          let name := property.name.getD ""
          if name = "constructor" ∧ c₄.seesMark .lparen then (c₄.constructorAfter start).lax
          else if Rules.startsSignature c₄ then
            (c₄.methodAfter start modifiers isGetter name optional).lax
          else c₄.propertyAfter start modifiers name optional

/-- A member after its decorators and modifiers. Static blocks, computed names and
setters give nothing. -/
def memberAfter (start : Span) (modifiers : Modifiers) (c : Cursor) :
    Outcome true c (Option ClassMember) :=
  if modifiers.isStatic ∧ c.seesMark .lbrace then c.skipGroup.map fun _ => none
  else if c.seesMark .lbracket then c.skipComputedClassMember.map fun _ => none
  else
    match c.next? with
    | none => (c.namedMember start modifiers false).map some
    | some past =>
      if c.seesAccessorWord "get" then
        past.go ((past.rest.namedMember start modifiers true).map some)
      else if c.seesAccessorWord "set" then
        past.go (past.rest.propertyName.andThen fun _ d _ =>
          d.skipCallableTail.map fun _ => none)
      else (c.namedMember start modifiers false).map some

/-- A member of a class; a lone semicolon gives nothing. -/
def classMember (c : Cursor) : Outcome true c (Option ClassMember) :=
  match c.mark? .semicolon with
  | some past => past.go (.ok none)
  | none =>
    c.decorators.bind fun _ d _ =>
      (d.modifiers .none).bind fun modifiers e _ => e.memberAfter c.span modifiers

/-- A cursor that another one reaches. -/
abbrev Further (c : Cursor) : Type := { d : Cursor // c.Reaches d }

/-- Passes tokens up to where a member may start: past a semicolon or a body in
braces, or up to the closing brace of the class. -/
def skipToMember (c : Cursor) : c.Further :=
  match c.next? with
  | none => ⟨c, .refl c⟩
  | some past =>
    have := past.less
    match past.token.kind with
    | .mark .rbrace => ⟨c, .refl c⟩
    | .mark .semicolon => ⟨past.rest, past.reaches⟩
    | .mark .lbrace =>
      let group := restOfGroup .brace past.token.span past.rest
      ⟨group.rest, past.reaches.trans group.reaches⟩
    | kind =>
      match kind.opens? with
      | some bracket =>
        let group := restOfGroup bracket past.token.span past.rest
        have := (restOfGroup bracket past.token.span past.rest).reaches.remaining_le
        let further := skipToMember group.rest
        ⟨further.val, past.reaches.trans (group.reaches.trans further.property)⟩
      | none =>
        let further := skipToMember past.rest
        ⟨further.val, past.reaches.trans further.property⟩
termination_by c.remaining
decreasing_by all_goals omega

/-- Where a class goes on after a member that started at `past` and stopped at `c`
without success: at least one token is passed. -/
def recoverMember {start : Cursor} (past : start.Past) (c : Cursor) (reaches : start.Reaches c) :
    { d : Cursor // start.Reaches d ∧ d.remaining < start.remaining } :=
  have := past.less
  if same : c.remaining = start.remaining then
    let further := skipToMember past.rest
    have := further.property.remaining_le
    ⟨further.val, past.reaches.trans further.property, by omega⟩
  else
    let further := skipToMember c
    have := further.property.remaining_le
    have := reaches.remaining_le
    ⟨further.val, reaches.trans further.property, by omega⟩

/-- The members of a class up to and past its closing brace. -/
def membersAfter (opening : Opening) (earlier : List ClassMember) (c : Cursor) :
    Outcome true c (List ClassMember) :=
  match c.mark? .rbrace with
  | some past => past.go (.ok earlier.reverse)
  | none =>
    match c.next? with
    | none => .fail (.unclosed opening .rbrace c.span)
    | some past =>
      match c.classMember with
      | ⟨⟨.ok member, d⟩, reaches, moved, errors⟩ =>
        have less := Outcome.less_of_moved moved
        ((membersAfter opening (member.toList ++ earlier) d).seenFrom reaches less).recording errors
      | ⟨⟨.error error, d⟩, reaches, _, errors⟩ =>
        let recovered := recoverMember past d reaches
        have less := recovered.property.2
        ((membersAfter opening earlier recovered.val).seenFrom recovered.property.1 less).recording
          (errors ++ [error])
termination_by c.remaining
decreasing_by all_goals exact less

/-- The body of a class, in braces. -/
def classBody (c : Cursor) : Outcome true c (List ClassMember) :=
  (c.expectMark .lbrace).andThen fun opened d _ => d.membersAfter ⟨.lbrace, opened.span⟩ []

/-- The head of a class: everything before its body. -/
def classHead (decorators : List Decorator) (isAbstract : Bool) (c : Cursor) :
    Outcome true c ClassDeclaration :=
  (c.expectKeyword .class_).andThen fun _ c₁ _ =>
    c₁.expectName.andThen fun name c₂ _ =>
      c₂.skipAnglesIfAny.bind fun _ c₃ _ =>
        c₃.baseClause.bind fun base c₄ _ =>
          (c₄.heritageClause .implements_).bind fun implemented c₅ _ =>
            (.ok
              { name := name.name
                nameSpan := name.span
                decorators
                isAbstract
                base
                implemented
                members := [] } : Outcome false c₅ ClassDeclaration)

/-- A class, from its word on. -/
def classDeclaration (decorators : List Decorator) (isAbstract : Bool) (c : Cursor) :
    Outcome true c ClassDeclaration :=
  (c.classHead decorators isAbstract).andThen fun head d _ =>
    d.classBody.map fun members => { head with members }

end Cursor

end InjectionCheck
