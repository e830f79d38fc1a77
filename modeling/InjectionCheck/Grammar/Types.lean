import InjectionCheck.Grammar.Rules

/-!
# Types

The rules for types. Forms that the checker never compares (conditional, mapped and
indexed access types, `keyof`, qualified names, template literals) are passed and
give `TypeForm.unmodelled`.
-/

set_option autoImplicit false

namespace InjectionCheck

namespace Cursor

/-- A type of a given form from a given start up to the last token passed. -/
def typeFrom (c : Cursor) (start : Span) (form : TypeForm) : TypeExpression :=
  ⟨form, c.spanFrom start⟩

/-- Passes the parts of a qualified name after its first, and type arguments. -/
def skipQualifiedTail (c : Cursor) : Outcome false c Unit :=
  match c.mark? .dot with
  | some past =>
    have := past.less
    (past.go (past.rest.propertyName.andThen fun _ d _ => skipQualifiedTail d)).lax
  | none => c.skipAnglesIfAny
termination_by c.remaining
decreasing_by omega

/-- Passes the rest of an imported type and gives a form that is not compared. -/
def importedType (start : Span) (c : Cursor) : Outcome true c TypeExpression :=
  c.skipGroup.andThen fun _ d _ =>
    d.skipQualifiedTail.bind fun _ e _ => .ok (e.typeFrom start .unmodelled)

/-- The type of a value. Only a plain name is kept. -/
def valueType (start : Span) (c : Cursor) : Outcome true c TypeExpression :=
  match c.keyword? .import_ with
  | some past => past.go (past.rest.importedType start)
  | none =>
    c.expectName.andThen fun value d _ =>
      if d.seesMark .dot then
        d.skipQualifiedTail.bind fun _ e _ =>
          (.ok (e.typeFrom start .unmodelled) : Outcome false e TypeExpression)
      else
        d.skipAnglesIfAny.bind fun _ e _ =>
          (.ok (e.typeFrom start (.typeOf value.name)) : Outcome false e TypeExpression)

end Cursor

/-- Whether a token can start the operand of a word in front of a type. -/
def Kind.startsTypeOperand : Kind → Bool
  | .name _ | .string _ | .mark .lparen | .mark .lbracket | .mark .lbrace
  | .keyword .typeof_ | .keyword .this_ => true
  | _ => false

/-- Whether a token can be the subject of a type predicate. -/
def Kind.isPredicateSubject : Kind → Bool
  | .name _ | .keyword .this_ => true
  | _ => false

namespace Rules

variable {limit : Cursor}

/-- A return type. A type predicate is a boolean, and an assertion gives nothing. -/
def returnType (rules : Rules limit) (c : Cursor) (inside : c.remaining < limit.remaining) :
    Outcome true c TypeExpression :=
  match c.next? with
  | none => rules.type c inside
  | some first =>
    match first.rest.next? with
    | none => rules.type c inside
    | some second =>
      have := first.less
      have := second.less
      if first.token.kind = .name "asserts" ∧ second.token.kind.isPredicateSubject then
        match second.rest.name? "is" with
        | some past =>
          have := past.less
          first.go (second.go (past.go ((rules.type past.rest (by omega)).andThen fun _ d _ =>
            .ok (d.typeFrom c.span (.named "void" [])))))
        | none =>
          first.go (second.go (.ok (second.rest.typeFrom c.span (.named "void" []))))
      else if first.token.kind.isPredicateSubject ∧ second.token.kind = .name "is" then
        first.go (second.go ((rules.type second.rest (by omega)).andThen fun _ d _ =>
          .ok (d.typeFrom c.span (.named "boolean" []))))
      else rules.type c inside

/-- A return type after a colon, if there is one. -/
def resultAscription (rules : Rules limit) (c : Cursor)
    (inside : c.remaining ≤ limit.remaining) : Outcome false c (Option TypeExpression) :=
  match c.mark? .colon with
  | some past =>
    have := past.less
    ((past.go (rules.returnType past.rest (by omega))).map some).lax
  | none => .ok none

/-- Type arguments in angle brackets. -/
def typeArguments (rules : Rules limit) (c : Cursor) (inside : c.remaining ≤ limit.remaining) :
    Outcome true c (List TypeExpression) :=
  (c.expectMark .lt).andThen fun opened d less =>
    elements ⟨.lt, opened.span⟩ .gt id rules.type [] d (Cursor.lt_of_lt_of_le less inside)

/-- A function type. -/
def functionType (rules : Rules limit) (c : Cursor) (inside : c.remaining ≤ limit.remaining) :
    Outcome true c TypeExpression :=
  c.skipAnglesIfAny.bind fun _ c₁ _ =>
    (rules.parameters c₁ (by omega)).andThen fun parameters c₂ _ =>
      (c₂.expectMark .arrow).andThen fun _ c₃ _ =>
        (rules.returnType c₃ (by omega)).andThen fun result c₄ _ =>
          (.ok (c₄.typeFrom c.span (.function parameters result)) :
            Outcome false c₄ TypeExpression)

/-! ## Tuples -/

/-- Passes the label of a tuple element, if it has one. -/
def skipElementLabel (c : Cursor) : Outcome false c Unit :=
  match c.next? with
  | none => .ok ()
  | some first =>
    match first.token.kind with
    | .name _ =>
      match first.rest.mark? .colon with
      | some past => (first.go (past.go (.ok ()))).lax
      | none =>
        match first.rest.mark? .question with
        | some second =>
          match second.rest.mark? .colon with
          | some past => (first.go (second.go (past.go (.ok ())))).lax
          | none => .ok ()
        | none => .ok ()
    | _ => .ok ()

/-- An element of a tuple. -/
def tupleElement (rules : Rules limit) (c : Cursor) (inside : c.remaining < limit.remaining) :
    Outcome true c TypeExpression :=
  (c.optionalMark .ellipsis).bind fun _ c₁ _ =>
    (skipElementLabel c₁).bind fun _ c₂ _ =>
      (rules.type c₂ (by omega)).andThen fun type c₃ _ =>
        (c₃.optionalMark .question).bind fun _ c₄ _ =>
          (.ok type : Outcome false c₄ TypeExpression)

/-- A tuple type. -/
def tupleType (rules : Rules limit) (c : Cursor) (inside : c.remaining ≤ limit.remaining) :
    Outcome true c TypeExpression :=
  (c.expectMark .lbracket).andThen fun opened d less =>
    (elements ⟨.lbracket, opened.span⟩ .rbracket id rules.tupleElement [] d
      (Cursor.lt_of_lt_of_le less inside)).andThen fun members e _ =>
        (.ok (e.typeFrom opened.span (.tuple members)) : Outcome false e TypeExpression)

/-! ## Members of interfaces and object types -/

/-- Passes the rest of a call signature. -/
def skipSignature (rules : Rules limit) (c : Cursor) (inside : c.remaining ≤ limit.remaining) :
    Outcome true c Unit :=
  c.skipAnglesIfAny.bind fun _ c₁ _ =>
    (rules.parameters c₁ (by omega)).andThen fun _ c₂ _ =>
      (rules.resultAscription c₂ (by omega)).map fun _ => ()

/-- Whether a signature starts here. -/
def startsSignature (c : Cursor) : Bool := c.seesMark .lparen || c.seesMark .lt

/-- Passes an index signature or a member with a computed name. -/
def skipComputedMember (rules : Rules limit) (c : Cursor)
    (inside : c.remaining ≤ limit.remaining) : Outcome true c Unit :=
  c.skipGroup.andThen fun _ c₁ _ =>
    (c₁.optionalMark .question).bind fun _ c₂ _ =>
      if startsSignature c₂ then (rules.skipSignature c₂ (by omega)).lax
      else (rules.ascription c₂ (by omega)).map fun _ => ()

/-- Passes the word of an accessor if a name follows it, and says whether the
accessor is a getter. -/
def skipAccessorWord (c : Cursor) : Outcome false c Bool :=
  if c.namesProperty 1 then
    match c.name? "get" with
    | some past => (past.go (.ok true)).lax
    | none => (c.optional (· = .name "set")).map fun _ => false
  else .ok false

/-- A member with a name. -/
def namedTypeMember (rules : Rules limit) (start : Span) (readonly : Bool) (c : Cursor)
    (inside : c.remaining ≤ limit.remaining) : Outcome true c TypeMember :=
  (skipAccessorWord c).bind fun isGetter c₁ _ =>
    c₁.propertyName.andThen fun property c₂ _ =>
      (c₂.optionalMark .question).bind fun optional c₃ _ =>
        let name := property.name.getD ""
        if startsSignature c₃ then
          c₃.skipAnglesIfAny.bind fun _ c₄ _ =>
            ((rules.parameters c₄ (by omega)).andThen fun parameters c₅ _ =>
              (rules.resultAscription c₅ (by omega)).bind fun result c₆ _ =>
                let kind : TypeMemberKind :=
                  if isGetter then .property result else .method parameters result
                (.ok ⟨name, optional, readonly || isGetter, kind, c₆.spanFrom start⟩ :
                  Outcome false c₆ TypeMember)).lax
        else
          (rules.ascription c₃ (by omega)).bind fun type c₄ _ =>
            (.ok ⟨name, optional, readonly, .property type, c₄.spanFrom start⟩ :
              Outcome false c₄ TypeMember)

/-- A member of an interface or object type; signatures without a name give
nothing. -/
def typeMember (rules : Rules limit) (c : Cursor) (inside : c.remaining ≤ limit.remaining) :
    Outcome true c (Option TypeMember) :=
  if startsSignature c then (rules.skipSignature c inside).map fun _ => none
  else
    match c.keyword? .new_ with
    | some past =>
      if startsSignature past.rest then
        past.go ((rules.skipSignature past.rest (past.le_of_le inside)).map fun _ => none)
      else (rules.namedTypeMember c.span false c inside).map some
    | none =>
      (c.optionalModifier "readonly").bind fun readonly d _ =>
        if d.seesMark .lbracket then (rules.skipComputedMember d (by omega)).map fun _ => none
        else (rules.namedTypeMember c.span readonly d (by omega)).map some

/-- Passes semicolons and commas. -/
def skipSeparators (c : Cursor) : Outcome false c Unit :=
  match c.nextIf? fun kind => kind = .mark .semicolon || kind = .mark .comma with
  | some past => (past.go (skipSeparators past.rest)).lax
  | none => .ok ()
termination_by c.remaining
decreasing_by exact past.less

/-- The members up to and past the closing brace. -/
def typeMembersAfter (rules : Rules limit) (opening : Opening) (earlier : List TypeMember)
    (c : Cursor) (inside : c.remaining ≤ limit.remaining) : Outcome true c (List TypeMember) :=
  (skipSeparators c).bind fun _ d _ =>
    match d.mark? .rbrace with
    | some past => past.go (.ok earlier.reverse)
    | none =>
      if d.atEnd then .fail (.unclosed opening .rbrace d.span)
      else
        (rules.typeMember d (by omega)).andThen fun member e _ =>
          (typeMembersAfter rules opening (member.toList ++ earlier) e (by omega)).lax
termination_by c.remaining
decreasing_by omega

/-- The members of an interface or object type, in braces. -/
def typeMembers (rules : Rules limit) (c : Cursor) (inside : c.remaining ≤ limit.remaining) :
    Outcome true c (List TypeMember) :=
  (c.expectMark .lbrace).andThen fun opened d _ =>
    (rules.typeMembersAfter ⟨.lbrace, opened.span⟩ [] d (by omega)).lax

/-! ## Types without operators -/

/-- A named type after its first name. -/
def namedTypeAfter (rules : Rules limit) (start : Span) (name : String) (c : Cursor)
    (inside : c.remaining ≤ limit.remaining) : Outcome false c TypeExpression :=
  if c.seesMark .dot then
    c.skipQualifiedTail.bind fun _ d _ => .ok (d.typeFrom start .unmodelled)
  else if c.seesMark .lt then
    (rules.typeArguments c inside).lax.bind fun arguments d _ =>
      .ok (d.typeFrom start (.named name arguments))
  else .ok (c.typeFrom start (.named name []))

/-- A function type whose form is not compared. -/
def constructorType (rules : Rules limit) (start : Span) (c : Cursor)
    (inside : c.remaining ≤ limit.remaining) : Outcome true c TypeExpression :=
  (rules.functionType c inside).andThen fun _ d _ => .ok (d.typeFrom start .unmodelled)

/-- A type without operators. -/
def primaryType (rules : Rules limit) (c : Cursor) (inside : c.remaining ≤ limit.remaining) :
    Outcome true c TypeExpression :=
  match c.next? with
  | none => .fail (c.expected .type)
  | some past =>
    have := past.less
    let start := past.token.span
    match past.token.kind with
    | .mark .lparen =>
      if Lookahead.startsFunctionType c.ahead then rules.functionType c inside
      else
        past.go ((rules.type past.rest (by omega)).andThen fun type d _ =>
          (d.expectMark .rparen).map fun _ => type)
    | .mark .lt => rules.functionType c inside
    | .keyword .new_ => past.go (rules.constructorType start past.rest (past.le_of_le inside))
    | .mark .lbrace =>
      if Lookahead.startsMappedType c.ahead then
        c.skipGroup.andThen fun _ d _ => .ok (d.typeFrom start .unmodelled)
      else
        (rules.typeMembers c inside).andThen fun members d _ =>
          .ok (d.typeFrom start (.object members))
    | .mark .lbracket => rules.tupleType c inside
    | .string content => past.go (.ok ⟨.stringLiteral content, start⟩)
    | .number | .keyword .true_ | .keyword .false_ => past.go (.ok ⟨.otherLiteral, start⟩)
    | .mark .minus =>
      match past.rest.nextIf? (· = .number) with
      | some number => past.go (number.go (.ok (number.rest.typeFrom start .otherLiteral)))
      | none => .fail (c.expected .type)
    | .template | .keyword .this_ => past.go (.ok (past.rest.typeFrom start .unmodelled))
    | .keyword .null_ => past.go (.ok (past.rest.typeFrom start (.named "null" [])))
    | .keyword .void_ => past.go (.ok (past.rest.typeFrom start (.named "void" [])))
    | .keyword .typeof_ => past.go (past.rest.valueType start)
    | .keyword .import_ => past.go (past.rest.importedType start)
    | .name "abstract" =>
      match past.rest.keyword? .new_ with
      | some new =>
        have := new.less
        past.go (new.go (rules.constructorType start new.rest (by omega)))
      | none => past.go (rules.namedTypeAfter start "abstract" past.rest (past.le_of_le inside))
    | .name name => past.go (rules.namedTypeAfter start name past.rest (past.le_of_le inside))
    | _ => .fail (c.expected .type)

/-! ## Operators -/

/-- The array and indexed access suffixes of a type. -/
def typeSuffixes (rules : Rules limit) (start : Span) (type : TypeExpression) (c : Cursor)
    (inside : c.remaining < limit.remaining) : Outcome false c TypeExpression :=
  match c.mark? .lbracket with
  | none => .ok type
  | some past =>
    have := past.less
    match past.rest.mark? .rbracket with
    | some closed =>
      have := closed.less
      (past.go (closed.go (typeSuffixes rules start (closed.rest.typeFrom start (.array type))
        closed.rest (by omega)))).lax
    | none =>
      (past.go ((rules.type past.rest (past.lt_of_lt inside)).andThen fun _ d _ =>
        (d.expectMark .rbracket).andThen fun _ e _ =>
          typeSuffixes rules start (e.typeFrom start .unmodelled) e (by omega))).lax
termination_by c.remaining
decreasing_by all_goals omega

/-- A type with the suffixes behind it. -/
def suffixedType (rules : Rules limit) (c : Cursor) (inside : c.remaining ≤ limit.remaining) :
    Outcome true c TypeExpression :=
  (rules.primaryType c inside).andThen fun type d less =>
    rules.typeSuffixes c.span type d (Cursor.lt_of_lt_of_le less inside)

/-- The constraint of an inferred type, unless `extends` starts the branches of a
conditional type. -/
def skipConstraint (rules : Rules limit) (c : Cursor) (inside : c.remaining < limit.remaining) :
    Outcome false c Unit :=
  match c.keyword? .extends_ with
  | some past =>
    if Lookahead.reachesQuestion past.rest.ahead then .ok ()
    else ((past.go (rules.typeOperand past.rest (past.lt_of_lt inside))).map fun _ => ()).lax
  | none => .ok ()

/-- A type with the operators in front of it. -/
def operandType (rules : Rules limit) (c : Cursor) (inside : c.remaining ≤ limit.remaining) :
    Outcome true c TypeExpression :=
  match c.next? with
  | none => rules.suffixedType c inside
  | some past =>
    have := past.less
    let operandFollows := past.rest.kind?.any Kind.startsTypeOperand
    match past.token.kind with
    | .name "keyof" =>
      if operandFollows then
        past.go ((rules.typeOperand past.rest (by omega)).andThen fun _ d _ =>
          .ok (d.typeFrom past.token.span .unmodelled))
      else rules.suffixedType c inside
    | .name "readonly" =>
      if operandFollows then past.go (rules.typeOperand past.rest (by omega))
      else rules.suffixedType c inside
    | .name "unique" =>
      match past.rest.name? "symbol" with
      | some symbol =>
        past.go (symbol.go (.ok (symbol.rest.typeFrom past.token.span (.named "symbol" []))))
      | none => rules.suffixedType c inside
    | .name "infer" =>
      match past.rest.next? with
      | some second =>
        have := second.less
        match second.token.kind with
        | .name _ =>
          past.go (second.go ((rules.skipConstraint second.rest (by omega)).bind fun _ d _ =>
            .ok (d.typeFrom past.token.span .unmodelled)))
        | _ => rules.suffixedType c inside
      | none => rules.suffixedType c inside
    | _ => rules.suffixedType c inside

/-- The further members of a union or intersection, after the sign between them. -/
def furtherMembers (sign : Mark)
    (member : (c : Cursor) → c.remaining ≤ limit.remaining → Outcome true c TypeExpression)
    (earlier : List TypeExpression) (c : Cursor) (inside : c.remaining ≤ limit.remaining) :
    Outcome false c (List TypeExpression) :=
  match c.mark? sign with
  | some past =>
    have := past.less
    (past.go ((member past.rest (past.le_of_le inside)).andThen fun type d less =>
      have behind := past.after_lt less inside
      furtherMembers sign member (type :: earlier) d (Cursor.le_of_lt behind))).lax
  | none => .ok earlier.reverse
termination_by c.remaining
decreasing_by omega

/-- An intersection of types, or a single type. -/
def intersectionType (rules : Rules limit) (c : Cursor)
    (inside : c.remaining ≤ limit.remaining) : Outcome true c TypeExpression :=
  (c.optionalMark .amp).bind fun _ d _ =>
    (rules.operandType d (by omega)).andThen fun first e _ =>
      (furtherMembers .amp rules.operandType [first] e (by omega)).bind fun members f _ =>
        (.ok (if members.length ≤ 1 then first
          else f.typeFrom c.span (.intersection members)) : Outcome false f TypeExpression)

/-- A union of types, or a single type. A sign in front of a single type belongs to
its span. -/
def unionType (rules : Rules limit) (c : Cursor) (inside : c.remaining ≤ limit.remaining) :
    Outcome true c TypeExpression :=
  (c.optionalMark .pipe).bind fun leading d _ =>
    (rules.intersectionType d (by omega)).andThen fun first e _ =>
      (furtherMembers .pipe rules.intersectionType [first] e (by omega)).bind fun members f _ =>
        (.ok (if members.length ≤ 1 then
            if leading then f.typeFrom c.span first.form else first
          else f.typeFrom c.span (.union members)) : Outcome false f TypeExpression)

/-- A type; the branches of a conditional type are passed. -/
def fullType (rules : Rules limit) (c : Cursor) (inside : c.remaining ≤ limit.remaining) :
    Outcome true c TypeExpression :=
  (rules.unionType c inside).andThen fun type c₁ _ =>
    match c₁.keyword? .extends_ with
    | none => .ok type
    | some past =>
      have := past.less
      (past.go ((rules.unionType past.rest (by omega)).andThen fun _ c₂ _ =>
        (c₂.expectMark .question).andThen fun _ c₃ _ =>
          (rules.type c₃ (by omega)).andThen fun _ c₄ _ =>
            (c₄.expectMark .colon).andThen fun _ c₅ _ =>
              (rules.type c₅ (by omega)).andThen fun _ c₆ _ =>
                (.ok (c₆.typeFrom c.span .unmodelled) : Outcome false c₆ TypeExpression))).lax

end Rules

end InjectionCheck
