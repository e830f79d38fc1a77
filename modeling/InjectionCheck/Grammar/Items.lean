import InjectionCheck.Grammar.Classes

/-!
# Top-level items

The rules for imports, exports, bindings, classes, interfaces and type aliases.
Other statements are passed and declare nothing.

One statement may declare several items, and what it declared before an error
counts. So a statement gives its items besides the cursor at which it stopped
(`Section`).
-/

set_option autoImplicit false

namespace InjectionCheck

/-- What a statement declares: the items before its end or its first error, and
where it stopped. -/
structure Section (moves : Bool) (c : Cursor) where
  items : List Item
  outcome : Outcome moves c Unit

namespace Section

variable {moves : Bool} {c : Cursor}

/-- The errors that a statement went on from, in order. -/
def errors (statement : Section moves c) : List ParseError := statement.outcome.errors

/-- The section of a rule that gives items if it succeeds. -/
def ofOutcome (outcome : Outcome moves c (List Item)) : Section moves c where
  items :=
    match outcome.result with
    | .ok items => items
    | .error _ => []
  outcome := outcome.map fun _ => ()

/-- The section of a rule that declares nothing. -/
def ofSkipped (outcome : Outcome moves c Unit) : Section moves c := ⟨[], outcome⟩

/-- A section, seen from a cursor before the one at which it started. -/
def seenFrom {d : Cursor} (following : Section moves d) (reaches : c.Reaches d)
    (less : d.remaining < c.remaining) : Section true c :=
  ⟨following.items, following.outcome.seenFrom reaches less⟩

/-- A section, of which it is not asked that it passes a token. -/
def lax (following : Section moves c) : Section false c :=
  ⟨following.items, following.outcome.lax⟩

end Section

/-- A section after a rule that declares nothing. -/
def Outcome.bindSection {α : Type} {moves : Bool} {c : Cursor} (outcome : Outcome false c α)
    (next : (value : α) → (d : Cursor) → Section moves d) : Section moves c :=
  match outcome with
  | ⟨⟨.ok value, d⟩, reaches, _, errors⟩ =>
    let following := next value d
    ⟨following.items, (following.outcome.following reaches).recording errors⟩
  | ⟨⟨.error error, _⟩, reaches, _, errors⟩ => ⟨[], (failed error reaches).recording errors⟩

namespace Cursor

/-- A section past the next token. -/
def Past.goSection {moves : Bool} {c : Cursor} (past : c.Past)
    (following : Section moves past.rest) : Section true c :=
  following.seenFrom past.reaches past.less

/-- Gives one item with the span from a start up to where its rule stopped. -/
def itemFrom {α : Type} (start : Span) (exported : Bool) (form : α → ItemForm)
    (declaration : α) (c : Cursor) : List Item :=
  [⟨form declaration, exported, c.spanFrom start⟩]

/-! ## Imports -/

/-- The source of an import or export, after its word. -/
def moduleSource (c : Cursor) : Outcome true c NameUse :=
  match c.name? "from" with
  | none => .fail (c.expected (.word "from"))
  | some past =>
    match past.rest.next? with
    | none => past.go (.fail (past.rest.expected .moduleSpecifier) : Outcome false past.rest _)
    | some source =>
      match source.token.kind with
      | .string content => past.go (source.go (.ok ⟨content, source.token.span⟩))
      | _ =>
        past.go (.fail (past.rest.expected .moduleSpecifier) : Outcome false past.rest _)

/-- Passes the attributes of an import. -/
def skipImportAttributes (c : Cursor) : Outcome false c Unit :=
  match c.next? with
  | none => .ok ()
  | some past =>
    match past.token.kind with
    | .name _ =>
      if past.rest.seesMark .lbrace then
        (past.go (past.rest.skipGroup.map fun _ => ())).lax
      else .ok ()
    | _ => .ok ()

/-- Passes what may follow the source of an import. -/
def skipImportEnd (c : Cursor) : Outcome false c Unit :=
  c.skipImportAttributes.bind fun _ d _ => d.optionalSemicolon

/-- The source of an import whose names are known. -/
def importSource (specifiers : List ImportSpecifier) (c : Cursor) :
    Outcome true c ImportDeclaration :=
  c.moduleSource.andThen fun source d _ =>
    d.skipImportEnd.bind fun _ e _ =>
      (.ok ⟨specifiers, source.name, source.span⟩ : Outcome false e ImportDeclaration)

/-- A name after `as`, if there is one, and otherwise a given name. -/
def localName (otherwise : String) (c : Cursor) : Outcome false c String :=
  match c.name? "as" with
  | some past => ((past.go past.rest.expectName).map NameUse.name).lax
  | none => .ok otherwise

/-- A name in the braces of an import. -/
def importSpecifier (c : Cursor) : Outcome true c ImportSpecifier :=
  (c.optionalModifier "type").bind fun _ d _ =>
    d.properName.andThen fun imported e _ =>
      (e.localName imported.name).bind fun localName f _ =>
        (.ok ⟨imported.name, localName, f.spanFrom imported.span⟩ :
          Outcome false f ImportSpecifier)

/-- Names in braces. -/
def bracedNames {α : Type} (specifier : (c : Cursor) → Outcome true c α) (c : Cursor) :
    Outcome true c (List α) :=
  (c.expectMark .lbrace).andThen fun opened d less =>
    Rules.elements ⟨.lbrace, opened.span⟩ .rbrace id (fun e _ => specifier e) [] d less

/-- The namespace or the names in braces of an import; a namespace binds nothing. -/
def importedNames (c : Cursor) : Outcome true c (List ImportSpecifier) :=
  match c.mark? .star with
  | some past =>
    match past.rest.name? "as" with
    | some word => past.go (word.go (word.rest.expectName.map fun _ => []))
    | none => past.go (.fail (past.rest.expected (.word "as")) : Outcome false past.rest _)
  | none =>
    if c.seesMark .lbrace then c.bracedNames importSpecifier
    else .fail (c.expected .importSpecifiers)

/-- Passes `type` in front of the names of an import. -/
def skipImportType (c : Cursor) : Outcome false c Unit :=
  if c.peek? 1 = some (.mark .comma) ∨ c.peek? 1 = some (.name "from") then .ok ()
  else (c.optional (· = .name "type")).map fun _ => ()

/-- The names and the source of an import. -/
def importClause (c : Cursor) : Outcome true c ImportDeclaration :=
  c.skipImportType.bind fun _ d _ =>
    match d.next? with
    | none => .fail (d.expected .importSpecifiers)
    | some past =>
      match past.token.kind with
      | .name text =>
        let default : ImportSpecifier := ⟨"default", text, past.token.span⟩
        match past.rest.mark? .comma with
        | some comma =>
          past.go (comma.go (comma.rest.importedNames.andThen fun names e _ =>
            (e.importSource (default :: names)).lax))
        | none => past.go (past.rest.importSource [default])
      | _ => d.importedNames.andThen fun names e _ => (e.importSource names).lax

/-- An import, after its word. -/
def importAfter (c : Cursor) : Outcome true c ImportDeclaration :=
  match c.next? with
  | none => c.importClause
  | some past =>
    match past.token.kind with
    | .string content =>
      past.go (past.rest.skipImportEnd.map fun _ => ⟨[], content, past.token.span⟩)
    | _ => c.importClause

/-! ## Exports -/

/-- A name after `as`, if there is one, and otherwise a given name. -/
def exportedName (otherwise : String) (c : Cursor) : Outcome false c String :=
  match c.name? "as" with
  | some past => ((past.go past.rest.properName).map NameUse.name).lax
  | none => .ok otherwise

/-- A name in the braces of an export. -/
def exportSpecifier (c : Cursor) : Outcome true c ExportSpecifier :=
  (c.optionalModifier "type").bind fun _ d _ =>
    d.properName.andThen fun exported e _ =>
      (e.exportedName exported.name).bind fun exportedName f _ =>
        (.ok ⟨exported.name, exportedName, f.spanFrom exported.span⟩ :
          Outcome false f ExportSpecifier)

/-- The export of all names of another file, after its star. An export under one
name offers nothing that is looked up. -/
def exportAllAfter (c : Cursor) : Outcome true c ExportDeclaration :=
  (match c.name? "as" with
    | some past => ((past.go past.rest.propertyName).map fun _ => true).lax
    | none => .ok false : Outcome false c Bool).bind fun isNamespace d _ =>
      d.moduleSource.andThen fun source e _ =>
        e.optionalSemicolon.map fun _ => ⟨[], some source.name, source.span, !isNamespace⟩

/-- The export of names in braces, possibly from another file. -/
def exportNames (c : Cursor) : Outcome true c ExportDeclaration :=
  (c.bracedNames exportSpecifier).andThen fun specifiers d _ =>
    let closed := d.previousSpan
    if d.seesName "from" then
      (d.moduleSource.andThen fun source e _ =>
        e.optionalSemicolon.map fun _ => ⟨specifiers, some source.name, source.span, false⟩).lax
    else d.optionalSemicolon.map fun _ => ⟨specifiers, none, closed, false⟩

/-- The export of names. -/
def exportList (c : Cursor) : Outcome true c ExportDeclaration :=
  match c.mark? .star with
  | some past => past.go past.rest.exportAllAfter
  | none => c.exportNames

end Cursor

/-- The export of a name as the default of its file. -/
def Item.defaultExport (name : NameUse) : Item :=
  ⟨.exporting ⟨[⟨name.name, "default", name.span⟩], none, name.span, false⟩, true, name.span⟩

namespace Cursor

/-! ## Bindings -/

/-- What a binding binds: a name, or nothing if it takes a value apart. -/
def bindingTarget (c : Cursor) : Outcome true c (Option NameUse) :=
  match c.next? with
  | some past =>
    match past.token.kind with
    | .name text => past.go (.ok (some ⟨text, past.token.span⟩))
    | .mark .lbrace | .mark .lbracket => c.skipGroup.map fun _ => none
    | _ => .fail (c.expected .identifier)
  | none => .fail (c.expected .identifier)

/-- One of the bindings of a statement. -/
def binding (start : Span) (exported : Bool) (c : Cursor) : Outcome true c (List Item) :=
  c.bindingTarget.andThen fun target c₁ _ =>
    (c₁.optionalMark .bang).bind fun _ c₂ _ =>
      c₂.ascription.bind fun type c₃ _ =>
        c₃.initial.bind fun initial c₄ _ =>
          (.ok (target.toList.map fun name =>
            ⟨.binding ⟨name.name, name.span, type, initial⟩, exported, c₄.spanFrom start⟩) :
              Outcome false c₄ (List Item))

/-- The bindings of a statement, after its word. The first one starts where the
statement does. -/
def bindings (start : Span) (exported : Bool) (c : Cursor) : Section true c :=
  match c.binding start exported with
  | ⟨⟨.ok items, d⟩, reaches, moved, errors⟩ =>
    have less : d.remaining < c.remaining := moved rfl ⟨items, rfl⟩
    match d.mark? .comma with
    | some past =>
      have := past.less
      let following := bindings past.rest.span exported past.rest
      ⟨items ++ following.items,
        ((past.go following.outcome).seenFrom reaches less).recording errors⟩
    | none => ⟨items, (d.optionalSemicolon.seenFrom reaches less).recording errors⟩
  | ⟨⟨.error error, _⟩, reaches, _, errors⟩ => ⟨[], (Outcome.failed error reaches).recording errors⟩
termination_by c.remaining
decreasing_by omega

/-! ## Types and other declarations -/

/-- An interface. -/
def interfaceDeclaration (c : Cursor) : Outcome true c InterfaceDeclaration :=
  (c.expectKeyword .interface_).andThen fun _ c₁ _ =>
    c₁.expectName.andThen fun name c₂ _ =>
      c₂.skipAnglesIfAny.bind fun _ c₃ _ =>
        (c₃.heritageClause .extends_).bind fun bases c₄ _ =>
          (c₄.typeMembers.map fun members => ⟨name.name, name.span, bases, members⟩).lax

/-- A type alias, after its word. -/
def aliasAfter (c : Cursor) : Outcome true c AliasDeclaration :=
  c.expectName.andThen fun name c₁ _ =>
    c₁.skipAnglesIfAny.bind fun _ c₂ _ =>
      (c₂.expectMark .eq).lax.bind fun _ c₃ _ =>
        c₃.type.lax.bind fun type c₄ _ =>
          c₄.optionalSemicolon.map fun _ => ⟨name.name, name.span, type⟩

/-- Passes an enumeration. -/
def skipEnum (c : Cursor) : Outcome true c Unit :=
  (c.expectKeyword .enum_).andThen fun _ d _ =>
    d.expectName.lax.bind fun _ e _ =>
      if e.seesMark .lbrace then (e.skipGroup.map fun _ => ()).lax
      else .fail (e.expected (.token (some (.mark .lbrace))))

/-- A class as an item. -/
def classItem (start : Span) (exported : Bool) (decorators : List Decorator)
    (isAbstract : Bool) (c : Cursor) : Section true c :=
  .ofOutcome ((c.classDeclaration decorators isAbstract).mapAt
    (itemFrom start exported .classType))

/-! ## Default exports -/

/-- A class as the default export. A class without a name declares nothing. -/
def defaultClass (start : Span) (decorators : List Decorator) (isAbstract : Bool)
    (c : Cursor) : Section true c :=
  match c.next? with
  | none => .ofSkipped (.fail (c.expected (.token (some (.keyword .class_)))))
  | some past =>
    if past.rest.seesSomeName then
      .ofOutcome ((c.classDeclaration decorators isAbstract).mapAt fun declaration d =>
        itemFrom start true .classType declaration d ++
          [.defaultExport ⟨declaration.name, declaration.nameSpan⟩])
    else .ofSkipped (past.go past.rest.skipClassTail)

/-- A value as the default export. -/
def defaultValue (start : Span) (c : Cursor) : Section true c :=
  .ofOutcome ((c.expression.andThen fun value d _ =>
    d.optionalSemicolon.map fun _ =>
      (⟨"default", value.span, none, some value⟩ : BindingDeclaration)).mapAt
        (itemFrom start true .binding))

/-- A name as the default export, if nothing but the end of the statement follows
it, and otherwise a value. -/
def defaultName (start : Span) (c : Cursor) : Section true c :=
  match c.next? with
  | none => c.defaultValue start
  | some past =>
    match past.token.kind with
    | .name text =>
      let ends : Bool :=
        match past.rest.kind? with
        | none => true
        | some kind => kind = .mark .semicolon || kind.startsItem
      if ends then
        .ofOutcome ((past.go past.rest.optionalSemicolon).map fun _ =>
          [.defaultExport ⟨text, past.token.span⟩])
      else c.defaultValue start
    | _ => c.defaultValue start

/-- A default export, after its words. -/
def defaultAfter (start : Span) (decorators : List Decorator) (c : Cursor) :
    Section true c :=
  match c.kind?, c.peek? 1 with
  | some (.name "abstract"), some (.keyword .class_) =>
    match c.next? with
    | some past => past.goSection (past.rest.defaultClass start decorators true)
    | none => c.defaultName start
  | some (.keyword .class_), _ => c.defaultClass start decorators false
  | some (.keyword .interface_), _ =>
    .ofOutcome (c.interfaceDeclaration.mapAt fun declaration d =>
      itemFrom start true .interfaceType declaration d ++
        [.defaultExport ⟨declaration.name, declaration.nameSpan⟩])
  | some (.keyword .function_), _ => .ofSkipped c.skipFunction
  | _, _ => c.defaultName start

/-! ## Statements -/

/-- A statement after its decorators and the word `export`. -/
def Past.statement {c : Cursor} (past : c.Past) (start : Span) (exported : Bool)
    (decorators : List Decorator) : Section true c :=
  let second := past.rest.kind?
  match past.token.kind with
  | .keyword .import_ =>
    if exported || second = some (.mark .lparen) || second = some (.mark .dot) then
      .ofSkipped past.skipStatement
    else
      .ofOutcome ((past.go past.rest.importAfter).mapAt (itemFrom start false .importing))
  | .keyword .const_ =>
    if second = some (.keyword .enum_) then .ofSkipped (past.go past.rest.skipEnum)
    else past.goSection (past.rest.bindings start exported)
  | .keyword .let_ | .keyword .var_ => past.goSection (past.rest.bindings start exported)
  | .keyword .class_ => c.classItem start exported decorators false
  | .keyword .interface_ =>
    .ofOutcome (c.interfaceDeclaration.mapAt (itemFrom start exported .interfaceType))
  | .keyword .function_ => .ofSkipped c.skipFunction
  | .keyword .enum_ => .ofSkipped c.skipEnum
  | .mark .semicolon => .ofSkipped (past.go (.ok ()))
  | .name "abstract" =>
    if second = some (.keyword .class_) then
      past.goSection (past.rest.classItem start exported decorators true)
    else .ofSkipped past.skipStatement
  | .name "type" =>
    if past.rest.seesSomeName then
      .ofOutcome ((past.go past.rest.aliasAfter).mapAt (itemFrom start exported .typeAlias))
    else .ofSkipped past.skipStatement
  | .name "async" =>
    if second = some (.keyword .function_) then .ofSkipped (past.go past.rest.skipFunction)
    else .ofSkipped past.skipStatement
  | _ => .ofSkipped past.skipStatement

/-- A statement, or nothing at the end of the file. -/
def statementIfAny (start : Span) (exported : Bool) (decorators : List Decorator) (c : Cursor) :
    Section false c :=
  match c.next? with
  | some past => (past.statement start exported decorators).lax
  | none => .ofSkipped (.ok ())

/-- A statement after the word `export`. -/
def exportAfter (start : Span) (earlier : List Decorator) (c : Cursor) : Section false c :=
  c.decorators.bindSection fun decorators d =>
    let decorators := earlier ++ decorators
    match d.keyword? .default_ with
    | some past => (past.goSection (past.rest.defaultAfter start decorators)).lax
    | none =>
      (if d.peek? 1 = some (.mark .lbrace) then d.optional (· = .name "type")
        else .ok false).bindSection fun _ e =>
          if e.seesMark .lbrace || e.seesMark .star then
            (Section.ofOutcome (e.exportList.mapAt (itemFrom start true .exporting))).lax
          else e.statementIfAny start true decorators

/-- A statement after its decorators. -/
def decoratedStatement (start : Span) (decorators : List Decorator) (c : Cursor) :
    Section false c :=
  match c.keyword? .export_ with
  | some past => (past.goSection (past.rest.exportAfter start decorators)).lax
  | none => c.statementIfAny start false decorators

/-- A top-level statement, given that a token is next. -/
def Past.item {c : Cursor} (past : c.Past) : Section true c :=
  match past.token.kind with
  | .mark .at =>
    past.goSection
      (((Rules.all past.rest).decoratorAfter past.token.span past.rest
        (Nat.le_refl _)).lax.bindSection fun first d =>
          d.decorators.bindSection fun others e =>
            e.decoratedStatement past.token.span (first :: others))
  | .keyword .export_ => past.goSection (past.rest.exportAfter past.token.span [])
  | _ => past.statement past.token.span false []

end Cursor

end InjectionCheck
