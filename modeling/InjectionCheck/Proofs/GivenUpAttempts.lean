import InjectionCheck.Proofs.AbreastExpressions
import InjectionCheck.Proofs.RecordedErrors

/-!
# Attempts that are given up

Behind an operand a less-than sign may open type arguments, and whether it does is found out by
reading them. Where they do not parse, or no parenthesis follows, the attempt is given up and the
sign is an operator. The attempt may have read much by then: types with parameters, their decorators
and default values, and classes in these.

Giving up takes the cursor back, and not the errors that were recorded on the way. So nothing is
left of an attempt only because there are none (`typeArguments_given_up`): no rule that it may
reach records an error, whether it succeeds or fails (`RecordNothing`). The bodies of classes do
record errors, and statements with them, as `Past.goesOn_item` says of each. Within an expression
they are not read, but passed as groups.
-/

set_option autoImplicit false

namespace InjectionCheck

open Cursor Outcome

/-- A parser between two rules: where it stands, and the errors that it has recorded. -/
structure Parser where
  cursor : Cursor
  recorded : List ParseError

/-- The parser behind a rule: where the rule stopped, with the errors that it recorded behind those
recorded before. -/
def Parser.behind {α : Type} {moves : Bool} (parser : Parser)
    (outcome : Outcome moves parser.cursor α) : Parser :=
  ⟨outcome.rest, parser.recorded ++ outcome.errors⟩

/-- A rule that records nothing leaves the errors of the parser as they are. -/
theorem Parser.behind_of_silent {α : Type} {moves : Bool} (parser : Parser)
    {outcome : Outcome moves parser.cursor α} (silent : outcome.Silent) :
    parser.behind outcome = ⟨outcome.rest, parser.recorded⟩ := by
  rw [behind, show outcome.errors = [] from silent, List.append_nil]

/-! ## What an attempt may reach -/

/-- The rules for tokens, names and groups record nothing. Marks and reserved words are kinds of
tokens. -/
structure Cursor.RecordsNothing (c : Cursor) : Prop where
  expect (kind : Kind) : (c.expect kind).Silent
  optional (test : Kind → Bool) : (c.optional test).Silent
  optionalSemicolon : c.optionalSemicolon.Silent
  optionalModifier (word : String) : (c.optionalModifier word).Silent
  expectName : c.expectName.Silent
  propertyName : c.propertyName.Silent
  properName : c.properName.Silent
  lastPart (name : String) : (Rules.lastPart name c).Silent
  modifiers (earlier : Modifiers) : (c.modifiers earlier).Silent
  parameterName : (Rules.parameterName c).Silent
  closeAll (opening : Opening) (outer : Bracket) (brackets : List Bracket) :
    (closeAll opening outer brackets c).Silent
  restOfGroup (bracket : Bracket) (opened : Span) : (restOfGroup bracket opened c).Silent
  skipGroup : c.skipGroup.Silent
  closeAngles (opening : Opening) (depth : Nat) : (closeAngles opening depth c).Silent
  skipAngles : c.skipAngles.Silent
  skipAnglesIfAny : c.skipAnglesIfAny.Silent
  skipQualifiedTail : c.skipQualifiedTail.Silent
  importedType (start : Span) : (c.importedType start).Silent
  valueType (start : Span) : (c.valueType start).Silent
  skipElementLabel : (Rules.skipElementLabel c).Silent
  skipAccessorWord : (Rules.skipAccessorWord c).Silent
  skipSeparators : (Rules.skipSeparators c).Silent
  skipMethodWord : (Rules.skipMethodWord c).Silent
  skipHeritage : c.skipHeritage.Silent
  skipClassTail : c.skipClassTail.Silent

theorem Cursor.recordsNothing (c : Cursor) : c.RecordsNothing where
  expect := silent_expect
  optional := silent_optional
  optionalSemicolon := silent_optionalSemicolon
  optionalModifier := silent_optionalModifier
  expectName := silent_expectName
  propertyName := silent_propertyName
  properName := silent_properName
  lastPart name := Rules.silent_lastPart name c
  modifiers earlier := silent_modifiers earlier c
  parameterName := Rules.silent_parameterName c
  closeAll opening outer brackets := silent_closeAll opening outer brackets c
  restOfGroup := silent_restOfGroup
  skipGroup := silent_skipGroup
  closeAngles opening depth := silent_closeAngles opening depth c
  skipAngles := silent_skipAngles
  skipAnglesIfAny := silent_skipAnglesIfAny
  skipQualifiedTail := silent_skipQualifiedTail c
  importedType := silent_importedType
  valueType := silent_valueType
  skipElementLabel := Rules.silent_skipElementLabel c
  skipAccessorWord := Rules.silent_skipAccessorWord c
  skipSeparators := Rules.silent_skipSeparators c
  skipMethodWord := Rules.silent_skipMethodWord c
  skipHeritage := silent_skipHeritage c
  skipClassTail := silent_skipClassTail c

namespace Rules

variable {limit : Cursor}

/-- The rules for types record nothing, with those for their members and parameters. -/
structure TypesRecordNothing (rules : Rules limit) : Prop where
  typeArguments (c : Cursor) (inside) : (rules.typeArguments c inside).Silent
  elements {α : Type} (opening : Opening) (closing : Mark) (missing : ParseError → ParseError)
    (element : (c : Cursor) → c.remaining < limit.remaining → Outcome true c α)
    (each : ∀ c inside, (element c inside).Silent) (earlier : List α) (c : Cursor) (inside) :
    (elements opening closing missing element earlier c inside).Silent
  fullType (c : Cursor) (inside) : (rules.fullType c inside).Silent
  unionType (c : Cursor) (inside) : (rules.unionType c inside).Silent
  intersectionType (c : Cursor) (inside) : (rules.intersectionType c inside).Silent
  furtherMembers (sign : Mark)
    (member : (c : Cursor) → c.remaining ≤ limit.remaining → Outcome true c TypeExpression)
    (each : ∀ c inside, (member c inside).Silent) (earlier : List TypeExpression) (c : Cursor)
    (inside) : (furtherMembers sign member earlier c inside).Silent
  operandType (c : Cursor) (inside) : (rules.operandType c inside).Silent
  skipConstraint (c : Cursor) (inside) : (rules.skipConstraint c inside).Silent
  suffixedType (c : Cursor) (inside) : (rules.suffixedType c inside).Silent
  typeSuffixes (start : Span) (type : TypeExpression) (c : Cursor) (inside) :
    (rules.typeSuffixes start type c inside).Silent
  primaryType (c : Cursor) (inside) : (rules.primaryType c inside).Silent
  namedTypeAfter (start : Span) (name : String) (c : Cursor) (inside) :
    (rules.namedTypeAfter start name c inside).Silent
  constructorType (start : Span) (c : Cursor) (inside) :
    (rules.constructorType start c inside).Silent
  functionType (c : Cursor) (inside) : (rules.functionType c inside).Silent
  tupleType (c : Cursor) (inside) : (rules.tupleType c inside).Silent
  tupleElement (c : Cursor) (inside) : (rules.tupleElement c inside).Silent
  returnType (c : Cursor) (inside) : (rules.returnType c inside).Silent
  resultAscription (c : Cursor) (inside) : (rules.resultAscription c inside).Silent
  typeMembers (c : Cursor) (inside) : (rules.typeMembers c inside).Silent
  typeMembersAfter (opening : Opening) (earlier : List TypeMember) (c : Cursor) (inside) :
    (rules.typeMembersAfter opening earlier c inside).Silent
  typeMember (c : Cursor) (inside) : (rules.typeMember c inside).Silent
  namedTypeMember (start : Span) (readonly : Bool) (c : Cursor) (inside) :
    (rules.namedTypeMember start readonly c inside).Silent
  skipComputedMember (c : Cursor) (inside) : (rules.skipComputedMember c inside).Silent
  skipSignature (c : Cursor) (inside) : (rules.skipSignature c inside).Silent
  parameters (c : Cursor) (inside) : (rules.parameters c inside).Silent
  parameter (c : Cursor) (inside) : (rules.parameter c inside).Silent
  ascription (c : Cursor) (inside) : (rules.ascription c inside).Silent
  initial (c : Cursor) (inside) : (rules.initial c inside).Silent
  decorators (earlier : List Decorator) (c : Cursor) (inside) :
    (rules.decorators earlier c inside).Silent
  decoratorAfter (sign : Span) (c : Cursor) (inside) : (rules.decoratorAfter sign c inside).Silent

theorem Silent.types {rules : Rules limit} (silent : rules.Silent) : rules.TypesRecordNothing where
  typeArguments := silent_typeArguments silent
  elements opening closing missing _ each := silent_elements opening closing missing each
  fullType := silent_fullType silent
  unionType := silent_unionType silent
  intersectionType := silent_intersectionType silent
  furtherMembers sign _ each := silent_furtherMembers sign each
  operandType := silent_operandType silent
  skipConstraint := silent_skipConstraint silent
  suffixedType := silent_suffixedType silent
  typeSuffixes := silent_typeSuffixes silent
  primaryType := silent_primaryType silent
  namedTypeAfter := silent_namedTypeAfter silent
  constructorType := silent_constructorType silent
  functionType := silent_functionType silent
  tupleType := silent_tupleType silent
  tupleElement := silent_tupleElement silent
  returnType := silent_returnType silent
  resultAscription := silent_resultAscription silent
  typeMembers := silent_typeMembers silent
  typeMembersAfter := silent_typeMembersAfter silent
  typeMember := silent_typeMember silent
  namedTypeMember := silent_namedTypeMember silent
  skipComputedMember := silent_skipComputedMember silent
  skipSignature := silent_skipSignature silent
  parameters := silent_parameters silent
  parameter := silent_parameter silent
  ascription := silent_ascription silent
  initial := silent_initial silent
  decorators := silent_decorators silent
  decoratorAfter := silent_decoratorAfter silent

/-- The rules for expressions record nothing, with those for functions and classes in them. -/
structure ExpressionsRecordNothing (rules : Rules limit) : Prop where
  expressionWhole (c : Cursor) (inside) : (rules.expressionWhole c inside).Silent
  sequence (start : Span) (left : Expression) (c : Cursor) (inside) :
    (rules.sequence start left c inside).Silent
  assignmentFrom (c : Cursor) (inside) : (rules.assignmentFrom c inside).Silent
  assignedValue (start : Span) (target : Expression) (c : Cursor) (inside) :
    (rules.assignedValue start target c inside).Silent
  conditional (c : Cursor) (inside) : (rules.conditional c inside).Silent
  binaryFrom (least : Nat) (c : Cursor) (inside) : (rules.binaryFrom least c inside).Silent
  operators (least : Nat) (start : Span) (left : Expression) (c : Cursor) (inside) :
    (rules.operators least start left c inside).Silent
  skipAssertedType (c : Cursor) (inside) : (rules.skipAssertedType c inside).Silent
  operand (c : Cursor) (inside) : (rules.operand c inside).Silent
  suffixed (c : Cursor) (inside) : (rules.suffixed c inside).Silent
  suffixes (start : Span) (operand : Expression) (c : Cursor) (inside) :
    (rules.suffixes start operand c inside).Silent
  arguments (c : Cursor) (inside) : (rules.arguments c inside).Silent
  optionalArguments (c : Cursor) (inside) : (rules.optionalArguments c inside).Silent
  spreadable (c : Cursor) (inside) : (rules.spreadable c inside).Silent
  indexElement (c : Cursor) (inside) : (rules.indexElement c inside).Silent
  newExpression (c : Cursor) (inside) : (rules.newExpression c inside).Silent
  constructionAfter (start : Span) (c : Cursor) (inside) :
    (rules.constructionAfter start c inside).Silent
  constructedClass (start : Span) (callee : Expression) (c : Cursor) (inside) :
    (rules.constructedClass start callee c inside).Silent
  primary (c : Cursor) (inside) : (rules.primary c inside).Silent
  classExpression (c : Cursor) (inside) : (rules.classExpression c inside).Silent
  asyncOrName (start : Span) (c : Cursor) (inside) : (rules.asyncOrName start c inside).Silent
  array (c : Cursor) (inside) : (rules.array c inside).Silent
  arrayElements (opening : Opening) (earlier : List Expression) (c : Cursor) (inside) :
    (rules.arrayElements opening earlier c inside).Silent
  object (c : Cursor) (inside) : (rules.object c inside).Silent
  property (c : Cursor) (inside) : (rules.property c inside).Silent
  propertyKey (c : Cursor) (inside) : (rules.propertyKey c inside).Silent
  propertyValue (start : Span) (key : PropertyKey) (keySpan : Span) (isMethod : Bool) (c : Cursor)
    (inside) : (rules.propertyValue start key keySpan isMethod c inside).Silent
  arrowFunction (start : Span) (c : Cursor) (inside) : (rules.arrowFunction start c inside).Silent
  skipArrowHead (c : Cursor) (inside) : (rules.skipArrowHead c inside).Silent
  skipFunction (c : Cursor) (inside) : (rules.skipFunction c inside).Silent
  skipCallableTail (c : Cursor) (inside) : (rules.skipCallableTail c inside).Silent

theorem Silent.expressions {rules : Rules limit} (silent : rules.Silent) :
    rules.ExpressionsRecordNothing where
  expressionWhole := silent_expressionWhole silent
  sequence := silent_sequence silent
  assignmentFrom := silent_assignmentFrom silent
  assignedValue := silent_assignedValue silent
  conditional := silent_conditional silent
  binaryFrom := silent_binaryFrom silent
  operators := silent_operators silent
  skipAssertedType := silent_skipAssertedType silent
  operand := silent_operand silent
  suffixed := silent_suffixed silent
  suffixes := silent_suffixes silent
  arguments := silent_arguments silent
  optionalArguments := silent_optionalArguments silent
  spreadable := silent_spreadable silent
  indexElement := silent_indexElement silent
  newExpression := silent_newExpression silent
  constructionAfter := silent_constructionAfter silent
  constructedClass := silent_constructedClass silent
  primary := silent_primary silent
  classExpression := silent_classExpression silent
  asyncOrName := silent_asyncOrName silent
  array := silent_array silent
  arrayElements := silent_arrayElements silent
  object := silent_object silent
  property := silent_property silent
  propertyKey := silent_propertyKey silent
  propertyValue := silent_propertyValue silent
  arrowFunction := silent_arrowFunction silent
  skipArrowHead := silent_skipArrowHead silent
  skipFunction := silent_skipFunction silent
  skipCallableTail := silent_skipCallableTail silent

/-- Every rule that type arguments may reach records nothing: the recursive rules, the rules that
these are made of, and those for tokens, names and groups. -/
structure RecordNothing (rules : Rules limit) : Prop where
  recursive : rules.Silent
  types : rules.TypesRecordNothing
  expressions : rules.ExpressionsRecordNothing
  words (c : Cursor) : c.RecordsNothing

theorem recordNothing_all (limit : Cursor) : (all limit).RecordNothing where
  recursive := silent_all limit
  types := (silent_all limit).types
  expressions := (silent_all limit).expressions
  words := recordsNothing

/-! ## Type arguments -/

section TypeArguments

variable (rules : Rules limit)

/-- The attempt to read type arguments at a cursor is kept: they parse, and arguments follow. -/
def KeepsTypeArguments (c : Cursor) (inside : c.remaining ≤ limit.remaining) : Prop :=
  (rules.typeArguments c inside).result.isOk = true ∧
    (rules.typeArguments c inside).rest.seesMark .lparen = true

instance (c : Cursor) (inside : c.remaining ≤ limit.remaining) :
    Decidable (rules.KeepsTypeArguments c inside) :=
  inferInstanceAs (Decidable (_ ∧ _))

/-- Where a less-than sign opens no type arguments of a call, the operand ends in front of it. -/
theorem stopped_suffixes_of_lt {c : Cursor} (start : Span) (operand : Expression)
    (inside : c.remaining < limit.remaining) (opens : c.seesMark .lt = true)
    (givenUp : ¬rules.KeepsTypeArguments c (Cursor.le_of_lt inside)) :
    (rules.suffixes start operand c inside).stopped = ⟨.ok operand, c⟩ := by
  obtain ⟨past, isNext, isMark⟩ := next?_of_seesMark opens
  rw [suffixes, isNext]
  dsimp only
  rw [isMark]
  refine stopped_tried fun types succeeded _ _ => congrArg stopped (if_neg fun sees => ?_)
  exact givenUp ⟨congrArg Except.isOk succeeded, sees⟩

end TypeArguments

/-- **An attempt to read type arguments that is given up leaves nothing behind.** Where they do not
parse, or no parenthesis follows them, the operand is as it was, and the parser stands in front of
the less-than sign with the errors that it had recorded. And no rule that such an attempt may reach
records an error, whether it succeeds or fails. -/
theorem typeArguments_given_up (limit : Cursor) :
    (∀ (start : Span) (operand : Expression) (parser : Parser)
        (inside : parser.cursor.remaining < limit.remaining),
      parser.cursor.seesMark .lt = true →
      ¬(all limit).KeepsTypeArguments parser.cursor (Cursor.le_of_lt inside) →
        ((all limit).suffixes start operand parser.cursor inside).result = .ok operand ∧
          parser.behind ((all limit).suffixes start operand parser.cursor inside) = parser) ∧
      (all limit).RecordNothing := by
  refine ⟨fun start operand parser inside opens givenUp => ?_, recordNothing_all limit⟩
  have stopped := (all limit).stopped_suffixes_of_lt start operand inside opens givenUp
  have silent := silent_suffixes (silent_all limit) start operand parser.cursor inside
  refine ⟨congrArg Stopped.result stopped, ?_⟩
  rw [parser.behind_of_silent silent, Outcome.rest_of_stopped stopped]

/-- A comparison that an attempt to read type arguments takes for a function type, with a decorated
parameter whose default value is a class that does not parse. -/
def comparedFunction : TokenList :=
  TokenList.ofText "const v = n < ((@d() p = class \x7b 1 + \x7d) => t);".toList

/-- The file of the comparison. -/
def comparedFile : Cursor := .start comparedFunction.tokens comparedFunction.stop

/-- The place of the less-than sign in the comparison. -/
def comparedSign : Cursor := comparedFile.moveTo 4

theorem comparedSign_inside : comparedSign.remaining < comparedFile.remaining := by
  decide +kernel

/-- The attempt passes the whole function, and fails in front of the semicolon. It leaves the errors
that were recorded before as they were, and the file has none. -/
theorem typeArguments_given_up_comparedFunction :
    let operand : Expression := ⟨.name "n", ⟨10, 11⟩⟩
    let parser : Parser := ⟨comparedSign, [comparedSign.expected .identifier]⟩
    let outcome := (all comparedFile).suffixes operand.span operand comparedSign comparedSign_inside
    ((all comparedFile).typeArguments comparedSign
        (Cursor.le_of_lt comparedSign_inside)).rest.position = 22 ∧
      (outcome.result = .ok operand ∧ parser.behind outcome = parser) ∧
        (SourceUnit.ofTokens comparedFunction).errors = [] := by
  intro operand parser outcome
  have facts : comparedSign.seesMark .lt = true ∧
      ¬(all comparedFile).KeepsTypeArguments comparedSign (Cursor.le_of_lt comparedSign_inside) ∧
        ((all comparedFile).typeArguments comparedSign
          (Cursor.le_of_lt comparedSign_inside)).rest.position = 22 ∧
          (SourceUnit.ofTokens comparedFunction).errors = [] := by
    decide +kernel
  obtain ⟨opens, givenUp, stops, none⟩ := facts
  have left := (typeArguments_given_up comparedFile).1 operand.span operand parser
    comparedSign_inside opens givenUp
  exact ⟨stops, left, none⟩

end Rules

end InjectionCheck
