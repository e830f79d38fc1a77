import InjectionCheck.Validation.Token

/-!
# Configurations

A configuration is an object literal that a top-level binding hands to
`defineBuilderConfig` or `definePartialConfig`. It registers providers for tokens,
binds listeners to events, and extends other configurations. A configuration with a
`builderId` is a builder: everything that it registers has to be constructible.

A literal that cannot be read without running the program is skipped as a whole. The
reason is kept, and is no error.
-/

set_option autoImplicit false

namespace InjectionCheck

/-- A place in a file of the program. -/
structure Location where
  file : Nat
  span : Span
deriving DecidableEq, Repr

/-- What stands behind a registered token. -/
inductive Provision where
  /-- An instance of a class. -/
  | instanceOf (declaration : Nat)
  /-- What a function gives. -/
  | factory
  /-- A value that is given. -/
  | value
deriving DecidableEq, Repr

/-- The class of which an instance is provided. -/
def Provision.class? : Provision → Option Nat
  | .instanceOf declaration => some declaration
  | .factory | .value => none

/-- A provider registered for a token. -/
structure Registration where
  token : InjectionToken
  provision : Provision
  location : Location
deriving DecidableEq, Repr

/-- A listener bound to an event. -/
structure ListenerBinding where
  event : InjectionToken
  listener : InjectionToken
  location : Location
deriving DecidableEq, Repr

/-- A configuration that another one extends. -/
structure ParentReference where
  /-- The declaration that is named; it need not be a configuration. -/
  target : Nat
  span : Span
deriving DecidableEq, Repr

/-- The kinds of configurations. -/
inductive ConfigurationKind where
  /-- Can be built by itself. The identifier is known if it is a string. -/
  | builder (identifier : Option String)
  /-- Is there to be extended. -/
  | fragment
deriving DecidableEq, Repr

/-- A configuration of a program. -/
structure Configuration where
  /-- The number of the binding that holds the configuration. -/
  declaration : Nat
  kind : ConfigurationKind
  /-- The name of the binding. -/
  name : String
  /-- The literal. -/
  location : Location
  registrations : List Registration
  listeners : List ListenerBinding
  parents : List ParentReference
  /-- A name that is extended refers to nothing in the program. -/
  hasUnresolvedParent : Bool
deriving DecidableEq, Repr

namespace Configuration

/-- Whether a configuration can be built by itself. -/
def isBuilder (configuration : Configuration) : Bool :=
  match configuration.kind with
  | .builder _ => true
  | .fragment => false

/-- How messages call a configuration. -/
def describe (configuration : Configuration) : String :=
  match configuration.kind with
  | .builder (some identifier) => s!"builder '{identifier}'"
  | .builder none => s!"builder '{configuration.name}'"
  | .fragment => s!"partial config '{configuration.name}'"

end Configuration

/-- The fields of a configuration that hold a list. -/
inductive ListField where
  | injections
  | listeners
  | extends_
deriving DecidableEq, Repr

/-- The name of a field. -/
def ListField.text : ListField → String
  | .injections => "injections"
  | .listeners => "listeners"
  | .extends_ => "extends"

/-- Why a literal is no configuration that can be read. -/
inductive SkipReason where
  | notObjectLiteral
  | dynamicKeys
  | notArray (field : ListField)
  | spreadEntry (field : ListField)
  | entryNotObject (field : ListField) (index : Nat)
  | missingKey (field : ListField) (index : Nat) (key : String)
  | token (field : ListField) (index : Nat) (error : TokenError)
  | noProvider (index : Nat)
  | providerNotClass (index : Nat)
  | parentNotIdentifier (index : Nat)
deriving DecidableEq, Repr

/-- The wording of a reason. -/
def SkipReason.message : SkipReason → String
  | .notObjectLiteral => "the argument is not an object literal"
  | .dynamicKeys => "the literal contains a spread or computed key"
  | .notArray field => s!"`{field.text}` is not an array literal"
  | .spreadEntry field => s!"`{field.text}` contains a spread"
  | .entryNotObject field index => s!"`{field.text}[{index}]` is not an object literal"
  | .missingKey field index key => s!"`{field.text}[{index}]` has no `{key}`"
  | .token field index error => s!"`{field.text}[{index}]`: {error.message}"
  | .noProvider index =>
    s!"`injections[{index}]` has no provider, factory or value and its token is not a class"
  | .providerNotClass index => s!"`injections[{index}].provider` is not a class in the program"
  | .parentNotIdentifier index => s!"`extends[{index}]` is not an identifier"

/-- A literal that is left out. -/
structure SkippedConfiguration where
  /-- The number of the binding that holds the literal. -/
  declaration : Nat
  location : Location
  reason : SkipReason
deriving DecidableEq, Repr

namespace Configuration

/-- The properties of an object literal. -/
def properties? (expression : Expression) : Option (List Property) :=
  match expression.form with
  | .object properties => some properties
  | _ => none

/-- Whether an expression stands for all elements of a value. -/
def isSpread (expression : Expression) : Bool :=
  match expression.form with
  | .spread _ => true
  | _ => false

/-- The value of the first property with a name. -/
def field? (properties : List Property) (name : String) : Option Expression :=
  (properties.find? (·.name? = some name)).map Property.value

/-- The elements of a field that holds a list and may be left out. -/
def entries (properties : List Property) (field : ListField) :
    Except SkipReason (List Expression) :=
  match field? properties field.text with
  | none => .ok []
  | some value =>
    match value.form with
    | .array elements => if elements.any isSpread then .error (.spreadEntry field) else .ok elements
    | _ => .error (.notArray field)

/-- The properties of an element of a list; all of them need names. -/
def entryProperties (field : ListField) (index : Nat) (entry : Expression) :
    Except SkipReason (List Property) :=
  match properties? entry with
  | none => .error (.entryNotObject field index)
  | some properties =>
    if properties.all (·.name?.isSome) then .ok properties else .error .dynamicKeys

variable (program : Program) (file : Nat)

/-- The token in a property of an element of a list. -/
def entryToken (properties : List Property) (field : ListField) (index : Nat) (key : String) :
    Except SkipReason InjectionToken :=
  match field? properties key with
  | none => .error (.missingKey field index key)
  | some expression => (program.token file expression).mapError (.token field index)

/-- The class that a name in a file refers to. -/
def classNamed? (expression : Expression) : Option Nat :=
  (expression.name?.bind (program.find? file)).bind fun (number, declaration) =>
    if declaration.kind = .class_ then some number else none

/-- What stands behind a token: a provider before a factory before a value, and the
token itself if it is a class. -/
def provision (properties : List Property) (index : Nat) (token : InjectionToken) :
    Except SkipReason Provision :=
  match field? properties "provider" with
  | some provider =>
    match classNamed? program file provider with
    | some declaration => .ok (.instanceOf declaration)
    | none => .error (.providerNotClass index)
  | none =>
    if (field? properties "factory").isSome then .ok .factory
    else if (field? properties "value").isSome then .ok .value
    else if token.kind = .class_ then .ok (.instanceOf token.declaration)
    else .error (.noProvider index)

/-- The registration in an element of `injections`. -/
def registration (entry : Expression) (index : Nat) : Except SkipReason Registration := do
  let properties ← entryProperties .injections index entry
  let token ← entryToken program file properties .injections index "token"
  let provision ← provision program file properties index token
  return ⟨token, provision, ⟨file, entry.span⟩⟩

/-- The binding in an element of `listeners`. -/
def listenerBinding (entry : Expression) (index : Nat) : Except SkipReason ListenerBinding := do
  let properties ← entryProperties .listeners index entry
  let event ← entryToken program file properties .listeners index "event"
  let listener ← entryToken program file properties .listeners index "listener"
  return ⟨event, listener, ⟨file, entry.span⟩⟩

/-- The reference in an element of `extends`; nothing if the name refers to nothing. -/
def parentReference (entry : Expression) (index : Nat) :
    Except SkipReason (Option ParentReference) :=
  match entry.name? with
  | none => .error (.parentNotIdentifier index)
  | some name => .ok ((program.resolve? file name).map fun target => ⟨target, entry.span⟩)

/-- The kind of a configuration with some properties. -/
def kindOf (properties : List Property) : ConfigurationKind :=
  match field? properties "builderId" with
  | some value => .builder (Program.stringContent? value)
  | none => .fragment

/-- The configuration that a literal holds. Registrations are read before listeners,
and both before the configurations that are extended. -/
def ofLiteral (declaration : Nat) (name : String) (literal : Expression) :
    Except SkipReason Configuration := do
  let some properties := properties? literal | .error .notObjectLiteral
  if properties.any (·.name?.isNone) then .error .dynamicKeys
  let registrations ← (← entries properties .injections).zipIdx.mapM fun (entry, index) =>
    registration program file entry index
  let listeners ← (← entries properties .listeners).zipIdx.mapM fun (entry, index) =>
    listenerBinding program file entry index
  let parents ← (← entries properties .extends_).zipIdx.mapM fun (entry, index) =>
    parentReference program file entry index
  return {
    declaration
    kind := kindOf properties
    name
    location := ⟨file, literal.span⟩
    registrations
    listeners
    parents := parents.filterMap id
    hasUnresolvedParent := parents.any Option.isNone }

/-- The configuration that a literal holds is that of the declaration. -/
theorem declaration_of_ofLiteral {declaration : Nat} {name : String} {literal : Expression}
    {configuration : Configuration}
    (read : ofLiteral program file declaration name literal = .ok configuration) :
    configuration.declaration = declaration := by
  simp only [ofLiteral, bind, Except.bind, pure, Except.pure] at read
  repeat' split at read
  all_goals cases read
  rfl

/-- The literal that an expression hands to a function that defines a configuration. -/
def literal? (initial : Expression) : Option Expression :=
  match initial.form with
  | .call callee _ arguments =>
    match callee.form with
    | .name function | .member _ function =>
      if function = "defineBuilderConfig" ∨ function = "definePartialConfig" then arguments.head?
      else none
    | _ => none
  | _ => none

end Configuration

namespace Program

variable (program : Program)

/-- What a declaration holds: a configuration, a literal that is left out, or neither. -/
def configurationIn? (number : Nat) (declaration : Declaration) :
    Option (Except SkippedConfiguration Configuration) :=
  declaration.binding?.bind fun binding =>
    (binding.initial.bind Configuration.literal?).map fun literal =>
      (Configuration.ofLiteral program declaration.file number binding.name literal).mapError
        fun reason => ⟨number, ⟨declaration.file, literal.span⟩, reason⟩

/-- All configurations and all literals that are left out, in the order of the
declarations. -/
def configurationEntries : List (Except SkippedConfiguration Configuration) :=
  program.linkage.numbers.filterMap fun number =>
    (program.declaration? number).bind (program.configurationIn? number)

/-- All configurations. -/
def configurations : List Configuration :=
  program.configurationEntries.filterMap Except.toOption

/-- What a declaration holds is a configuration of the declaration. -/
theorem declaration_of_configurationIn? {number : Nat} {declaration : Declaration}
    {configuration : Configuration}
    (held : program.configurationIn? number declaration = some (.ok configuration)) :
    configuration.declaration = number := by
  simp only [configurationIn?, Option.bind_eq_some_iff, Option.map_eq_some_iff] at held
  obtain ⟨binding, _, literal, _, read⟩ := held
  cases result : Configuration.ofLiteral program declaration.file number binding.name literal with
  | error reason =>
    rw [result] at read
    cases read
  | ok found =>
    rw [result] at read
    cases read
    exact Configuration.declaration_of_ofLiteral program declaration.file result

/-- The declarations that hold configurations are among all declarations, in their order. -/
theorem declaration_configurations_sublist :
    (program.configurations.map Configuration.declaration).Sublist program.linkage.numbers := by
  unfold configurations configurationEntries
  generalize program.linkage.numbers = numbers
  induction numbers with
  | nil => exact .slnil
  | cons number others ih =>
    rw [List.filterMap_cons]
    cases held : (program.declaration? number).bind (program.configurationIn? number) with
    | none => exact ih.cons number
    | some entry =>
      obtain ⟨declaration, _, inside⟩ := Option.bind_eq_some_iff.1 held
      cases entry with
      | error skipped => exact ih.cons number
      | ok configuration =>
        have same := program.declaration_of_configurationIn? inside
        subst same
        exact ih.cons_cons configuration.declaration

/-- No declaration holds two configurations. -/
theorem nodup_declaration_configurations :
    (program.configurations.map Configuration.declaration).Nodup :=
  program.declaration_configurations_sublist.nodup List.nodup_range

/-- All literals that are left out. -/
def skippedConfigurations : List SkippedConfiguration :=
  program.configurationEntries.filterMap fun
    | .error skipped => some skipped
    | .ok _ => none

end Program

end InjectionCheck
