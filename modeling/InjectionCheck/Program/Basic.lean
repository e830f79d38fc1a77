import InjectionCheck.Program.Scope
import InjectionCheck.Token.Fault
import InjectionCheck.Types.Assignability
import InjectionCheck.Types.Format

/-!
# Programs

A program is made of source files at once: the files are cut into tokens and parsed,
their declarations are numbered, names are linked to declarations, and the type of
each declaration and the shape of each class and interface are computed. What stays
open is the pool of types, which grows when more annotations are lowered
(`Program.lowerType`).
-/

set_option autoImplicit false

namespace InjectionCheck

/-- The source files of a program with all that is known of them. -/
structure Program where
  files : Array ProgramFile
  /-- The declarations, and what names refer to. -/
  linkage : Linkage
  /-- The errors of the files and the warnings of their imports. -/
  diagnostics : List Diagnostic
  /-- The type of each declaration. -/
  declarationTypes : Array TypeIndex
  /-- The types and shapes. -/
  table : ShapeTable

namespace ProgramFile

/-- The file that a source text makes, with the diagnostics of its tokens and of its
grammar. -/
def ofSource (source : SourceFile) : ProgramFile × List Diagnostic :=
  let tokens := TokenList.ofText source.content
  let unit := SourceUnit.ofTokens tokens
  (⟨source, unit⟩,
    tokens.faults.map (fun (fault, span) => fault.diagnostic span source) ++
      unit.errors.map (·.diagnostic source))

end ProgramFile

namespace Linkage

/-- The declarations of some files, in order. -/
def collect (files : List ProgramFile) : List Declaration :=
  files.zipIdx.flatMap fun (file, number) => Declaration.ofItems number file.unit.items

/-- The types of all declarations, in order. -/
def declarationTypes (linkage : Linkage) (table : TypeTable) : Array TypeIndex × TypeTable :=
  linkage.numbers.foldl (fun (types, table) number =>
    let (type, table) := linkage.lowerDeclaration [] table number
    (types.push type, table)) (#[], table)

/-- The numbers of the classes and interfaces. -/
def shaped (linkage : Linkage) : List Nat :=
  linkage.numbers.filter fun number =>
    linkage.declarations[number]?.any fun declaration =>
      declaration.kind = .class_ || declaration.kind = .interface_

/-- The shapes of all classes and interfaces. -/
def shapes (linkage : Linkage) (types : TypeTable) : ShapeTable :=
  linkage.shaped.foldl (linkage.computeShape []) (.empty linkage types)

end Linkage

namespace Program

/-- The program that some source files make. -/
def ofFiles (sources : List SourceFile) : Program :=
  let parsed := sources.map ProgramFile.ofSource
  let files := parsed.map Prod.fst
  let declarations := (Linkage.collect files).toArray
  let exports := Exports.ofFiles (declarations.toList.zipIdx.map fun (d, n) => (n, d)) files
  let imported := exports.scopes files
  let linkage : Linkage := ⟨declarations, (imported.map Imported.scope).toArray⟩
  let (declarationTypes, types) := linkage.declarationTypes (.empty linkage)
  { files := files.toArray
    linkage
    diagnostics := parsed.flatMap Prod.snd ++ imported.flatMap Imported.warnings
    declarationTypes
    table := linkage.shapes types }

variable (program : Program)

/-- The number of the first file with a path. -/
def fileByPath? (path : String) : Option Nat :=
  program.files.findIdx? (·.source.path = path)

/-- The source of a file. -/
def source? (file : Nat) : Option SourceFile := program.files[file]?.map ProgramFile.source

/-- A declaration. -/
def declaration? (number : Nat) : Option Declaration := program.linkage.declarations[number]?

/-- The number of the declaration that a name refers to in a file. -/
def resolve? (file : Nat) (name : String) : Option Nat := program.linkage.resolve? file name

/-- The declaration that a name refers to in a file, with its number. -/
def find? (file : Nat) (name : String) : Option (Nat × Declaration) :=
  program.linkage.find? file name

/-- The type of a declaration: the instances of a class or interface, what an alias
names, or the type of a binding. -/
def declarationType (number : Nat) : TypeIndex := (program.declarationTypes[number]?).getD .error

/-- The type that an annotation in a file means, and the program whose pool holds it. -/
def lowerType (file : Nat) (type : TypeExpression) : TypeIndex × Program :=
  let (index, types) := program.linkage.lower [] program.table.types file type
  (index, { program with table := { program.table with types } })

/-- The members of a class or interface, own and inherited. -/
def shape? (number : Nat) : Option Shape := program.table.shape? number

/-- Whether a value of one type can be used where another type is expected. -/
def isAssignable (source target : TypeIndex) : Bool := program.table.isAssignable source target

/-- A type as source text. -/
def format (type : TypeIndex) : String := program.table.pool.format type

end Program

end InjectionCheck
