import InjectionCheck.CommandLine.Disk
import InjectionCheck.CommandLine.Failure
import InjectionCheck.CommandLine.FileTree
import InjectionCheck.CommandLine.Options
import InjectionCheck.CommandLine.Report
import InjectionCheck.CommandLine.Run
import InjectionCheck.Diagnostic.Basic
import InjectionCheck.Diagnostic.Code
import InjectionCheck.Diagnostic.Explanation
import InjectionCheck.Diagnostic.Json
import InjectionCheck.Diagnostic.Position
import InjectionCheck.Diagnostic.Terminal
import InjectionCheck.Grammar.Classes
import InjectionCheck.Grammar.Cursor
import InjectionCheck.Grammar.Expressions
import InjectionCheck.Grammar.Groups
import InjectionCheck.Grammar.Items
import InjectionCheck.Grammar.Outcome
import InjectionCheck.Grammar.ParseError
import InjectionCheck.Grammar.Rules
import InjectionCheck.Grammar.SourceUnit
import InjectionCheck.Grammar.Types
import InjectionCheck.Grammar.Words
import InjectionCheck.Main
import InjectionCheck.Program.Basic
import InjectionCheck.Program.Declaration
import InjectionCheck.Program.Path
import InjectionCheck.Program.Scope
import InjectionCheck.Text.Lines
import InjectionCheck.Text.NameTable
import InjectionCheck.Text.Span
import InjectionCheck.Text.Unseen
import InjectionCheck.Token.Fault
import InjectionCheck.Token.Kind
import InjectionCheck.Token.Literal
import InjectionCheck.Token.Scanner
import InjectionCheck.Tree.Basic
import InjectionCheck.Types.Assignability
import InjectionCheck.Types.Format
import InjectionCheck.Types.Index
import InjectionCheck.Types.Lowering
import InjectionCheck.Types.Pool
import InjectionCheck.Types.Shape
import InjectionCheck.Validation.Check
import InjectionCheck.Validation.Configuration
import InjectionCheck.Validation.Dependency
import InjectionCheck.Validation.Finding
import InjectionCheck.Validation.Token
import InjectionCheck.Validation.Wiring
import InjectionCheck.Walk.NumberIndex
import InjectionCheck.Walk.NumberSet
import InjectionCheck.Walk.Unvisited
import InjectionCheck.Proofs.DepthFirst
import InjectionCheck.Proofs.Distinct
import InjectionCheck.Proofs.Provision
import InjectionCheck.Proofs.Dependents
import InjectionCheck.Proofs.MissingDependencies
import InjectionCheck.Proofs.TypeMismatches
import InjectionCheck.Proofs.AssignabilityRules
import InjectionCheck.Proofs.AssignabilityGreatest
import InjectionCheck.Proofs.SharedAssumptions
import InjectionCheck.Proofs.CycleSearch
import InjectionCheck.Proofs.ExtendsCycles
import InjectionCheck.Proofs.AncestryOrder
import InjectionCheck.Proofs.Duplicates
import InjectionCheck.Proofs.ClassBases
import InjectionCheck.Proofs.NominalClasses
import InjectionCheck.Proofs.Isolation
import InjectionCheck.Proofs.ImportedNames
import InjectionCheck.Proofs.NormalPaths
import InjectionCheck.Proofs.MovedFolders
import InjectionCheck.Proofs.TokenNames
import InjectionCheck.Proofs.ProblemOutlines
import InjectionCheck.Proofs.Descriptions
import InjectionCheck.Proofs.BarePrograms
import InjectionCheck.Proofs.Places
import InjectionCheck.Proofs.ParallelRules
import InjectionCheck.Proofs.ParallelLookahead
import InjectionCheck.Proofs.ParallelTypes
import InjectionCheck.Proofs.ParallelExpressions
import InjectionCheck.Proofs.ParallelClasses
import InjectionCheck.Proofs.DescribedItems
import InjectionCheck.Proofs.ParallelItems
import InjectionCheck.Proofs.ParallelUnits
import InjectionCheck.Proofs.TokenStreams
import InjectionCheck.Proofs.LocalPieces
import InjectionCheck.Proofs.RedescribedTexts
import InjectionCheck.Proofs.RedescribedPrograms
import InjectionCheck.Proofs.Progress
import InjectionCheck.Proofs.RuleProgress
import InjectionCheck.Proofs.FileProgress
import InjectionCheck.Proofs.Unplaced
import InjectionCheck.Proofs.Sketches
import InjectionCheck.Proofs.PoolSketches
import InjectionCheck.Proofs.Connectives
import InjectionCheck.Proofs.PoolCalls
import InjectionCheck.Proofs.Meanings
import InjectionCheck.Proofs.Renumbering
import InjectionCheck.Proofs.RenumberedExports
import InjectionCheck.Proofs.ReorderedFiles
import InjectionCheck.Proofs.DeclarationOrder
import InjectionCheck.Proofs.Spellings
import InjectionCheck.Proofs.Readings
import InjectionCheck.Proofs.TypeReadings
import InjectionCheck.Proofs.ReadBack
import InjectionCheck.Proofs.TidyPools
import InjectionCheck.Proofs.LoweredAgain
import InjectionCheck.Proofs.NestedComparisons
import InjectionCheck.Proofs.JsonTexts
import InjectionCheck.Proofs.JsonReports
import InjectionCheck.Proofs.Tiling
import InjectionCheck.Proofs.SpansOfTexts
import InjectionCheck.Proofs.UnionBounds
import InjectionCheck.Proofs.InheritedMembers
import InjectionCheck.Proofs.DeclaredInheritance
import InjectionCheck.Proofs.UnseenBases
import InjectionCheck.Proofs.NestedGroups
import InjectionCheck.Proofs.SilentRules
import InjectionCheck.Proofs.SilentExpressions
import InjectionCheck.Proofs.SilentStatements
import InjectionCheck.Proofs.SkippedBodies
import InjectionCheck.Proofs.AbreastRules
import InjectionCheck.Proofs.AbreastWords
import InjectionCheck.Proofs.AbreastTypes
import InjectionCheck.Proofs.AbreastExpressions
import InjectionCheck.Proofs.AbreastClasses
import InjectionCheck.Proofs.AbreastItems
import InjectionCheck.Proofs.OpaqueBodies
import InjectionCheck.Proofs.RequiredParameters
import InjectionCheck.Proofs.Successes
import InjectionCheck.Proofs.OperatorTrees
import InjectionCheck.Proofs.BraceDepth
import InjectionCheck.Proofs.DepthOfTypes
import InjectionCheck.Proofs.DepthOfExpressions
import InjectionCheck.Proofs.ClassRecovery
import InjectionCheck.Proofs.AppendedTokens
import InjectionCheck.Proofs.AppendedWords
import InjectionCheck.Proofs.AppendedTypes
import InjectionCheck.Proofs.AppendedExpressions
import InjectionCheck.Proofs.ConditionalBranches
import InjectionCheck.Proofs.RecordedErrors
import InjectionCheck.Proofs.GivenUpAttempts
import InjectionCheck.Proofs.SkippedGroups
import InjectionCheck.Proofs.Lexemes
import InjectionCheck.Proofs.BlankBoundaries
import InjectionCheck.Proofs.LineEnds
import InjectionCheck.Proofs.Separators
import InjectionCheck.Proofs.Escapes
import InjectionCheck.Proofs.OfferedNames
import InjectionCheck.Proofs.ImportWarnings
import InjectionCheck.Proofs.SettledTypes
import InjectionCheck.Proofs.GrownTables
import InjectionCheck.Proofs.ListedMembers
import InjectionCheck.Proofs.LaterPrograms
import InjectionCheck.Proofs.LinePositions
import InjectionCheck.Proofs.Underlines
import InjectionCheck.Proofs.PathForms
import InjectionCheck.Proofs.CursorMoves
import InjectionCheck.Proofs.NameHistories
