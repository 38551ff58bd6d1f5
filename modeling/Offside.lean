import Offside.Command
import Offside.Command.Arguments
import Offside.Compiler
import Offside.Emitter
import Offside.Fault
import Offside.Grammar
import Offside.Grammar.Assignments
import Offside.Grammar.Fixed
import Offside.Grammar.Lines
import Offside.Layout
import Offside.Layout.Indentation
import Offside.Layout.Newlines
import Offside.Layout.Trivia
import Offside.Lexer
import Offside.Lexer.Rule
import Offside.Lexer.Scan
import Offside.Literal
import Offside.Lowering
import Offside.Lowering.Expansion
import Offside.Lowering.Pass
import Offside.Lowering.Rules
import Offside.Main
import Offside.Memory
import Offside.Number
import Offside.Number.Decimal
import Offside.Operator
import Offside.Position
import Offside.Proofs.Acceptance
import Offside.Proofs.Conservation
import Offside.Proofs.ExpansionSize
import Offside.Proofs.Hygiene
import Offside.Proofs.LeafSoundness
import Offside.Proofs.LeafSteps
import Offside.Proofs.LeafTrace
import Offside.Proofs.NameSearch
import Offside.Proofs.NameSupply
import Offside.Proofs.Nodes
import Offside.Proofs.PassInvariant
import Offside.Proofs.ScopeClosure
import Offside.Proofs.StepClosure
import Offside.Proofs.SuccessConditions
import Offside.Proofs.TemplateInstances
import Offside.Proofs.WellFormed
import Offside.Queue
import Offside.Recent
import Offside.Report
import Offside.Script.Names
import Offside.Script.Tree
import Offside.Script.Walk
import Offside.Source
import Offside.Source.Excerpt
import Offside.Target.Tree
import Offside.Target.Vocabulary
import Offside.Template.Instance
import Offside.Template.Parser
import Offside.Template.Syntax
import Offside.Text.Alphabetic
import Offside.Text.Blank
import Offside.Text.Bytes
import Offside.Text.Field
import Offside.Text.Mark
import Offside.Text.Name
import Offside.Text.Numeric
import Offside.Text.Printable
import Offside.Text.Quoted
import Offside.Text.Ranges
import Offside.Text.Word
import Offside.Token
import Offside.Token.Kind
import Offside.Token.View
import Offside.Proofs.LayoutStages
import Offside.Proofs.BlockBalance
import Offside.Proofs.ChainMeaning
import Offside.Proofs.FilteredSteps
import Offside.Proofs.VocabularyFilter
import Offside.Proofs.LayoutForest
import Offside.Proofs.LayoutRoundTrip
import Offside.Proofs.LexerRestart
import Offside.Proofs.RuleTable
import Offside.Proofs.StageConservation
import Offside.Proofs.NewlineSeparation
import Offside.Proofs.ViewRefinement
import Offside.Proofs.StreamObservation
import Offside.Proofs.ReceiverNames
import Offside.Proofs.CascadeReceivers
import Offside.Proofs.TemplatePhrases
import Offside.Proofs.PhraseReading
import Offside.Proofs.TemplateRoundTrip
import Offside.Proofs.Locations
import Offside.Proofs.Outcomes
import Offside.Proofs.LocationFlow
import Offside.Proofs.LocationPropagation
import Offside.Proofs.StackDiscipline
import Offside.Proofs.Outline
import Offside.Proofs.SharedKinds
import Offside.Proofs.FaithfulCopy
import Offside.Proofs.EngineMemory
import Offside.Proofs.SourceLines
import Offside.Proofs.ErrorReports
import Offside.Proofs.AssignmentLines
import Offside.Proofs.AssignmentCompilation
import Offside.Proofs.FunctionForest
import Offside.Proofs.FunctionForms
import Offside.Proofs.NewlineFilter
import Offside.Proofs.BlockClosing
import Offside.Proofs.Mintings
import Offside.Proofs.MintedNames
import Offside.Proofs.BodyPartition
import Offside.Proofs.FunctionImages
import Offside.Proofs.FunctionShapes
import Offside.Proofs.PseudoPlaces
import Offside.Proofs.LineColumns
import Offside.Proofs.LineExcerpts
import Offside.Proofs.StringLiterals
import Offside.Proofs.TemplateSubstitution
import Offside.Proofs.ReportAlignment
import Offside.Proofs.StoppedWalk
import Offside.Proofs.DeclarationGroups
import Offside.Proofs.PushProtocol
