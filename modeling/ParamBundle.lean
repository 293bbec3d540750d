import ParamBundle.Text.Basic
import ParamBundle.Text.ControlSequence
import ParamBundle.Text.Quoted
import ParamBundle.Text.Uppercase
import ParamBundle.Text.Utf8
import ParamBundle.Decimal.Layout
import ParamBundle.Json.Basic
import ParamBundle.Json.Display
import ParamBundle.Json.Nesting
import ParamBundle.Json.Reader
import ParamBundle.NameSet
import ParamBundle.Identifier
import ParamBundle.Style
import ParamBundle.Parameter
import ParamBundle.Fault
import ParamBundle.TypeText
import ParamBundle.Member
import ParamBundle.ClassText
import ParamBundle.Draft
import ParamBundle.Descriptor.Basic
import ParamBundle.Descriptor.Reader
import ParamBundle.Descriptor.File
import ParamBundle.FilePath
import ParamBundle.FileSystem
import ParamBundle.Generation
import ParamBundle.CommandTable
import ParamBundle.CommandLine.Arguments
import ParamBundle.CommandLine.Console
import ParamBundle.CommandLine.Run
import ParamBundle.CommandLine.Footprint
import ParamBundle.Main
import ParamBundle.Proofs.Traversal
import ParamBundle.Proofs.TypeTexts
import ParamBundle.Proofs.RenderFaults
import ParamBundle.Proofs.AssignmentScope
import ParamBundle.Proofs.DescriptorSchema
import ParamBundle.Proofs.DottedNames
import ParamBundle.Proofs.ClassSettings
import ParamBundle.Proofs.FileEffects
import ParamBundle.Proofs.GenerationSafety
import ParamBundle.Proofs.DraftHistory
import ParamBundle.Proofs.Regeneration
import ParamBundle.Proofs.GenerationStages
import ParamBundle.Proofs.LayoutDecoding
import ParamBundle.Proofs.LineFeeds
import ParamBundle.Proofs.ClassLayout
import ParamBundle.Proofs.ClassPlacement
import ParamBundle.Proofs.DescriptorEncoding
import ParamBundle.Proofs.ReaderProgress
import ParamBundle.Proofs.Utf8Codec
import ParamBundle.Proofs.DescriptorFiles
import ParamBundle.Proofs.CommandLineShell
import ParamBundle.Proofs.RunStages
import ParamBundle.Proofs.RepeatedRuns
import ParamBundle.Proofs.RootedFiles
import ParamBundle.Proofs.IndependentRuns
import ParamBundle.Proofs.VerboseRuns
import ParamBundle.Proofs.CommandHistory
import ParamBundle.Proofs.NameCollisions
import ParamBundle.Proofs.GeneratedIdentifiers
import ParamBundle.Proofs.VariableArity
import ParamBundle.Proofs.OrderedChecks
import ParamBundle.Proofs.DescriptorFaults
import ParamBundle.Proofs.PackageNames
import ParamBundle.Proofs.DocumentedFields
import ParamBundle.Proofs.KeyOrder
import ParamBundle.Proofs.LineEnds
import ParamBundle.Proofs.LoadedText
