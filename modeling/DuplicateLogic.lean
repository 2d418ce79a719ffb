import DuplicateLogic.Analyzer
import DuplicateLogic.CommandLine.Arguments
import DuplicateLogic.CommandLine.Help
import DuplicateLogic.CommandLine.Option
import DuplicateLogic.Decimal
import DuplicateLogic.Equivalence
import DuplicateLogic.Files.Discovery
import DuplicateLogic.Files.IgnoreRules
import DuplicateLogic.Files.SettingsFile
import DuplicateLogic.Files.Tree
import DuplicateLogic.Glob.Match
import DuplicateLogic.Glob.Pattern
import DuplicateLogic.Json.Fault
import DuplicateLogic.Json.Layout
import DuplicateLogic.Json.Number
import DuplicateLogic.Json.Printer
import DuplicateLogic.Json.Scan
import DuplicateLogic.Json.Skip
import DuplicateLogic.Json.Value
import DuplicateLogic.Main
import DuplicateLogic.Path
import DuplicateLogic.Report.Json
import DuplicateLogic.Report.Style
import DuplicateLogic.Report.Table
import DuplicateLogic.Report.Text
import DuplicateLogic.Rules.Branches
import DuplicateLogic.Rules.Chain
import DuplicateLogic.Rules.Conditions
import DuplicateLogic.Rules.Enabled
import DuplicateLogic.Rules.Finding
import DuplicateLogic.Rules.Rule
import DuplicateLogic.Rules.SelfUpdate
import DuplicateLogic.Rules.Walk
import DuplicateLogic.Run
import DuplicateLogic.Settings
import DuplicateLogic.Suppression
import DuplicateLogic.Syntax.Build
import DuplicateLogic.Syntax.Construct
import DuplicateLogic.Syntax.Decode
import DuplicateLogic.Syntax.Encode
import DuplicateLogic.Syntax.Kind
import DuplicateLogic.Syntax.Node
import DuplicateLogic.Syntax.Position
import DuplicateLogic.Syntax.Token
import DuplicateLogic.Syntax.View
import DuplicateLogic.Text.Extending
import DuplicateLogic.Text.Quoted
import DuplicateLogic.Text.Ranges
import DuplicateLogic.Text.Raw
import DuplicateLogic.Text.Split
import DuplicateLogic.Text.Unprintable
import DuplicateLogic.Text.Width
import DuplicateLogic.Toml.Item
import DuplicateLogic.Toml.Quoted
import DuplicateLogic.Toml.Reader
import DuplicateLogic.Toml.Scalar
import DuplicateLogic.Toml.Settings
import DuplicateLogic.Proofs.Equivalence
import DuplicateLogic.Proofs.Enabled
import DuplicateLogic.Proofs.Correspondence
import DuplicateLogic.Proofs.Renaming
import DuplicateLogic.Proofs.JsonReading
import DuplicateLogic.Proofs.Tags
import DuplicateLogic.Proofs.TreeText
import DuplicateLogic.Proofs.TreeDecoding
import DuplicateLogic.Proofs.Anchors
import DuplicateLogic.Proofs.FileOrder
import DuplicateLogic.Proofs.Analysis
import DuplicateLogic.Proofs.FileChange
import DuplicateLogic.Proofs.FileByFile
import DuplicateLogic.Proofs.Chains
import DuplicateLogic.Proofs.TextLines
import DuplicateLogic.Proofs.SuppressedLines
import DuplicateLogic.Proofs.RunSettings
import DuplicateLogic.Proofs.ExitCode
import DuplicateLogic.Proofs.Ignoring
import DuplicateLogic.Proofs.Spelling
import DuplicateLogic.Proofs.JsonForms
import DuplicateLogic.Proofs.JsonAccepting
import DuplicateLogic.Proofs.JsonSkipping
import DuplicateLogic.Proofs.TreeForms
import DuplicateLogic.Proofs.Subtree
import DuplicateLogic.Proofs.WalkBlocks
import DuplicateLogic.Proofs.WellFormed
import DuplicateLogic.Proofs.WrittenChains
import DuplicateLogic.Proofs.AlikeBranches
import DuplicateLogic.Proofs.JsonValues
import DuplicateLogic.Proofs.JsonPretty
import DuplicateLogic.Proofs.ReportReading
import DuplicateLogic.Proofs.AlikeClauses
import DuplicateLogic.Proofs.Classes
import DuplicateLogic.Proofs.RepeatedConditions
import DuplicateLogic.Proofs.ArmsAndUpdates
import DuplicateLogic.Proofs.Advancing
import DuplicateLogic.Proofs.Collecting
import DuplicateLogic.Proofs.CommentLists
import DuplicateLogic.Proofs.GroupedClauses
import DuplicateLogic.Proofs.FileIgnores
import DuplicateLogic.Proofs.GlobSegments
import DuplicateLogic.Proofs.ShownNames
import DuplicateLogic.Proofs.FolderSearch
import DuplicateLogic.Proofs.FileReplaced
import DuplicateLogic.Proofs.PathAncestors
import DuplicateLogic.Proofs.SettingsSearch
import DuplicateLogic.Proofs.SeparateChains
import DuplicateLogic.Proofs.BuiltForms
import DuplicateLogic.Proofs.BuiltText
