import CrossRef.Assoc
import CrossRef.CommandLine.Commands
import CrossRef.CommandLine.Console
import CrossRef.CommandLine.Help
import CrossRef.CommandLine.Invocation
import CrossRef.CommandLine.Options
import CrossRef.CommandLine.Program
import CrossRef.CommandLine.Reader
import CrossRef.CommandLine.Word
import CrossRef.Config.Environment
import CrossRef.Config.Files
import CrossRef.Declaration
import CrossRef.Event
import CrossRef.Failure
import CrossRef.Index
import CrossRef.Json.Printer
import CrossRef.Json.Reader
import CrossRef.Listing
import CrossRef.Main
import CrossRef.MarkupParser
import CrossRef.Number.Digits
import CrossRef.Number.Double
import CrossRef.Number.Layout
import CrossRef.Number.Reader
import CrossRef.Path
import CrossRef.Registry
import CrossRef.Server
import CrossRef.Session
import CrossRef.Snapshot
import CrossRef.Span
import CrossRef.Text.Blank
import CrossRef.Text.CaseClass
import CrossRef.Text.Hex
import CrossRef.Text.Lines
import CrossRef.Text.LowerCase
import CrossRef.Text.LowerCase.Table
import CrossRef.Text.Printable
import CrossRef.Text.Quoted
import CrossRef.Text.Ranges
import CrossRef.Text.Utf8
import CrossRef.Text.WordChar
import CrossRef.Toml.Printer
import CrossRef.Toml.Reader
import CrossRef.Toml.Reading
import CrossRef.Toml.Scalar
import CrossRef.Toml.Tree
import CrossRef.Traced
import CrossRef.Value.Basic
import CrossRef.Value.Calendar
import CrossRef.Value.Merge
import CrossRef.View.Colour
import CrossRef.View.Context
import CrossRef.View.Language
import CrossRef.View.Markup
import CrossRef.View.Settings
import CrossRef.View.Token
import CrossRef.World
import CrossRef.XmlDeclaration
import CrossRef.Proofs.Outcome
import CrossRef.Proofs.SessionRuns
import CrossRef.Proofs.IndexEntries
import CrossRef.Proofs.Ownership
import CrossRef.Proofs.LetterCase
import CrossRef.Proofs.LineCuts
import CrossRef.Proofs.LiteralDeclarations
import CrossRef.Proofs.Locations
import CrossRef.Proofs.RegistryRuns
import CrossRef.Proofs.BuildFailures
import CrossRef.Proofs.EffectiveSettings
import CrossRef.Proofs.Occurrences
import CrossRef.Proofs.ExitStatus
import CrossRef.Proofs.ServerAnswers
import CrossRef.Proofs.RegistryFrame
import CrossRef.Proofs.ServerHistory
import CrossRef.Proofs.DocumentHead
import CrossRef.Proofs.ViewAgreement
import CrossRef.Proofs.Trimming
import CrossRef.Proofs.LineGrammar
import CrossRef.Proofs.FoldedNames
import CrossRef.Proofs.ListingLines
import CrossRef.Proofs.DeclarationSpan
import CrossRef.Proofs.Completions
import CrossRef.Proofs.DistinctKeys
import CrossRef.Proofs.TableMerge
import CrossRef.Proofs.SavedSettings
import CrossRef.Proofs.LinePositions
import CrossRef.Proofs.ContextView
import CrossRef.Proofs.ColouredView
import CrossRef.Proofs.ObservedBuilds
import CrossRef.Proofs.ParserVerdicts
import CrossRef.Proofs.Utf8Texts
import CrossRef.Proofs.ConfigLoading
import CrossRef.Proofs.OffsetPlaces
import CrossRef.Proofs.DeclarationRecords
import CrossRef.Proofs.JsonStrings
import CrossRef.Proofs.NumberTexts
import CrossRef.Proofs.JsonNumbers
import CrossRef.Proofs.JsonTexts
import CrossRef.Proofs.EnvironmentValues
