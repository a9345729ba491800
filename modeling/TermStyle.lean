import TermStyle.Attribute
import TermStyle.Calendar
import TermStyle.Color
import TermStyle.CommandLine.DefaultCommand
import TermStyle.CommandLine.Grammar
import TermStyle.CommandLine.Help
import TermStyle.CommandLine.Perform
import TermStyle.CommandLine.Program
import TermStyle.CommandLine.Reading
import TermStyle.CommandLine.Section
import TermStyle.CommandLine.Usage
import TermStyle.CommandLine.Word
import TermStyle.Compile
import TermStyle.Decimal.Places
import TermStyle.Decimal.Reading
import TermStyle.Decimal.Rounding
import TermStyle.Decimal.Shortest
import TermStyle.Detection
import TermStyle.Directive
import TermStyle.Emphasis
import TermStyle.Environment
import TermStyle.Fault
import TermStyle.Log.Configure
import TermStyle.Log.Formatter
import TermStyle.Log.Level
import TermStyle.Log.Painter
import TermStyle.Log.Record
import TermStyle.Log.Setup
import TermStyle.Main
import TermStyle.Numeral
import TermStyle.Platform
import TermStyle.Platform.Console
import TermStyle.Platform.Query
import TermStyle.Proofs.ActionRun
import TermStyle.Proofs.ArgumentReading
import TermStyle.Proofs.CombinedModes
import TermStyle.Proofs.CompileOutcome
import TermStyle.Proofs.CompileOutput
import TermStyle.Proofs.ConsoleRun
import TermStyle.Proofs.DetectionOutcome
import TermStyle.Proofs.ExceptSteps
import TermStyle.Proofs.FlagValues
import TermStyle.Proofs.Logging
import TermStyle.Proofs.NumeralReading
import TermStyle.Proofs.SequenceText
import TermStyle.Proofs.SettingsRun
import TermStyle.Proofs.StylerLifeCycle
import TermStyle.Proofs.StylerRun
import TermStyle.Proofs.TemplateText
import TermStyle.Proofs.TierGating
import TermStyle.Proofs.TierPrecedence
import TermStyle.Proofs.TierReading
import TermStyle.Proofs.VisibleText
import TermStyle.Sequence
import TermStyle.Session
import TermStyle.Settings
import TermStyle.Settings.Apply
import TermStyle.Settings.Load
import TermStyle.Store
import TermStyle.Store.Path
import TermStyle.Store.Rotation
import TermStyle.Styler
import TermStyle.Template
import TermStyle.Text.Blank
import TermStyle.Text.CaseMap
import TermStyle.Text.CaseTable
import TermStyle.Text.Digit
import TermStyle.Text.Lines
import TermStyle.Text.Percent
import TermStyle.Text.Percent.Number
import TermStyle.Text.Printable
import TermStyle.Text.Quoted
import TermStyle.Text.Surrogate
import TermStyle.Text.Word
import TermStyle.Tier
import TermStyle.Value
import TermStyle.Variable
import TermStyle.Version
import TermStyle.Whole
import TermStyle.World
import TermStyle.Yaml
import TermStyle.Yaml.Cursor
import TermStyle.Yaml.Document
import TermStyle.Yaml.Graph
import TermStyle.Yaml.Graph.Reading
import TermStyle.Yaml.Key
import TermStyle.Yaml.Lexer
import TermStyle.Yaml.Meaning
import TermStyle.Yaml.Scalar
import TermStyle.Yaml.Source
import TermStyle.Yaml.Tag
import TermStyle.Yaml.Token
import TermStyle.Yaml.Writer
import TermStyle.Proofs.DocumentKeys
import TermStyle.Proofs.LogLevelText
import TermStyle.Proofs.SettingsSources
import TermStyle.Proofs.DocumentSource
import TermStyle.Proofs.DiscoveredFile
import TermStyle.Proofs.TwoReadings
import TermStyle.Proofs.ScanRun
import TermStyle.Proofs.LineTokens
import TermStyle.Proofs.FlatDocument
import TermStyle.Proofs.LogLevelLetters
import TermStyle.Proofs.WrittenLines
import TermStyle.Proofs.SettingsLines
import TermStyle.Proofs.NormalPath
import TermStyle.Proofs.SavedFile
import TermStyle.Proofs.SavedSettings
import TermStyle.Proofs.LeadingFlags
import TermStyle.Proofs.RunCourse
import TermStyle.Proofs.NamedCommand
import TermStyle.Proofs.ActionFailure
import TermStyle.Proofs.ConsoleOutcome
import TermStyle.Proofs.SettlingOutcome
import TermStyle.Proofs.CommandOutcome
import TermStyle.Proofs.RunEndings
import TermStyle.Proofs.UnescapedText
import TermStyle.Proofs.PlainHelp
import TermStyle.Proofs.ValueSources
import TermStyle.Proofs.MessageQuotes
import TermStyle.Proofs.NoColor
import TermStyle.Proofs.SpelledFlags
import TermStyle.Proofs.DefaultMode
import TermStyle.Proofs.LoadOutcome
import TermStyle.Proofs.ProblemReport
import TermStyle.Proofs.TreeShape
import TermStyle.Proofs.ConsoleTrace
import TermStyle.Proofs.LoggerFamily
import TermStyle.Proofs.PlaceholderSubstitution
import TermStyle.Proofs.SeparatedText
import TermStyle.Proofs.DirectiveGrammar
import TermStyle.Proofs.ArgumentValues
import TermStyle.Proofs.DirectiveMeaning
import TermStyle.Proofs.GroupedDirectives
import TermStyle.Proofs.ForcedFloor
import TermStyle.Proofs.ColorTerminal
import TermStyle.Proofs.HexColors
import TermStyle.Proofs.TierReaders
import TermStyle.Proofs.PinnedTier
import TermStyle.Proofs.RequestedFile
import TermStyle.Proofs.ShieldedText
import TermStyle.Proofs.BrokenConfiguration
import TermStyle.Proofs.PainterRun
import TermStyle.Proofs.StyledNames
import TermStyle.Proofs.ConsoleReport
import TermStyle.Proofs.RunFrame
import TermStyle.Proofs.ConsoleAloof
import TermStyle.Proofs.FreshSettings
import TermStyle.Proofs.VersionBanner
import TermStyle.Proofs.VersionQuery
import TermStyle.Proofs.Diagnostics
import TermStyle.Proofs.FilledText
import TermStyle.Proofs.ColoredHelp
import TermStyle.Proofs.CommandPlace
import TermStyle.Proofs.TeamcityVersion
