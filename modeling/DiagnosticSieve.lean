import DiagnosticSieve.Settings
import DiagnosticSieve.CommandLine
import DiagnosticSieve.Compiler
import DiagnosticSieve.Compiler.Program
import DiagnosticSieve.Decimal.Shortest
import DiagnosticSieve.Diagnostic
import DiagnosticSieve.FileTree
import DiagnosticSieve.Invocation
import DiagnosticSieve.Json.Fault
import DiagnosticSieve.Json.Number
import DiagnosticSieve.Json.Numeral
import DiagnosticSieve.Json.Scalar
import DiagnosticSieve.Json.Scan
import DiagnosticSieve.Json.Skip
import DiagnosticSieve.Json.Text
import DiagnosticSieve.Json.Tuple
import DiagnosticSieve.Json.Typed
import DiagnosticSieve.Library.Printer
import DiagnosticSieve.Kind
import DiagnosticSieve.KindSet
import DiagnosticSieve.Library
import DiagnosticSieve.Library.Loading
import DiagnosticSieve.Library.Parser
import DiagnosticSieve.Log
import DiagnosticSieve.Main
import DiagnosticSieve.ModuleName
import DiagnosticSieve.Outcome
import DiagnosticSieve.Path
import DiagnosticSieve.Policy
import DiagnosticSieve.Policy.Ownership
import DiagnosticSieve.Proofs.AttemptResults
import DiagnosticSieve.Proofs.ClosureConsistency
import DiagnosticSieve.Proofs.CodeResolution
import DiagnosticSieve.Proofs.LibraryOrder
import DiagnosticSieve.Proofs.OwnerTables
import DiagnosticSieve.Proofs.PolicyVerdicts
import DiagnosticSieve.Proofs.RunOrder
import DiagnosticSieve.Proofs.RunStages
import DiagnosticSieve.Proofs.RunVerdict
import DiagnosticSieve.Proofs.SessionEvents
import DiagnosticSieve.Proofs.SieveReports
import DiagnosticSieve.Rendering
import DiagnosticSieve.Run
import DiagnosticSieve.Session
import DiagnosticSieve.Sieve
import DiagnosticSieve.SuppressionCode
import DiagnosticSieve.Text.Basic
import DiagnosticSieve.Text.Digit
import DiagnosticSieve.Text.Printable
import DiagnosticSieve.Text.Utf8
import DiagnosticSieve.Transcript
import DiagnosticSieve.Transcript.Header
import DiagnosticSieve.Proofs.SieveInvariant
import DiagnosticSieve.Proofs.PolicyFaults
import DiagnosticSieve.Proofs.RunFaults
import DiagnosticSieve.Proofs.FileWrites
import DiagnosticSieve.Proofs.SessionEnds
import DiagnosticSieve.Proofs.SessionTexts
import DiagnosticSieve.Proofs.LineText
import DiagnosticSieve.Proofs.RunOutputs
import DiagnosticSieve.Proofs.HeaderGrammar
import DiagnosticSieve.Proofs.HeaderText
import DiagnosticSieve.Proofs.CapturedTranscript
import DiagnosticSieve.Proofs.CodeSpellings
import DiagnosticSieve.Proofs.PolicyLocality
import DiagnosticSieve.Proofs.HintedCodes
import DiagnosticSieve.Proofs.FlagPositions
import DiagnosticSieve.Proofs.SettingsSteps
import DiagnosticSieve.Proofs.PassThrough
import DiagnosticSieve.Proofs.ObservedFlags
import DiagnosticSieve.Proofs.PolicyLeniency
import DiagnosticSieve.Proofs.RunSifting
import DiagnosticSieve.Proofs.RunCodes
import DiagnosticSieve.Proofs.LegacyInsertion
import DiagnosticSieve.Proofs.SessionLockstep
import DiagnosticSieve.Proofs.RunPresentation
import DiagnosticSieve.Proofs.TextSpelling
import DiagnosticSieve.Proofs.ValueSpelling
import DiagnosticSieve.Proofs.SkippedValues
import DiagnosticSieve.Proofs.TypedValues
import DiagnosticSieve.Proofs.LibraryMembers
import DiagnosticSieve.Proofs.LibraryAcceptance
import DiagnosticSieve.Proofs.LibraryFiles
import DiagnosticSieve.Proofs.LibraryRoundTrip
import DiagnosticSieve.Proofs.TranscriptLines
import DiagnosticSieve.Proofs.HeaderReadings
import DiagnosticSieve.Proofs.BareDiagnostics
import DiagnosticSieve.Proofs.JoinedTranscripts
import DiagnosticSieve.Proofs.RunCaptures
import DiagnosticSieve.Proofs.FlagNames
import DiagnosticSieve.Proofs.SettingsFaults
import DiagnosticSieve.Proofs.SettingsValues
import DiagnosticSieve.Proofs.InlineValues
import DiagnosticSieve.Proofs.PathComponents
import DiagnosticSieve.Proofs.ModuleRoots
import DiagnosticSieve.Proofs.ModuleNames
import DiagnosticSieve.Proofs.CodeMeanings
import DiagnosticSieve.Proofs.OwnerEntries
import DiagnosticSieve.Proofs.FilelessDiagnostics
import DiagnosticSieve.Proofs.RunnerOptions
import DiagnosticSieve.Proofs.DeliveredArguments
import DiagnosticSieve.Proofs.ProgramSearch
import DiagnosticSieve.Proofs.TranscriptLoop
import DiagnosticSieve.Proofs.HeaderMeaning
