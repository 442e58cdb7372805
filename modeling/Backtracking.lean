import Backtracking.Cache
import Backtracking.Chars.AsciiSet
import Backtracking.Chars.Escape
import Backtracking.Chars.Listing
import Backtracking.Chars.Matcher
import Backtracking.Chars.Range
import Backtracking.Chars.Set
import Backtracking.Delimited
import Backtracking.Error
import Backtracking.Flags
import Backtracking.Limits
import Backtracking.Main
import Backtracking.Pattern.Basic
import Backtracking.Pattern.Bracket
import Backtracking.Pattern.Cursor
import Backtracking.Pattern.Escape
import Backtracking.Pattern.Hints
import Backtracking.Pattern.NamedClass
import Backtracking.Pattern.Reader
import Backtracking.Pattern.Width
import Backtracking.Program.Basic
import Backtracking.Program.Listing
import Backtracking.Program.OfPattern
import Backtracking.Proofs.Acceptance
import Backtracking.Proofs.BracketedEscapes
import Backtracking.Proofs.BuiltPatterns
import Backtracking.Proofs.CacheHistories
import Backtracking.Proofs.CaseForms
import Backtracking.Proofs.CaselessSets
import Backtracking.Proofs.CaselessShorthands
import Backtracking.Proofs.CaselessTexts
import Backtracking.Proofs.CharLoops
import Backtracking.Proofs.CharRuns
import Backtracking.Proofs.ClassItems
import Backtracking.Proofs.ClassReading
import Backtracking.Proofs.Compilation
import Backtracking.Proofs.Completions
import Backtracking.Proofs.DelimitedTexts
import Backtracking.Proofs.Emission
import Backtracking.Proofs.EnsembleAttempts
import Backtracking.Proofs.EnsembleNodes
import Backtracking.Proofs.Ensembles
import Backtracking.Proofs.EscapedTexts
import Backtracking.Proofs.ExtendedTexts
import Backtracking.Proofs.FailedCalls
import Backtracking.Proofs.FirstOutcome
import Backtracking.Proofs.ForgottenHistories
import Backtracking.Proofs.FullRollback
import Backtracking.Proofs.GroupDepths
import Backtracking.Proofs.GroupNumbers
import Backtracking.Proofs.HintSoundness
import Backtracking.Proofs.HintedSearch
import Backtracking.Proofs.Layout
import Backtracking.Proofs.LeadingOptions
import Backtracking.Proofs.LimitRelaxation
import Backtracking.Proofs.LimitedSearches
import Backtracking.Proofs.LoopSimulation
import Backtracking.Proofs.MeasuredRuns
import Backtracking.Proofs.MovedReadings
import Backtracking.Proofs.NestedCalls
import Backtracking.Proofs.NestedPatterns
import Backtracking.Proofs.NodeSimulation
import Backtracking.Proofs.NormalRanges
import Backtracking.Proofs.OutcomeBounds
import Backtracking.Proofs.Outcomes
import Backtracking.Proofs.ParsedTexts
import Backtracking.Proofs.Passages
import Backtracking.Proofs.PatternHeights
import Backtracking.Proofs.PatternSimulation
import Backtracking.Proofs.PatternTree
import Backtracking.Proofs.PlainReading
import Backtracking.Proofs.PositionSums
import Backtracking.Proofs.PossessiveRepetition
import Backtracking.Proofs.PossiblePassages
import Backtracking.Proofs.ProgramSizes
import Backtracking.Proofs.QuotedTexts
import Backtracking.Proofs.RangeLists
import Backtracking.Proofs.ReachableStates
import Backtracking.Proofs.Realization
import Backtracking.Proofs.RegisterUpdates
import Backtracking.Proofs.Rendering
import Backtracking.Proofs.RepeatedSearches
import Backtracking.Proofs.Reports
import Backtracking.Proofs.Running
import Backtracking.Proofs.Scopes
import Backtracking.Proofs.SealedSimulation
import Backtracking.Proofs.SearchTermination
import Backtracking.Proofs.StateInvariant
import Backtracking.Proofs.Success
import Backtracking.Proofs.SuccessiveSearches
import Backtracking.Proofs.UnorderedMeaning
import Backtracking.Proofs.WatchedSearches
import Backtracking.Proofs.Watching
import Backtracking.Proofs.Widths
import Backtracking.Regexp
import Backtracking.Search.Attempt
import Backtracking.Search.Candidate
import Backtracking.Search.Conditions
import Backtracking.Search.MatchState
import Backtracking.Search.Registers
import Backtracking.Search.Sequence
import Backtracking.Subject
import Backtracking.Text.Digits
import Backtracking.Text.Lines
import Backtracking.Text.Utf8
import Backtracking.Toml.Document
import Backtracking.Toml.Quoted
import Backtracking.Toml.Scalar
import Backtracking.Toml.Value
import Backtracking.Tool.FileTree
import Backtracking.Tool.Outcome
import Backtracking.Tool.Report
import Backtracking.Tool.Request
import Backtracking.Tool.Run
import Backtracking.Tool.Settings
import Backtracking.Unicode.Additions
import Backtracking.Unicode.Age
import Backtracking.Unicode.BinaryProperty
import Backtracking.Unicode.CaseMapping
import Backtracking.Unicode.CharacterClasses
import Backtracking.Unicode.GeneralCategory
import Backtracking.Unicode.PropertyName
import Backtracking.Unicode.RangeText
import Backtracking.Unicode.Script
import Backtracking.Unicode.TextBoundary
