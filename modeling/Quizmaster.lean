import Quizmaster.Answer
import Quizmaster.App
import Quizmaster.Bank
import Quizmaster.Batch
import Quizmaster.Binary64
import Quizmaster.Binary64.Shortest
import Quizmaster.Calendar
import Quizmaster.Command
import Quizmaster.Command.Paths
import Quizmaster.Command.Shell
import Quizmaster.Command.Take
import Quizmaster.Command.Upkeep
import Quizmaster.CommandLine
import Quizmaster.Config
import Quizmaster.Disk
import Quizmaster.Disk.Changes
import Quizmaster.Environment
import Quizmaster.Grading
import Quizmaster.Grid
import Quizmaster.Instant
import Quizmaster.Item
import Quizmaster.Json.Basic
import Quizmaster.Json.Number
import Quizmaster.Json.Printer
import Quizmaster.Json.Reader
import Quizmaster.Json.Written
import Quizmaster.Kind
import Quizmaster.Library
import Quizmaster.Main
import Quizmaster.Numeral
import Quizmaster.Numeral.Extent
import Quizmaster.Path
import Quizmaster.Progress
import Quizmaster.Proofs.App.Agreement
import Quizmaster.Proofs.App.AnyOrder
import Quizmaster.Proofs.App.Durability
import Quizmaster.Proofs.App.Ledger
import Quizmaster.Proofs.App.Moves
import Quizmaster.Proofs.App.Opening
import Quizmaster.Proofs.App.Run
import Quizmaster.Proofs.App.Snapshot
import Quizmaster.Proofs.App.Starting
import Quizmaster.Proofs.Bank
import Quizmaster.Proofs.Encodings
import Quizmaster.Proofs.Json.Compact
import Quizmaster.Proofs.Json.NumeralText
import Quizmaster.Proofs.Json.QuotedText
import Quizmaster.Proofs.Json.Spelling
import Quizmaster.Proofs.Progress.Granted
import Quizmaster.Proofs.Progress.Saved
import Quizmaster.Proofs.Session.Assignment
import Quizmaster.Proofs.Session.History
import Quizmaster.Proofs.Session.Invariant
import Quizmaster.Proofs.Session.Run
import Quizmaster.Proofs.Store.Lawful
import Quizmaster.Proofs.Store.Reading
import Quizmaster.Question
import Quizmaster.Report
import Quizmaster.Result
import Quizmaster.Service
import Quizmaster.Service.Standin
import Quizmaster.Session
import Quizmaster.Shuffle
import Quizmaster.Soundness
import Quizmaster.Source
import Quizmaster.Store
import Quizmaster.Store.File
import Quizmaster.Text.Blank
import Quizmaster.Text.CaseTable
import Quizmaster.Text.Emoji
import Quizmaster.Text.Ligature
import Quizmaster.Text.Lowercase
import Quizmaster.Text.Pieces
import Quizmaster.Text.PrintTable
import Quizmaster.Text.Quoted
import Quizmaster.Text.Ranges
import Quizmaster.Text.Width
import Quizmaster.Text.WidthTable
import Quizmaster.Toml.Basic
import Quizmaster.Toml.Reader
import Quizmaster.Toml.Scalar
import Quizmaster.Toml.Text
import Quizmaster.Turn
import Quizmaster.Typed
import Quizmaster.Url
import Quizmaster.Url.Host
import Quizmaster.Uuid
import Quizmaster.Proofs.App.Reopening
import Quizmaster.Proofs.App.Drawing
import Quizmaster.Proofs.Item
import Quizmaster.Proofs.App.Results
import Quizmaster.Proofs.Grading
import Quizmaster.Proofs.Soundness
import Quizmaster.Proofs.App.Log
import Quizmaster.Proofs.Command.Course
import Quizmaster.Proofs.Command.Offline
import Quizmaster.Proofs.Command.Requests
import Quizmaster.Proofs.Command.Take
import Quizmaster.Proofs.Disk
import Quizmaster.Proofs.Json.Indented
import Quizmaster.Proofs.Service
import Quizmaster.Proofs.Store.File
import Quizmaster.Proofs.Store.Restart
import Quizmaster.Proofs.Dictionary
import Quizmaster.Proofs.Turn
import Quizmaster.Proofs.Url
import Quizmaster.Proofs.Batch
import Quizmaster.Proofs.Binary64.Rounding
import Quizmaster.Proofs.Records
import Quizmaster.Proofs.Item.Acceptance
import Quizmaster.Proofs.Binary64.Arithmetic
import Quizmaster.Proofs.Binary64.Shortest
import Quizmaster.Proofs.Json.FloatText
import Quizmaster.Proofs.Report
import Quizmaster.Proofs.Session.Refusals
import Quizmaster.Proofs.App.Refusals
import Quizmaster.Proofs.App.Resetting
import Quizmaster.Proofs.Batch.Fate
import Quizmaster.Proofs.Library
import Quizmaster.Proofs.Numeral.Extent
import Quizmaster.Proofs.Numeral.Longest
import Quizmaster.Proofs.Binary64.Overflow
import Quizmaster.Proofs.Numeral.Leading
import Quizmaster.Proofs.Grading.Spacing
import Quizmaster.Proofs.Grading.Verdict
import Quizmaster.Proofs.Numeral.LetterCase
import Quizmaster.Proofs.Binary64.Whole
import Quizmaster.Proofs.Grading.Whole
import Quizmaster.Proofs.Bank.Growth
import Quizmaster.Proofs.Turn.Lines
import Quizmaster.Proofs.Turn.Rounds
import Quizmaster.Proofs.Turn.Sitting
import Quizmaster.Proofs.Typed.Options
import Quizmaster.Proofs.Progress.Gains
import Quizmaster.Proofs.Source
import Quizmaster.Proofs.Library.Spelling
import Quizmaster.Proofs.Environment
import Quizmaster.Proofs.Bank.Views
import Quizmaster.Proofs.Environment.Passes
import Quizmaster.Proofs.Json.Fields
import Quizmaster.Proofs.Service.Answers
import Quizmaster.Proofs.Library.Tree
import Quizmaster.Proofs.Uuid
