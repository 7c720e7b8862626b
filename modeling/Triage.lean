import Triage.Cache.Archive
import Triage.Cache.Backend
import Triage.Cache.Basic
import Triage.Cache.Counters
import Triage.Cache.Envelope
import Triage.Cache.Key
import Triage.Cache.Prefetch
import Triage.Cache.Shared
import Triage.Cache.Storage
import Triage.Cache.Typed
import Triage.Calendar.Date
import Triage.Calendar.Instant
import Triage.Calendar.Timestamp
import Triage.CommandLine.Arguments
import Triage.CommandLine.Report
import Triage.CommandLine.Run
import Triage.Config.Basic
import Triage.Config.Directories
import Triage.Config.Overrides
import Triage.Config.Toml
import Triage.Deadline
import Triage.Decimal.Binary
import Triage.Decimal.Layout
import Triage.Decimal.Reading
import Triage.Decimal.Shortest
import Triage.Engine
import Triage.Error
import Triage.Files
import Triage.Glob
import Triage.Index
import Triage.Json.Basic
import Triage.Json.Canonical
import Triage.Json.Decoding
import Triage.Json.Reading
import Triage.Json.Writing
import Triage.Main
import Triage.MessagePack
import Triage.Notification
import Triage.Notification.Json
import Triage.Order.Criterion
import Triage.Order.Merge
import Triage.Order.Sorter
import Triage.Pattern.Basic
import Triage.Pattern.Bracket
import Triage.Pattern.Lexeme
import Triage.Pattern.Matcher
import Triage.Pattern.Reading
import Triage.Pipeline
import Triage.Pool
import Triage.Proofs.Cache.Change
import Triage.Proofs.Cache.Confined
import Triage.Proofs.Cache.Envelope
import Triage.Proofs.Cache.Expiry
import Triage.Proofs.Cache.Found
import Triage.Proofs.Cache.Key
import Triage.Proofs.Cache.Neighbours
import Triage.Proofs.Cache.Place
import Triage.Proofs.Cache.Reference
import Triage.Proofs.Cache.Rows
import Triage.Proofs.Cache.Session
import Triage.Proofs.Cache.Shared
import Triage.Proofs.Cache.Storage
import Triage.Proofs.Cache.Typed
import Triage.Proofs.Calendar.Date
import Triage.Proofs.Calendar.Timestamp
import Triage.Proofs.Config.Overrides
import Triage.Proofs.Config.Saving
import Triage.Proofs.Config.Settings
import Triage.Proofs.Config.Text
import Triage.Proofs.Deadline
import Triage.Proofs.Decimal.Digits
import Triage.Proofs.Decimal.Shortest
import Triage.Proofs.Engine
import Triage.Proofs.Except
import Triage.Proofs.Files
import Triage.Proofs.Index
import Triage.Proofs.Inevitable
import Triage.Proofs.Inline
import Triage.Proofs.Json.Numbers
import Triage.Proofs.Json.Pretty
import Triage.Proofs.Json.Records
import Triage.Proofs.Json.Strings
import Triage.Proofs.Json.Values
import Triage.Proofs.MessagePack
import Triage.Proofs.Notification
import Triage.Proofs.Order.Chain
import Triage.Proofs.Order.Criterion
import Triage.Proofs.Order.Merge
import Triage.Proofs.Order.Sorter
import Triage.Proofs.Order.Stable
import Triage.Proofs.Order.Ties
import Triage.Proofs.Pipeline.Agreement
import Triage.Proofs.Pipeline.Cached
import Triage.Proofs.Pipeline.Calls
import Triage.Proofs.Pipeline.Fetching
import Triage.Proofs.Pipeline.Kept
import Triage.Proofs.Pipeline.Key
import Triage.Proofs.Pipeline.Run
import Triage.Proofs.Pipeline.Schedules
import Triage.Proofs.Pipeline.Shared
import Triage.Proofs.Pool.Account
import Triage.Proofs.Pool.Return
import Triage.Proofs.Pool.Schedule
import Triage.Proofs.Pool.Step
import Triage.Proofs.Query.Ages
import Triage.Proofs.Query.Balance
import Triage.Proofs.Query.Bucket
import Triage.Proofs.Query.Complete
import Triage.Proofs.Query.Conditions
import Triage.Proofs.Query.Description
import Triage.Proofs.Query.Expression
import Triage.Proofs.Query.Fallback
import Triage.Proofs.Query.Fault
import Triage.Proofs.Query.Formula
import Triage.Proofs.Query.Grammar
import Triage.Proofs.Query.Grouping
import Triage.Proofs.Query.Later
import Triage.Proofs.Query.Meaning
import Triage.Proofs.Query.NormalForm
import Triage.Proofs.Query.Parentheses
import Triage.Proofs.Query.Passage
import Triage.Proofs.Query.Positions
import Triage.Proofs.Query.Quoting
import Triage.Proofs.Query.Reference
import Triage.Proofs.Query.Replacement
import Triage.Proofs.Query.Resolution
import Triage.Proofs.Query.Sound
import Triage.Proofs.Query.Timeless
import Triage.Proofs.SavedFilters
import Triage.Proofs.SavedFilters.Commands
import Triage.Proofs.SavedFilters.Text
import Triage.Proofs.Score
import Triage.Proofs.Scorer
import Triage.Proofs.Scorer.Collection
import Triage.Proofs.Scorer.Updated
import Triage.Proofs.SortedMap
import Triage.Proofs.Source
import Triage.Proofs.Text
import Triage.Proofs.Toml.Bounds
import Triage.Proofs.Toml.Document
import Triage.Proofs.Toml.Lines
import Triage.Proofs.Toml.Strings
import Triage.Proofs.Toml.Values
import Triage.Proofs.WithCache
import Triage.Query.Expression
import Triage.Query.Filter
import Triage.Query.Formula
import Triage.Query.Predicate
import Triage.Query.Term
import Triage.Query.Token
import Triage.SavedFilters
import Triage.Score.Basic
import Triage.Score.Factors
import Triage.Score.Json
import Triage.Scorer
import Triage.SortedMap
import Triage.Source
import Triage.Text.Ascii
import Triage.Text.Blank
import Triage.Text.Category
import Triage.Text.Category.Table
import Triage.Text.CharSet
import Triage.Text.Folding
import Triage.Text.Folding.Table
import Triage.Text.Lowercase
import Triage.Text.Lowercase.Table
import Triage.Text.Property
import Triage.Text.Property.Table
import Triage.Text.Quoted
import Triage.Text.Runs
import Triage.Text.Script
import Triage.Text.Script.Table
import Triage.Text.Shift
import Triage.Text.Split
import Triage.Toml.Basic
import Triage.Toml.Document
import Triage.Toml.Numbers
import Triage.Toml.Reading
import Triage.Toml.Strings
import Triage.Toml.Writing
import Triage.Proofs.Cache.Sweep
import Triage.Cache.Prefetching
import Triage.Proofs.Cache.Prefetching.Step
import Triage.Proofs.Cache.Purge
import Triage.Proofs.Cache.Prefetching.Account
import Triage.Proofs.Cache.Prefetching.Schedule
import Triage.Proofs.CommandLine.Ranking
import Triage.Proofs.Score.Weights
import Triage.Proofs.Query.Fragments
import Triage.Proofs.Query.Search
