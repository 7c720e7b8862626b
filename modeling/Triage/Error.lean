/-
What can go wrong, and how it is said.

Every failure is a value that names its cause. The wording of a cause is given once, here; where a
text from outside is named in a message, it is shown as it is or in quotes.
-/
import Triage.Decimal.Layout
import Triage.Glob
import Triage.Pattern.Basic
import Triage.Text.Quoted
namespace Triage

open Triage.Text

/-- Why a part of a query is refused. -/
inductive QueryFault
  | unterminatedQuote
  | emptyParentheses
  | nothingBeforeClose
  | unbalancedParentheses
  | missingLeftOperand
  | endsWithoutOperand
  | missingOperand
  | emptyExpression
  | danglingOperands
  | emptyTerm
  | missingValue
  | missingFilterName
  | unknownStatus
  | invalidScore
  | durationOutOfRange
  | unknownTime
  | glob (fault : Glob.Fault)
  | pattern (fault : Pattern.Fault)
  deriving Repr, DecidableEq

/-- The wording of a fault in a query. -/
def QueryFault.message : QueryFault → String
  | unterminatedQuote => "unterminated quote"
  | emptyParentheses => "empty parentheses"
  | nothingBeforeClose => "expected an operand before ')'"
  | unbalancedParentheses => "unbalanced parentheses"
  | missingLeftOperand => "missing left operand"
  | endsWithoutOperand => "expression ends without an operand"
  | missingOperand => "missing operand"
  | emptyExpression => "empty expression"
  | danglingOperands => "dangling operands"
  | emptyTerm => "empty search term"
  | missingValue => "missing value"
  | missingFilterName => "missing filter name"
  | unknownStatus => "expected read or unread"
  | invalidScore => "score must be a whole number from 0 to 100"
  | durationOutOfRange => "duration out of range"
  | unknownTime => "expected >Nh, <Nd, Nw, an RFC 3339 timestamp or YYYY-MM-DD"
  | glob fault => "bad glob: " ++ fault.message
  | pattern fault => "bad regex: " ++ fault.message

/-- Why the name of a saved filter leads nowhere. -/
inductive ReferenceFault
  | noStore (name : String)
  | unknown (name : String)
  /-- The chain holds the names through which the filter was reached, the first one first. -/
  | cycle (name : String) (chain : List String)
  deriving Repr, DecidableEq

/-- The wording of a broken reference. -/
def ReferenceFault.message : ReferenceFault → String
  | noStore name => "no filter store to resolve @" ++ name
  | unknown name => "no saved filter named @" ++ name
  | cycle name chain =>
    "@" ++ name ++ " refers to itself via " ++
      String.intercalate " -> " (chain.map ("@" ++ ·))

/-- Why a file cannot be used. -/
inductive FileFault
  | notFound
  | alreadyExists
  | notDirectory
  | isDirectory
  deriving Repr, DecidableEq

/-- The wording of a fault with a file, with its number. -/
def FileFault.message : FileFault → String
  | notFound => "No such file or directory (os error 2)"
  | alreadyExists => "File exists (os error 17)"
  | notDirectory => "Not a directory (os error 20)"
  | isDirectory => "Is a directory (os error 21)"

/-- Why a cache cannot be opened. -/
inductive CacheFault
  | unknownBackend (name : String)
  | emptyQueue
  | invalidBucket (name : String)
  /-- The store does not take a table of this name. -/
  | refusedTable (name : String)
  | file (fault : FileFault)
  deriving Repr, DecidableEq

/-- The wording of a fault with a cache. -/
def CacheFault.message : CacheFault → String
  | unknownBackend name => "Unknown cache backend: " ++ name
  | emptyQueue => "Invalid cache configuration: prefetch_queue_size must be positive"
  | invalidBucket name =>
    "Invalid cache configuration: bucket name " ++ quote name ++
      " must be 1-64 ASCII letters, digits or underscores"
  | refusedTable name =>
    "SQLite error: object name reserved for internal use: " ++ name
  | file fault => "IO error: " ++ fault.message

/-- Why a setting or a file of settings is refused. -/
inductive ConfigFault
  | unknownKey (key : String)
  | missingRepository (key : String)
  | notPositiveInteger (key value : String)
  | notPositiveNumber (key : String) (value : Int)
  | notNumber (key value : String)
  | notBoolean (key value : String)
  | notPositive (name : String)
  | unknownWeight (name : String)
  | infiniteWeight (name : String) (value : Float)
  | invalidWeight (name : String)
  | invalidRepositoryWeight (repository : String)
  | unknownSortField (name : String)
  | unknownSortDirection (criterion direction : String)
  | invalidFilterName (name : String)
  | backend (key : String) (fault : CacheFault)
  | cache (fault : CacheFault)
  | unreadableSettings
  | unreadableStore
  | noConfigDirectory
  | noDataDirectory
  deriving Repr

/-- The wording of a fault in the settings. -/
def ConfigFault.message : ConfigFault → String
  | unknownKey key => "unknown configuration key: " ++ key
  | missingRepository key => key ++ ": missing repository name"
  | notPositiveInteger key value =>
    key ++ " must be a positive integer, got " ++ quote value
  | notPositiveNumber key value => key ++ " must be positive, got " ++ toString value
  | notNumber key value => key ++ " must be a number, got " ++ quote value
  | notBoolean key value => key ++ " must be true or false, got " ++ quote value
  | notPositive name => name ++ " must be positive"
  | unknownWeight name => "unknown score weight: " ++ name
  | infiniteWeight name value =>
    "weight " ++ name ++ " must be a finite number, got " ++ Decimal.plain value
  | invalidWeight name => "weight " ++ name ++ " must be a finite number"
  | invalidRepositoryWeight repository =>
    "custom weight for " ++ repository ++ " must be a finite number"
  | unknownSortField name => "unknown sort field: " ++ name
  | unknownSortDirection criterion direction =>
    "unknown sort direction in " ++ quote criterion ++ ": " ++ direction
  | invalidFilterName name =>
    "filter name " ++ quote name ++ " may only use letters, digits, '-' and '_'"
  | backend key fault => key ++ ": " ++ fault.message
  | cache fault => fault.message
  | unreadableSettings => "Failed to parse config: not a valid settings file"
  | unreadableStore => "Failed to parse filter store: not a valid filter store"
  | noConfigDirectory => "Could not find config directory"
  | noDataDirectory => "Could not find data directory"

/-- Why no notifications could be had. -/
inductive SourceFault
  | file (fault : FileFault)
  | undecodable
  deriving Repr, DecidableEq

/-- The wording of a fault with a source. -/
def SourceFault.message : SourceFault → String
  | file fault => "IO error: " ++ fault.message
  | undecodable => "Failed to decode notifications: not a list of notifications"

/-- Everything that can go wrong. -/
inductive Error
  | query (fragment : String) (fault : QueryFault)
  | reference (fault : ReferenceFault)
  | deadline (processed total : Nat)
  | config (fault : ConfigFault)
  | source (fault : SourceFault)
  | cache (fault : CacheFault)
  | file (fault : FileFault)
  deriving Repr

/-- The wording of an error. -/
def Error.message : Error → String
  | query fragment fault => "Invalid filter near '" ++ fragment ++ "': " ++ fault.message
  | reference fault => "Filter reference failed: " ++ fault.message
  | deadline processed total =>
    "Deadline exceeded after processing " ++ toString processed ++ " of " ++ toString total ++
      " notifications"
  | config fault => "Configuration error: " ++ fault.message
  | source fault => "Notification source error: " ++ fault.message
  | cache fault => "Cache storage error: " ++ fault.message
  | file fault => "IO error: " ++ fault.message

end Triage
