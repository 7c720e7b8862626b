/-
What the program prints.

Results are listed a notification or a saved filter to a line, in columns. A failure is told on one
line; what lies behind it follows, the nearest cause first, with numbers if there is more than one.
-/
import Triage.Calendar.Timestamp
import Triage.Error
import Triage.Query.Predicate
import Triage.SavedFilters
import Triage.Text.Quoted
import Triage.Text.Split
namespace Triage.CommandLine

open Triage.Text

/-! ### Failures -/

/-- Why a command fails. -/
inductive Failure
  | malformedOverride (text : String)
  | noSuchFilter (name : String)
  | cache (fault : CacheFault)
  | unreadInput (path : String) (fault : SourceFault)
  | error (error : Error)
  deriving Repr

/-- What lies behind a fault with a cache. -/
def cacheCauses : CacheFault → List String
  | .file fault => [fault.message]
  | .refusedTable name =>
    ["object name reserved for internal use: " ++ name, "Error code 1: SQL logic error"]
  | _ => []

/-- What lies behind a fault with a source. -/
def sourceCauses : SourceFault → List String
  | .file fault => [fault.message]
  | .undecodable => ["not a list of notifications"]

/-- What lies behind an error. -/
def errorCauses : Error → List String
  | .source fault => fault.message :: sourceCauses fault
  | .cache fault => fault.message :: cacheCauses fault
  | .file fault => [fault.message]
  | _ => []

namespace Failure

/-- The line that tells a failure. -/
def message : Failure → String
  | malformedOverride text => "--set expects KEY=VALUE, got " ++ quote text
  | noSuchFilter name => "No saved filter named @" ++ name
  | cache fault => fault.message
  | unreadInput path _ => "Failed to read " ++ path
  | error e => e.message

/-- What lies behind a failure, the nearest cause first. -/
def causes : Failure → List String
  | malformedOverride _ => []
  | noSuchFilter _ => []
  | cache fault => cacheCauses fault
  | unreadInput _ fault => fault.message :: sourceCauses fault
  | error e => errorCauses e

/-- The lines for causes. -/
def causeLines : List String → List String
  | [] => []
  | [cause] => ["", "Caused by:", "    " ++ cause]
  | causes =>
    "" :: "Caused by:" ::
      causes.zipIdx.map fun (cause, i) => padStart 5 (toString i) ++ ": " ++ cause

/-- All that is printed for a failure. -/
def report (f : Failure) : String :=
  String.join ((("Error: " ++ f.message) :: causeLines f.causes).map (· ++ "\n"))

end Failure

/-! ### Results -/

/-- A notification, with its score if it was asked for. -/
def notificationLine (score : Option UInt8) (n : Notification) : String :=
  let total := match score with
    | some total => padStart 3 (toString total.toNat) ++ " "
    | none => ""
  total ++ (if n.unread then "●" else " ") ++ " " ++ padEnd 30 n.repo ++ " " ++
    padEnd 12 n.subject.type.name ++ " " ++ n.subject.title ++ " (" ++ n.updatedAt.toMinuteText ++ ")\n"

/-- A saved filter, with its description if it has one. -/
def savedFilterLine (name : String) (f : SavedFilter) : String :=
  let line := "@" ++ padEnd 16 name ++ " " ++ f.expression
  match f.description with
  | some description => line ++ "  # " ++ description ++ "\n"
  | none => line ++ "\n"

/-- The name of an index with the key to look up. -/
def indexText : IndexKey → String
  | .repository name => "Repository(" ++ quote name ++ ")"
  | .organization name => "Organization(" ++ quote name ++ ")"
  | .type name => "Type(" ++ quote name ++ ")"
  | .unread true => "Unread(true)"
  | .unread false => "Unread(false)"

/-! ### Usage -/

/-- The name and version of the program. -/
def versionText : String := "notifscout 0.1.0\n"

/-- How the program is used. -/
def usageText : String :=
  "Filter, rank and sort GitHub notifications

Usage: notifscout [--config FILE] [--set KEY=VALUE]... [COMMAND]

Commands:
  filter -i FILE [QUERY] [-s CRITERION]... [--unread]
  score -i FILE [-n COUNT]
  explain QUERY
  filters list
  filters save NAME EXPRESSION [-d DESCRIPTION]
  filters remove NAME
  config
"

end Triage.CommandLine
