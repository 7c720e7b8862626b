/-
Sources of notifications.

Notifications come from a file that holds them as JSON, or from a list that is at hand. What is
fetched may be limited beforehand to unread notifications, to one repository, or to those in which
the reader takes part.
-/
import Triage.Error
import Triage.Notification.Json
namespace Triage

open Triage.Text

/-- What is fetched from a source. -/
structure FetchParameters where
  unreadOnly : Bool := false
  repository : Option String := none
  participating : Bool := false
  deriving Repr, DecidableEq

/-- Whether a notification is fetched. -/
def FetchParameters.accepts (p : FetchParameters) (n : Notification) : Bool :=
  (!p.unreadOnly || n.unread) && p.repository.all (eqIgnoreCase n.repo ·) &&
    !(p.participating && n.reason == .subscribed)

/-- Where notifications come from. -/
inductive Source
  | list (notifications : List Notification)
  /-- A file with its text, unless it cannot be read. -/
  | file (text : Except FileFault String)

namespace Source

/-- All notifications of a source. -/
def all : Source → Except SourceFault (List Notification)
  | list notifications => .ok notifications
  | file (.error fault) => .error (.file fault)
  | file (.ok text) =>
    match Notification.readList? text with
    | some notifications => .ok notifications
    | none => .error .undecodable

/-- The notifications that are fetched from a source. -/
def fetch (source : Source) (p : FetchParameters) : Except SourceFault (List Notification) := do
  return (← source.all).filter p.accepts

end Source
end Triage
