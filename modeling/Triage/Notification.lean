/-
Notifications.

A notification tells that something happened to a subject in a repository: what kind of thing the
subject is, why the reader was notified, when it last changed and whether it was read. Kinds of
subject that are not known by name keep their spelling, so that queries can still ask for them.
-/
import Triage.Calendar.Instant
import Triage.Text.Ascii
namespace Triage

open Triage.Calendar Triage.Text

/-- The kind of thing that a notification is about. -/
inductive SubjectType
  | pullRequest
  | issue
  | discussion
  | release
  | commit
  | checkSuite
  | other (name : String)
  deriving Repr, DecidableEq

namespace SubjectType

/-- How the kind is written. -/
def name : SubjectType → String
  | pullRequest => "PullRequest"
  | issue => "Issue"
  | discussion => "Discussion"
  | release => "Release"
  | commit => "Commit"
  | checkSuite => "CheckSuite"
  | other name => name

/-- Reads a kind in any of its usual spellings: case, hyphens and underscores do not matter. -/
def ofText (text : String) : SubjectType :=
  let spelling := String.ofList
    ((text.toList.map Char.toLower).filter fun c => c != '_' && c != '-')
  if spelling == "pullrequest" || spelling == "pr" then pullRequest
  else if spelling == "issue" then issue
  else if spelling == "discussion" then discussion
  else if spelling == "release" then release
  else if spelling == "commit" then commit
  else if spelling == "checksuite" then checkSuite
  else other text

/-- Whether the kind is known by name. -/
def isKnown : SubjectType → Bool
  | other _ => false
  | _ => true

end SubjectType

/-- Why the reader was notified. -/
inductive Reason
  | assign
  | author
  | comment
  | invitation
  | manual
  | mention
  | reviewRequested
  | securityAlert
  | stateChange
  | subscribed
  | teamMention
  | other
  deriving Repr, DecidableEq

namespace Reason

/-- How the reason is written in records and queries. -/
def name : Reason → String
  | assign => "assign"
  | author => "author"
  | comment => "comment"
  | invitation => "invitation"
  | manual => "manual"
  | mention => "mention"
  | reviewRequested => "review_requested"
  | securityAlert => "security_alert"
  | stateChange => "state_change"
  | subscribed => "subscribed"
  | teamMention => "team_mention"
  | other => "other"

/-- How the reason is shown to a reader. -/
def title : Reason → String
  | assign => "Assigned"
  | author => "Author"
  | comment => "Comment"
  | invitation => "Invitation"
  | manual => "Manual"
  | mention => "Mention"
  | reviewRequested => "Review"
  | securityAlert => "Security"
  | stateChange => "State Change"
  | subscribed => "Subscribed"
  | teamMention => "Team Mention"
  | other => "Other"

/-- All reasons. -/
def all : List Reason :=
  [assign, author, comment, invitation, manual, mention, reviewRequested, securityAlert,
   stateChange, subscribed, teamMention, other]

/-- The reason with this name; a name that none has stands for some other reason. -/
def ofName (name : String) : Reason := (all.find? (·.name == name)).getD other

end Reason

/-- The repository that a notification belongs to. -/
structure Repository where
  id : UInt64
  name : String
  fullName : String
  owner : String
  isPrivate : Bool
  htmlUrl : String
  deriving Repr, DecidableEq

/-- What a notification is about. -/
structure Subject where
  title : String
  type : SubjectType
  url : Option String
  latestCommentUrl : Option String
  deriving Repr, DecidableEq

/-- One notification. -/
structure Notification where
  id : String
  repository : Repository
  subject : Subject
  reason : Reason
  unread : Bool
  updatedAt : Instant
  lastReadAt : Option Instant
  url : String
  deriving Repr, DecidableEq

namespace Notification

/-- Builds a notification from what queries look at. The full name of a repository is that of its
owner, a slash, and its own name; without a slash there is no owner. -/
def build (id fullName : String) (type : SubjectType) (title : String) (reason : Reason)
    (unread : Bool) (updatedAt : Instant) : Notification :=
  let cs := fullName.toList
  let (owner, name) :=
    if cs.contains '/' then (cs.takeWhile (· != '/'), (cs.dropWhile (· != '/')).drop 1)
    else ([], cs)
  { id, reason, unread, updatedAt
    repository :=
      { id := 0, name := String.ofList name, fullName, owner := String.ofList owner
        isPrivate := false, htmlUrl := "https://github.com/" ++ fullName }
    subject := { title, type, url := none, latestCommentUrl := none }
    lastReadAt := none
    url := "" }

/-- The full name of the repository. -/
def repo (n : Notification) : String := n.repository.fullName

/-- The login of the repository's owner. -/
def owner (n : Notification) : String := n.repository.owner

/-- The title of the subject. -/
def title (n : Notification) : String := n.subject.title

/-- The name of the subject's kind. -/
def typeName (n : Notification) : String := n.subject.type.name

end Notification
end Triage
