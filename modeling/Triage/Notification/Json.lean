/-
Notifications as JSON.

A notification is written with all its fields in a fixed order. When it is read, the fields that
queries need must be there, the others have defaults; reasons that are not known stand for some
other reason, and kinds of subject are read in any of their spellings.
-/
import Triage.Calendar.Timestamp
import Triage.Json.Decoding
import Triage.Json.Writing
import Triage.Json.Reading
import Triage.Notification
namespace Triage

open Triage.Calendar

/-- A timestamp in universal time. -/
def Calendar.Instant.toJson (t : Instant) : Json := .str t.toZuluText

/-- Reads a timestamp in the lenient form. -/
def Calendar.Instant.ofJson (json : Json) : Option Instant := json.asString.bind readLenient?

/-- Reads a reason by its name. -/
def Reason.ofJson (json : Json) : Option Reason := json.asChoice.map Reason.ofName

namespace Notification

/-- The JSON of a repository. -/
def repositoryToJson (r : Repository) : Json :=
  .obj [("id", .ofNat r.id.toNat), ("name", .str r.name), ("full_name", .str r.fullName),
    ("owner", .obj [("login", .str r.owner)]), ("private", .bool r.isPrivate),
    ("html_url", .str r.htmlUrl)]

/-- The JSON of a subject. -/
def subjectToJson (s : Subject) : Json :=
  .obj [("title", .str s.title), ("type", .str s.type.name), ("url", .ofOption .str s.url),
    ("latest_comment_url", .ofOption .str s.latestCommentUrl)]

/-- The JSON of a notification. -/
def toJson (n : Notification) : Json :=
  .obj [("id", .str n.id), ("repository", repositoryToJson n.repository),
    ("subject", subjectToJson n.subject), ("reason", .str n.reason.name), ("unread", .bool n.unread),
    ("updated_at", n.updatedAt.toJson), ("last_read_at", .ofOption Instant.toJson n.lastReadAt),
    ("url", .str n.url)]

/-- Reads the owner of a repository. -/
def ownerOfJson (json : Json) : Option String := do
  let r ← json.asRecord ["login"]
  r.required "login" Json.asString

/-- Reads a repository. -/
def repositoryOfJson (json : Json) : Option Repository := do
  let r ← json.asRecord ["id", "name", "full_name", "owner", "private", "html_url"]
  let id ← r.optional "id" 0 (Json.asNatBelow UInt64.size)
  let name ← r.required "name" Json.asString
  let fullName ← r.required "full_name" Json.asString
  let owner ← r.required "owner" ownerOfJson
  let isPrivate ← r.optional "private" false Json.asBool
  let htmlUrl ← r.optional "html_url" "" Json.asString
  some { id := UInt64.ofNat id, name, fullName, owner, isPrivate, htmlUrl }

/-- Reads a subject. -/
def subjectOfJson (json : Json) : Option Subject := do
  let r ← json.asRecord ["title", "type", "url", "latest_comment_url"]
  let title ← r.required "title" Json.asString
  let type ← r.required "type" Json.asString
  let url ← r.optional "url" none (Json.asOption Json.asString)
  let latestCommentUrl ← r.optional "latest_comment_url" none (Json.asOption Json.asString)
  some { title, type := SubjectType.ofText type, url, latestCommentUrl }

/-- Reads a notification. -/
def ofJson (json : Json) : Option Notification := do
  let r ← json.asRecord
    ["id", "repository", "subject", "reason", "unread", "updated_at", "last_read_at", "url"]
  let id ← r.required "id" Json.asString
  let repository ← r.required "repository" repositoryOfJson
  let subject ← r.required "subject" subjectOfJson
  let reason ← r.required "reason" Reason.ofJson
  let unread ← r.required "unread" Json.asBool
  let updatedAt ← r.required "updated_at" Instant.ofJson
  let lastReadAt ← r.optional "last_read_at" none (Json.asOption Instant.ofJson)
  let url ← r.optional "url" "" Json.asString
  some { id, repository, subject, reason, unread, updatedAt, lastReadAt, url }

/-- The JSON of several notifications. -/
def listToJson (list : List Notification) : Json := .array (list.map toJson)

/-- Reads a list of notifications. -/
def listOfJson (json : Json) : Option (List Notification) := json.asList ofJson

/-- Reads a text that holds a list of notifications. -/
def readList? (text : String) : Option (List Notification) :=
  (Json.read? text).bind listOfJson

end Notification
end Triage
