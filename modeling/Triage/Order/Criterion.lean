/-
Criteria by which notifications are ordered.

A criterion is a field and a direction, written `field`, `field:asc` or `field:desc`. Several
criteria form a chain in which each one decides where all before it find two notifications equal.
Titles and repositories are compared without regard to ASCII case; read notifications come before
unread ones.
-/
import Triage.Error
import Triage.Notification
import Triage.Text.Blank
namespace Triage

open Triage.Text

/-- A field that notifications can be ordered by. -/
inductive SortField
  | repository
  | type
  | title
  | time
  | status
  | reason
  deriving Repr, DecidableEq

/-- From least to greatest or the other way round. -/
inductive SortDirection
  | ascending
  | descending
  deriving Repr, DecidableEq

/-- One link of a chain of criteria. -/
structure SortCriterion where
  field : SortField
  direction : SortDirection
  deriving Repr, DecidableEq

namespace SortField

/-- How a field is written. -/
def name : SortField → String
  | repository => "repository"
  | type => "type"
  | title => "title"
  | time => "time"
  | status => "status"
  | reason => "reason"

/-- Reads a field by its name or its other name. -/
def ofText (text : String) : Except ConfigFault SortField :=
  let name := asciiLower (trim text)
  if name = "repository" ∨ name = "repo" then .ok repository
  else if name = "type" then .ok type
  else if name = "title" then .ok title
  else if name = "time" ∨ name = "updated" then .ok time
  else if name = "status" then .ok status
  else if name = "reason" then .ok reason
  else .error (.unknownSortField name)

/-- Compares two notifications by a field. -/
def compare (field : SortField) (a b : Notification) : Ordering :=
  match field with
  | repository => Ord.compare (asciiLower a.repo) (asciiLower b.repo)
  | type => Ord.compare a.typeName b.typeName
  | title => Ord.compare (asciiLower a.title) (asciiLower b.title)
  | time => a.updatedAt.compare b.updatedAt
  | status => Ord.compare a.unread b.unread
  | reason => Ord.compare a.reason.name b.reason.name

end SortField

namespace SortDirection

/-- How a direction is written. -/
def name : SortDirection → String
  | ascending => "asc"
  | descending => "desc"

/-- The direction with this name. -/
def ofText? (text : String) : Option SortDirection :=
  let name := asciiLower (trim text)
  if name = "asc" ∨ name = "ascending" then some ascending
  else if name = "desc" ∨ name = "descending" then some descending
  else none

/-- The order of two things in a direction, given their order from least to greatest. -/
def apply : SortDirection → Ordering → Ordering
  | ascending, order => order
  | descending, order => order.swap

end SortDirection

namespace SortCriterion

/-- Reads a criterion. The direction comes after the first colon and is looked at first. -/
def ofText (text : String) : Except ConfigFault SortCriterion := do
  let cs := text.toList
  let fieldText := String.ofList (cs.takeWhile (· != ':'))
  let directionText :=
    match cs.dropWhile (· != ':') with
    | _ :: rest => String.ofList rest
    | [] => "asc"
  match SortDirection.ofText? directionText with
  | none => .error (.unknownSortDirection text (asciiLower (trim directionText)))
  | some direction => return { field := ← SortField.ofText fieldText, direction }

/-- The criterion as text. -/
def describe (c : SortCriterion) : String := c.field.name ++ ":" ++ c.direction.name

/-- Compares two notifications by a criterion. -/
def compare (c : SortCriterion) (a b : Notification) : Ordering :=
  c.direction.apply (c.field.compare a b)

end SortCriterion

/-- Compares two notifications by a chain of criteria. -/
def compareBy : List SortCriterion → Notification → Notification → Ordering
  | [], _, _ => .eq
  | c :: rest, a, b => (c.compare a b).then (compareBy rest a b)

end Triage
