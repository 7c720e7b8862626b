/-
An index over a list of notifications.

Each notification is put into four buckets: of its repository, of the owner, of the kind of its
subject, and of its read state. A bucket holds positions in the list, in ascending order. Names do
not depend on ASCII case.
-/
import Triage.Query.Predicate
namespace Triage

open Triage.Text

/-- The buckets that a notification belongs to. -/
def Notification.keys (n : Notification) : List IndexKey :=
  [.repository (asciiLower n.repo), .organization (asciiLower n.owner),
   .type (asciiLower n.typeName), .unread n.unread]

/-- Positions by bucket. -/
structure Index where
  buckets : List (IndexKey × List Nat)

namespace Index

/-- The index of no notifications. -/
def empty : Index := ⟨[]⟩

/-- The positions in a bucket. -/
def lookup (index : Index) (key : IndexKey) : List Nat := (index.buckets.lookup key).getD []

/-- Puts a position in front of those of a bucket. -/
def push (index : Index) (key : IndexKey) (position : Nat) : Index :=
  ⟨(key, position :: index.lookup key) :: index.buckets.filter fun b => b.1 != key⟩

/-- The index of notifications whose positions start from a number. -/
def build (start : Nat) : List Notification → Index
  | [] => empty
  | n :: rest => n.keys.foldl (fun index key => index.push key start) (build (start + 1) rest)

/-- The index of a list. -/
def ofList (list : List Notification) : Index := build 0 list

end Index
end Triage
