/-
Sorting notifications.

A sorter orders notifications by a chain of criteria and keeps the order of those that the chain
finds equal. Large lists may be cut into batches that are sorted one by one and then merged; the
result is the same.
-/
import Triage.Order.Criterion
import Triage.Order.Merge
namespace Triage

open Triage.Order

/-- How notifications are sorted: by which criteria, whether large lists are sorted in batches, and
the size of a batch. -/
structure Sorter where
  criteria : List SortCriterion
  parallel : Bool := true
  batchSize : Nat := 1000
  deriving Repr, DecidableEq

namespace Sorter

/-- Newest first. -/
def newestFirst : Sorter := { criteria := [⟨.time, .descending⟩] }

/-- The sorter with another size of batches, which is at least one. -/
def withBatchSize (s : Sorter) (size : Nat) : Sorter := { s with batchSize := max size 1 }

/-- Compares two notifications. -/
def compare (s : Sorter) (a b : Notification) : Ordering := compareBy s.criteria a b

/-- Sorts a list as a whole. -/
def sortWhole (s : Sorter) (list : List Notification) : List Notification :=
  list.mergeSort fun a b => (s.compare a b).isLE

/-- Sorts a list in batches. -/
def sortInBatches (s : Sorter) (list : List Notification) : List Notification :=
  merge s.compare ((batches s.batchSize list).map s.sortWhole)

/-- Sorts a list. It is left alone if there is nothing to order, or nothing to order it by. -/
def sort (s : Sorter) (list : List Notification) : List Notification :=
  if list.length ≤ 1 || s.criteria.isEmpty then list
  else if s.parallel && s.batchSize ≤ list.length then s.sortInBatches list
  else s.sortWhole list

end Sorter
end Triage
