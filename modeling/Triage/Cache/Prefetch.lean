/-
Keys to be fetched ahead.

A bounded queue takes keys while it is open and has room, and drops them otherwise. A worker takes
them out in order. Closing the queue ends the taking in and lets the worker finish what is queued.
-/
import Triage.Cache.Counters
namespace Triage.Cache

/-- A queue of keys. -/
structure PrefetchQueue where
  capacity : Nat
  keys : List String := []
  isOpen : Bool := true
  deriving Repr, DecidableEq

namespace PrefetchQueue

/-- An open queue for so many keys, but at least one. On a machine with words of 64 bits no queue can
be made for more than `2 ^ 61 - 1` keys, and nothing is said of that here. -/
def withCapacity (size : Nat) : PrefetchQueue := { capacity := max size 1 }

/-- Takes in a key if there is room for it, and tells what is to be counted. -/
def enqueue (q : PrefetchQueue) (key : String) : PrefetchQueue × List Event :=
  if q.isOpen ∧ q.keys.length < q.capacity then
    ({ q with keys := q.keys ++ [key] }, [.prefetch])
  else (q, [.prefetch, .prefetchDropped])

/-- The worker processes the first key, if there is one. -/
def process (q : PrefetchQueue) : PrefetchQueue × List Event :=
  match q.keys with
  | [] => (q, [])
  | _ :: rest => ({ q with keys := rest }, [.prefetchProcessed])

/-- The worker processes all keys. -/
def processAll (q : PrefetchQueue) : PrefetchQueue × List Event :=
  ({ q with keys := [] }, q.keys.map fun _ => .prefetchProcessed)

/-- Closes the queue when the worker has processed all keys. -/
def close (q : PrefetchQueue) : PrefetchQueue × List Event :=
  let (q, events) := q.processAll
  ({ q with isOpen := false }, events)

end PrefetchQueue
end Triage.Cache
