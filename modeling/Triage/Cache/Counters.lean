/-
Counters of a cache.

A cache counts what it is asked for and how that went. Reads are hits or misses; what a store fails
to do is an error. Keys that are to be fetched ahead are counted when they are asked for, and again
when they are dropped or processed.
-/
namespace Triage.Cache

/-- What a cache counts. -/
inductive Event
  | get
  | set
  | delete
  | hit
  | miss
  | error
  | clear
  | prefetch
  | prefetchDropped
  | prefetchProcessed
  deriving Repr, DecidableEq

/-- How often each event has happened. -/
structure Counters where
  gets : Nat := 0
  sets : Nat := 0
  deletes : Nat := 0
  hits : Nat := 0
  misses : Nat := 0
  errors : Nat := 0
  clears : Nat := 0
  prefetches : Nat := 0
  prefetchDropped : Nat := 0
  prefetchProcessed : Nat := 0
  deriving Repr, DecidableEq

namespace Counters

/-- Counts one event. -/
def record (c : Counters) : Event → Counters
  | .get => { c with gets := c.gets + 1 }
  | .set => { c with sets := c.sets + 1 }
  | .delete => { c with deletes := c.deletes + 1 }
  | .hit => { c with hits := c.hits + 1 }
  | .miss => { c with misses := c.misses + 1 }
  | .error => { c with errors := c.errors + 1 }
  | .clear => { c with clears := c.clears + 1 }
  | .prefetch => { c with prefetches := c.prefetches + 1 }
  | .prefetchDropped => { c with prefetchDropped := c.prefetchDropped + 1 }
  | .prefetchProcessed => { c with prefetchProcessed := c.prefetchProcessed + 1 }

/-- Counts several events. -/
def recordAll (c : Counters) (events : List Event) : Counters := events.foldl record c

/-- Which part of the reads were hits; without any reads none. -/
def hitRate (c : Counters) : Float :=
  if c.gets = 0 then 0 else Float.ofNat c.hits / Float.ofNat c.gets

end Counters
end Triage.Cache
