/-
Working through a collection under a deadline.

Items are worked on one after the other until all are done or the deadline is reached. Inline, a
stopwatch is read once to set the deadline and then before each item; with workers, an item can be
held until the deadline has passed. What was done up to then is kept, together with the number of
items that were processed.
-/
import Triage.Error
namespace Triage

/-- How time passes for a run: the readings of the stopwatch in milliseconds, and the number of
items after which workers are held until the deadline, if they are. -/
structure Timing where
  reading : Nat → Nat
  heldAfter : Option Nat

namespace Timing

/-- No time passes. -/
def still : Timing := ⟨fun _ => 0, none⟩

/-- Each reading of the stopwatch takes some milliseconds. -/
def ticking (step : Nat) : Timing := ⟨fun k => (k + 1) * step, none⟩

/-- No time passes, but workers are held after some items. -/
def holding (count : Nat) : Timing := ⟨fun _ => 0, some count⟩

/-- Whether the deadline is reached inline before an item, counted from zero. -/
def stopsInline (t : Timing) (timeout item : Nat) : Bool :=
  t.reading 0 + timeout ≤ t.reading (item + 1)

/-- Whether the deadline is reached with workers before an item, counted from zero. -/
def stopsWorkers (t : Timing) (item : Nat) : Bool := t.heldAfter.any (· ≤ item)

/-- Whether the deadline is reached before an item of a run over so many items: the run is inline if
there are few of them, and else with workers. -/
def stops (t : Timing) (timeout batchSize items : Nat) : Nat → Bool :=
  if items < batchSize then t.stopsInline timeout else t.stopsWorkers

end Timing

/-- What came of a run: the results, the number of items processed, and whether the deadline was
reached. -/
structure Outcome (β : Type) where
  results : List β
  processed : Nat
  timedOut : Bool
  deriving Repr, DecidableEq

/-- What is left of a run that reached its deadline. -/
structure Interrupted (β : Type) where
  kept : β
  processed : Nat
  total : Nat
  deriving Repr, DecidableEq

namespace Interrupted

/-- The error that a run was interrupted. -/
def toError {β : Type} (e : Interrupted β) : Error := .deadline e.processed e.total

/-- The numbers of an interrupted run. -/
def describe {β : Type} (e : Interrupted β) : String :=
  "DeadlineExceeded \x7b processed: " ++ toString e.processed ++ ", total: " ++
    toString e.total ++ ", .. \x7d"

end Interrupted

variable {α β : Type} {m : Type → Type} [Monad m]

/-- Works on items until the deadline, and keeps the results that there are. The second argument
tells whether the deadline is reached before an item, the fourth how many are done. -/
def workThrough (stops : Nat → Bool) (work : α → m (Option β)) (done : Nat) :
    List α → m (Outcome β)
  | [] => pure ⟨[], done, false⟩
  | item :: rest =>
    if stops done then pure ⟨[], done, true⟩
    else do
      let result ← work item
      let outcome ← workThrough stops work (done + 1) rest
      pure { outcome with results := result.toList ++ outcome.results }

/-- Works on items inline if there are few of them, and else with workers. The workers are not told
apart: their items are taken one after the other, which is one schedule of a pool. Only what holds
them at the deadline differs from a run inline. -/
def workUnder (timing : Timing) (timeout batchSize : Nat) (work : α → m (Option β))
    (items : List α) : m (Outcome β) :=
  workThrough (timing.stops timeout batchSize items.length) work 0 items

end Triage
