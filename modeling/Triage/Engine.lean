/-
Filtering collections.

A filter is asked of every notification that may meet it. If the filter names a bucket of an index
and indexes are to be used, only the notifications in the bucket are candidates. Few candidates are
filtered inline, many by a pool of workers, and a deadline may interrupt either. Without a filter
all notifications stay.
-/
import Triage.Config.Basic
import Triage.Deadline
import Triage.Index
import Triage.Pool
namespace Triage.Engine

variable {m : Type → Type} [Monad m]

/-- The notifications that a filter is asked of, in their order: those in the bucket that the filter
names, if it names one. -/
def candidates (settings : EngineSettings) (key : Option IndexKey) (list : List Notification) :
    List Notification :=
  match if settings.useIndexes then key else none with
  | none => list
  | some key =>
    let records := list.toArray
    ((Index.ofList list).lookup key).filterMap (records[·]?)

/-- The answer for what came of a run over candidates. -/
def answer (candidates : List Notification) (outcome : Outcome Notification) :
    Except (Interrupted (List Notification)) (List Notification) :=
  if outcome.timedOut then .error ⟨outcome.results, outcome.processed, candidates.length⟩
  else .ok outcome.results

/-- The notifications that are accepted, of those in a bucket if there is one. Where there are
enough of them for workers, this is one schedule of `pool`. With one worker all that end in time
give the same; with several another one may give another order. -/
def select (settings : EngineSettings) (timing : Timing) (key : Option IndexKey)
    (accept : Notification → m Bool) (list : List Notification) :
    m (Except (Interrupted (List Notification)) (List Notification)) := do
  let narrowed := candidates settings key list
  let work (n : Notification) : m (Option Notification) := do
    return if ← accept n then some n else none
  return answer narrowed (← workUnder timing settings.timeoutMs settings.batchSize work narrowed)

/-- The notifications that a filter accepts, on the schedule of `select`. Asking for a score may
have an effect. -/
def run (settings : EngineSettings) (timing : Timing) (score : Notification → m UInt8)
    (filter : Filter) (list : List Notification) :
    m (Except (Interrupted (List Notification)) (List Notification)) :=
  select settings timing filter.key? (filter.acceptsM score) list

/-- The pool that filters candidates: a slot for each, which yields the candidate if it is
accepted. -/
def pool (settings : EngineSettings) (accept : Notification → Bool)
    (candidates : List Notification) : Pool Notification where
  slots := candidates.length
  workers := settings.concurrency
  capacity := settings.batchSize
  work slot := candidates[slot]?.filter accept

end Triage.Engine
