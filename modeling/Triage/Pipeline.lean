/-
Queries over collections.

A pipeline reads a query, filters a collection by it and sorts what is left. With a cache it first
looks for a result that was computed for the same query, the same order and the same notifications,
as told by a fingerprint of them; what was computed is kept there for some time. A run that fails
keeps nothing.
-/
import Triage.Engine
import Triage.Query.Filter
import Triage.SavedFilters
import Triage.Scorer
import Triage.Source
namespace Triage

open Triage.Calendar Triage.Text

/-- How queries are run. -/
structure Pipeline where
  scorer : Scorer
  /-- Whether scores that a query asks for are looked up in the cache of results. -/
  cachesScores : Bool
  saved : Option (SortedMap String)
  engine : EngineSettings
  sorter : Sorter
  /-- How long a result is kept, in milliseconds. -/
  resultTime : Nat

/-- A criterion as it is hashed. -/
def SortCriterion.hashedBytes (criterion : SortCriterion) : MessagePack.Bytes :=
  Cache.textPart criterion.describe

/-- What is hashed of a notification. -/
def Notification.hashedBytes (n : Notification) : MessagePack.Bytes :=
  Cache.textPart n.id ++ Cache.intPart n.updatedAt.toMillis

namespace Pipeline

/-- A pipeline with valid settings for filtering, which keeps results for five minutes. -/
def make (scorer : Scorer) (saved : Option (SortedMap String)) (engine : EngineSettings)
    (sorter : Sorter) : Except ConfigFault Pipeline := do
  engine.validate
  return { scorer, cachesScores := false, saved, engine, sorter, resultTime := 300000 }

/-- The pipeline that settings ask for. -/
def ofConfig (config : Config) (saved : Option (SortedMap String)) :
    Except ConfigFault Pipeline := do
  config.validate
  let scorer ← Scorer.make config.score config.scoring none
  let sorter ← Sorter.ofSettings (← config.sort.parsedCriteria) config.sort
  let pipeline ← make scorer saved config.engine sorter
  return { pipeline with
    cachesScores := true, resultTime := config.cache.resultSeconds * 1000 }

/-- The filter that a query stands for. -/
def filterOf (p : Pipeline) (now : Instant) (query : String) : Except Error Filter :=
  Query.filterOf ⟨now, p.saved⟩ query

/-- What a result is told by: the query without the blanks around it, the criteria, and the
identifier and the millisecond of the last change of each notification. Nothing tells where the
criteria end and the notifications begin. -/
def hashedBytes (p : Pipeline) (query : String) (list : List Notification) : MessagePack.Bytes :=
  Cache.textPart (trim query) ++
    (p.sorter.criteria.flatMap SortCriterion.hashedBytes ++ list.flatMap Notification.hashedBytes)

/-- The key under which a result is kept. It holds a fingerprint, so that runs that are told apart by
what is hashed may still have one key. -/
def cacheKey (p : Pipeline) (query : String) (list : List Notification) : String :=
  "results:" ++ Cache.fingerprintText (p.scorer.hash (p.hashedBytes query list))

/-- The score of a notification as far as a query asks for it. -/
def total (p : Pipeline) (now : Instant) (n : Notification) : WithCache UInt8 :=
  if p.cachesScores then p.scorer.total now n else pure (p.scorer.compute n now).total

/-- Computes the result of a query. -/
def compute (p : Pipeline) (timing : Timing) (now : Instant) (query : String)
    (list : List Notification) : WithCache (Except Error (List Notification)) := do
  match p.filterOf now query with
  | .error error => return .error error
  | .ok filter =>
    match ← Engine.run p.engine timing (p.total now) filter list with
    | .error interrupted => return .error interrupted.toError
    | .ok matched => return .ok (p.sorter.sort matched)

/-- The result of a query that is kept, if there is one. -/
def lookup (key : String) (now : Instant) : WithCache (Option (List Notification)) := fun
  | none => (none, none)
  | some session =>
    let (result, session) := session.getJson now.toMillis key Notification.listOfJson
    (result, some session)

/-- Keeps the result of a query. -/
def keep (p : Pipeline) (key : String) (now : Instant) (result : List Notification) :
    WithCache Unit := fun session =>
  ((), session.map fun session =>
    session.setJson now.toMillis key (Notification.listToJson result) (some p.resultTime))

/-- The result of a query over a collection, by way of the cache if there is one. -/
def run (p : Pipeline) (timing : Timing) (now : Instant) (query : String)
    (list : List Notification) : WithCache (Except Error (List Notification)) := do
  let key := p.cacheKey query list
  match ← lookup key now with
  | some result => return .ok result
  | none =>
    match ← p.compute timing now query list with
    | .error error => return .error error
    | .ok result =>
      p.keep key now result
      return .ok result

/-- The result of a query over what is fetched from a source. -/
def fetchAndRun (p : Pipeline) (timing : Timing) (now : Instant) (query : String)
    (source : Source) (parameters : FetchParameters) :
    WithCache (Except Error (List Notification)) := do
  match source.fetch parameters with
  | .error fault => return .error (.source fault)
  | .ok list => p.run timing now query list

end Pipeline
end Triage
