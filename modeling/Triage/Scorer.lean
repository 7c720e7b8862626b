/-
Scoring with a cache.

A scorer computes scores by its weights. With a cache it first looks for a score that was computed
by the same weights for the same notification, as told by a fingerprint of the weights, the
identifier and the second of the last change, and keeps new scores for some time. Collections are
scored as they are filtered: inline or with workers, and up to a deadline.
-/
import Triage.Cache.Key
import Triage.Cache.Typed
import Triage.Config.Basic
import Triage.Deadline
import Triage.Pool
import Triage.Score.Json
namespace Triage

open Triage.Calendar

/-- Computes what needs a cache, if there is one. -/
abbrev WithCache := StateM (Option Cache.Session)

/-- The fingerprint of weights: a hash of their text. -/
def Factors.fingerprint (f : Factors) (hash : Hash := .standard) : UInt64 :=
  hash (Cache.textPart f.toJson.compact)

/-- How scores are computed and kept. -/
structure Scorer where
  factors : Factors := .initial
  settings : ScoringSettings := {}
  user : Option String := none
  /-- The hash that fingerprints in keys are made with. -/
  hash : Hash := .standard

/-- The scores of a collection by identifier. -/
abbrev Scores := SortedMap Score

namespace Scorer

/-- A scorer with valid weights and settings. -/
def make (factors : Factors) (settings : ScoringSettings) (user : Option String) :
    Except ConfigFault Scorer := do
  factors.validate
  settings.validate
  return { factors, settings, user }

/-- The fingerprint of the weights. -/
def fingerprint (s : Scorer) : UInt64 := s.factors.fingerprint s.hash

/-- The key under which a score is kept: the fingerprint of the weights, the identifier and the
second of the last change between colons. The identifier may hold colons itself. -/
def cacheKey (s : Scorer) (n : Notification) : String :=
  "score:" ++ Cache.fingerprintText s.fingerprint ++ ":" ++ n.id ++ ":" ++
    toString n.updatedAt.seconds

/-- How long a score is kept, in milliseconds. -/
def cacheTime (s : Scorer) : Nat := s.settings.cacheSeconds * 1000

/-- The score of a notification without a cache. -/
def compute (s : Scorer) (n : Notification) (now : Instant) : Score :=
  Score.compute s.factors n now

/-- The score of a notification with a cache. -/
def scoreIn (s : Scorer) (now : Instant) (n : Notification) (session : Cache.Session) :
    Score × Cache.Session :=
  match session.getJson now.toMillis (s.cacheKey n) Score.ofJson with
  | (some score, session) => (score, session)
  | (none, session) =>
    let score := s.compute n now
    (score, session.setJson now.toMillis (s.cacheKey n) score.toJson (some s.cacheTime))

/-- The score of a notification, by way of the cache if there is one. -/
def score (s : Scorer) (now : Instant) (n : Notification) : WithCache Score := fun session =>
  match session with
  | none => (s.compute n now, none)
  | some session =>
    let (score, session) := s.scoreIn now n session
    (score, some session)

/-- The total score of a notification. -/
def total (s : Scorer) (now : Instant) (n : Notification) : WithCache UInt8 := do
  return (← s.score now n).total

/-- The scores of a collection. Of several notifications with one identifier the last one counts.
With workers this is one schedule of `pool`. With one worker all that end in time give the same;
with several another notification may be the last one. -/
def scoreAll (s : Scorer) (timing : Timing) (now : Instant) (list : List Notification) :
    WithCache (Except (Interrupted Scores) Scores) := do
  let work (n : Notification) : WithCache (Option (String × Score)) := do
    return some (n.id, ← s.score now n)
  let outcome ← workUnder timing s.settings.timeoutMs s.settings.batchSize work list
  let scores : Scores := .ofList outcome.results
  return if outcome.timedOut then .error ⟨scores, outcome.processed, list.length⟩ else .ok scores

/-- The answer for what came of a run over so many notifications. -/
def answer (total : Nat) (outcome : Outcome (String × Score)) :
    Except (Interrupted Scores) Scores :=
  if outcome.timedOut then .error ⟨.ofList outcome.results, outcome.processed, total⟩
  else .ok (.ofList outcome.results)

/-- The score of a notification at the time that the clock shows, with the identifier. -/
def scoreEntry (s : Scorer) (entry : Notification × Instant) : WithCache (String × Score) := do
  return (entry.1.id, ← s.score entry.2 entry.1)

/-- The scores of a collection on a clock that goes on: each notification comes with the time that
it is scored at. -/
def scoreAllAt (s : Scorer) (timing : Timing) (entries : List (Notification × Instant)) :
    WithCache (Except (Interrupted Scores) Scores) := do
  let work (entry : Notification × Instant) : WithCache (Option (String × Score)) := do
    return some (← s.scoreEntry entry)
  return answer entries.length
    (← workUnder timing s.settings.timeoutMs s.settings.batchSize work entries)

/-- The pool that scores a collection without a cache: a slot for each notification, which yields
its identifier and its score. -/
def pool (s : Scorer) (now : Instant) (list : List Notification) : Pool (String × Score) where
  slots := list.length
  workers := s.settings.concurrency
  capacity := s.settings.batchSize
  work slot := list[slot]?.map fun n => (n.id, s.compute n now)

end Scorer
end Triage
