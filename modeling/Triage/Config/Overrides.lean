/-
Overrides of single settings.

A setting is addressed by its section and name, and its value is given as text. Overrides are taken
together: if one of them cannot be understood or the settings they lead to are not valid, none
takes effect. The first fault in the order of the keys is the one that is told.
-/
import Triage.Config.Basic
import Triage.Decimal.Reading
import Triage.Text.Split
namespace Triage

open Triage.Text

/-! ### Values -/

/-- The greatest number that a signed word of 64 bits holds. -/
def maxWord : Int := 0x7FFFFFFFFFFFFFFF

/-- Reads a whole number above zero. -/
def positiveOfText (key value : String) : Except ConfigFault Nat :=
  match Decimal.readIntWithin? (-maxWord - 1) maxWord value with
  | none => .error (.notPositiveInteger key value)
  | some n => if n ≤ 0 then .error (.notPositiveNumber key n) else .ok n.toNat

/-- Reads a finite number. -/
def weightOfText (key value : String) : Except ConfigFault Float :=
  match Decimal.read? value with
  | some x => if x.isFinite then .ok x else .error (.notNumber key value)
  | none => .error (.notNumber key value)

/-- Reads a truth value in any of its spellings. -/
def boolOfText (key value : String) : Except ConfigFault Bool :=
  let word := asciiLower value
  if word = "true" ∨ word = "yes" ∨ word = "on" ∨ word = "1" then .ok true
  else if word = "false" ∨ word = "no" ∨ word = "off" ∨ word = "0" then .ok false
  else .error (.notBoolean key value)

/-- Reads a list of criteria between commas; empty places are passed over. -/
def criteriaOfText (value : String) : List String :=
  ((split ',' value).map trim).filter (· ≠ "")

/-! ### Keys -/

/-- The settings that can be overridden. -/
inductive SettingKey
  | engineConcurrency
  | engineBatchSize
  | engineTimeout
  | engineIndexes
  | scoringConcurrency
  | scoringBatchSize
  | scoringTimeout
  | scoringCacheTime
  | sortParallel
  | sortBatchSize
  | sortCriteria
  | cacheBackend
  | cacheDirectory
  | cacheBucket
  | cacheTime
  | cacheQueueSize
  | weight (name : String)
  | repositoryWeight (repository : String)
  deriving Repr, DecidableEq

namespace SettingKey

/-- The settings with fixed names. -/
def named : List (String × SettingKey) :=
  [("engine.concurrency", engineConcurrency), ("engine.batch_size", engineBatchSize),
   ("engine.timeout_ms", engineTimeout), ("engine.use_indexes", engineIndexes),
   ("scoring.concurrency", scoringConcurrency), ("scoring.batch_size", scoringBatchSize),
   ("scoring.timeout_ms", scoringTimeout), ("scoring.cache_ttl_secs", scoringCacheTime),
   ("sort.parallel", sortParallel), ("sort.batch_size", sortBatchSize),
   ("sort.criteria", sortCriteria), ("cache.backend", cacheBackend),
   ("cache.directory", cacheDirectory), ("cache.bucket", cacheBucket),
   ("cache.ttl_secs", cacheTime), ("cache.prefetch_queue_size", cacheQueueSize)]

/-- The setting that a key names. Weights of repositories are named by what follows
`score.repo.`, other weights by what follows `score.`. -/
def ofText (key : String) : Except ConfigFault SettingKey :=
  match named.lookup key with
  | some setting => .ok setting
  | none =>
    match after? "score.repo." key with
    | some repository =>
      if repository = "" then .error (.missingRepository key)
      else .ok (repositoryWeight repository)
    | none =>
      match after? "score." key with
      | some name => .ok (weight name)
      | none => .error (.unknownKey key)

end SettingKey

namespace Config

/-- Changes the settings for filtering. -/
def withEngine (c : Config) (f : EngineSettings → EngineSettings) : Config :=
  { c with engine := f c.engine }

/-- Changes the settings for scoring. -/
def withScoring (c : Config) (f : ScoringSettings → ScoringSettings) : Config :=
  { c with scoring := f c.scoring }

/-- Changes the settings for sorting. -/
def withSort (c : Config) (f : SortSettings → SortSettings) : Config :=
  { c with sort := f c.sort }

/-- Changes the settings for caching. -/
def withCache (c : Config) (f : CacheSettings → CacheSettings) : Config :=
  { c with cache := f c.cache }

/-- Overrides one setting. The key is repeated in what is said about a value. -/
def override (c : Config) (key value : String) : Except ConfigFault Config := do
  match ← SettingKey.ofText key with
  | .engineConcurrency =>
    let n ← positiveOfText key value
    return c.withEngine ({ · with concurrency := n })
  | .engineBatchSize =>
    let n ← positiveOfText key value
    return c.withEngine ({ · with batchSize := n })
  | .engineTimeout =>
    let n ← positiveOfText key value
    return c.withEngine ({ · with timeoutMs := n })
  | .engineIndexes =>
    let b ← boolOfText key value
    return c.withEngine ({ · with useIndexes := b })
  | .scoringConcurrency =>
    let n ← positiveOfText key value
    return c.withScoring ({ · with concurrency := n })
  | .scoringBatchSize =>
    let n ← positiveOfText key value
    return c.withScoring ({ · with batchSize := n })
  | .scoringTimeout =>
    let n ← positiveOfText key value
    return c.withScoring ({ · with timeoutMs := n })
  | .scoringCacheTime =>
    let n ← positiveOfText key value
    return c.withScoring ({ · with cacheSeconds := n })
  | .sortParallel =>
    let b ← boolOfText key value
    return c.withSort ({ · with parallel := b })
  | .sortBatchSize =>
    let n ← positiveOfText key value
    return c.withSort ({ · with batchSize := n })
  | .sortCriteria => return c.withSort ({ · with criteria := criteriaOfText value })
  | .cacheBackend =>
    match Cache.Backend.ofText value with
    | .ok backend => return c.withCache ({ · with backend })
    | .error fault => throw (.backend key fault)
  | .cacheDirectory => return c.withCache ({ · with directory := some value })
  | .cacheBucket => return c.withCache ({ · with bucket := value })
  | .cacheTime =>
    let n ← positiveOfText key value
    return c.withCache ({ · with resultSeconds := n })
  | .cacheQueueSize =>
    let n ← positiveOfText key value
    return c.withCache ({ · with queueSize := n })
  | .weight name =>
    let x ← weightOfText key value
    return { c with score := ← c.score.set name x }
  | .repositoryWeight repository =>
    let x ← weightOfText key value
    return { c with score := c.score.putRepository repository x }

/-- Overrides settings in the order of their keys; values are trimmed. -/
def overrideAll (c : Config) (overrides : SortedMap String) : Except ConfigFault Config :=
  overrides.toList.foldlM (fun c (key, value) => c.override key (trim value)) c

/-- Overrides settings and checks the result. -/
def apply (c : Config) (overrides : SortedMap String) : Except ConfigFault Config := do
  let next ← c.overrideAll overrides
  next.validate
  return next

end Config
end Triage
