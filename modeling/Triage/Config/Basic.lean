/-
Settings.

Settings come in five sections: how collections are filtered, how they are scored, the weights of
the score, how results are sorted and where they are cached. Sizes, durations and counts must be
positive, weights finite, criteria readable and the cache one that can be opened.
-/
import Triage.Cache.Backend
import Triage.Config.Directories
import Triage.Order.Sorter
import Triage.Score.Factors
namespace Triage

/-- Checks that a number is positive. -/
def checkPositive (name : String) (value : Nat) : Except ConfigFault Unit :=
  if value = 0 then .error (.notPositive name) else .ok ()

/-- How collections are filtered: the number of workers, the size from which on they are used, the
time until the deadline, and whether indexes narrow the candidates. -/
structure EngineSettings where
  concurrency : Nat := 1
  batchSize : Nat := 100
  timeoutMs : Nat := 30000
  useIndexes : Bool := true
  deriving Repr, DecidableEq

/-- Checks the settings for filtering. -/
def EngineSettings.validate (s : EngineSettings) : Except ConfigFault Unit := do
  checkPositive "engine.concurrency" s.concurrency
  checkPositive "engine.batch_size" s.batchSize
  checkPositive "engine.timeout_ms" s.timeoutMs

/-- How collections are scored: as for filtering, and for how long scores are kept. -/
structure ScoringSettings where
  concurrency : Nat := 1
  batchSize : Nat := 100
  timeoutMs : Nat := 30000
  cacheSeconds : Nat := 300
  deriving Repr, DecidableEq

/-- Checks the settings for scoring. -/
def ScoringSettings.validate (s : ScoringSettings) : Except ConfigFault Unit := do
  checkPositive "scoring.concurrency" s.concurrency
  checkPositive "scoring.batch_size" s.batchSize
  checkPositive "scoring.timeout_ms" s.timeoutMs
  checkPositive "scoring.cache_ttl_secs" s.cacheSeconds

/-- How results are sorted. -/
structure SortSettings where
  parallel : Bool := true
  batchSize : Nat := 1000
  criteria : List String := ["time:desc"]
  deriving Repr, DecidableEq

namespace SortSettings

/-- The criteria that the settings name. -/
def parsedCriteria (s : SortSettings) : Except ConfigFault (List SortCriterion) :=
  s.criteria.mapM SortCriterion.ofText

/-- Checks the settings for sorting. -/
def validate (s : SortSettings) : Except ConfigFault Unit := do
  checkPositive "sort.batch_size" s.batchSize
  let _ ← s.parsedCriteria

end SortSettings

/-- A sorter by some criteria that works as the settings say. -/
def Sorter.ofSettings (criteria : List SortCriterion) (s : SortSettings) :
    Except ConfigFault Sorter := do
  s.validate
  return { criteria, parallel := s.parallel, batchSize := s.batchSize }

/-- Where results are cached, and for how long. -/
structure CacheSettings where
  backend : Cache.Backend := .memory
  directory : Option String := none
  bucket : String := "notifications"
  resultSeconds : Nat := 300
  queueSize : Nat := 100
  deriving Repr, DecidableEq

namespace CacheSettings

/-- What it takes to open the cache; the directory may depend on the environment. -/
def opening (s : CacheSettings) (env : Environment) : Cache.Settings :=
  { backend := s.backend
    directory := s.directory.getD
      (((env.cacheDirectory?).map (joinPath · programDirectory)).getD ".notifscout-cache")
    bucket := s.bucket
    queueSize := s.queueSize }

/-- Checks the settings for caching. -/
def validate (s : CacheSettings) : Except ConfigFault Unit := do
  checkPositive "cache.ttl_secs" s.resultSeconds
  match (s.opening .empty).validate with
  | .ok () => .ok ()
  | .error fault => .error (.cache fault)

end CacheSettings

/-- All settings. -/
structure Config where
  engine : EngineSettings := {}
  scoring : ScoringSettings := {}
  score : Factors := .initial
  sort : SortSettings := {}
  cache : CacheSettings := {}

namespace Config

instance : Inhabited Config := ⟨{}⟩

/-- Equality of settings; weights are equal as numbers. -/
instance : BEq Config :=
  ⟨fun a b => a.engine == b.engine && a.scoring == b.scoring && a.score == b.score &&
    a.sort == b.sort && a.cache == b.cache⟩

/-- Checks the sections in order. -/
def validate (c : Config) : Except ConfigFault Unit := do
  c.engine.validate
  c.scoring.validate
  c.score.validate
  c.sort.validate
  c.cache.validate

end Config
end Triage
