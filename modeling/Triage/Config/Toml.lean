/-
Settings as files.

A file of settings has a section for each part of the settings. Whatever is absent keeps its initial
value, and what is unknown is passed over. A section may also be given as the list of its values in
their order. Numbers that count something are not negative; weights may be written without a point.
-/
import Triage.Config.Basic
import Triage.Toml.Reading
import Triage.Toml.Writing
namespace Triage

/-! ### Reading values -/

namespace Toml

/-- A string. -/
def asString : Toml → Option String
  | scalar (.string value) => some value
  | _ => none

/-- A whole number that is not negative. -/
def asNat : Toml → Option Nat
  | scalar (.integer value) => if value < 0 then none else some value.toNat
  | _ => none

/-- A number. -/
def asFloat : Toml → Option Float
  | scalar (.float value) => some value
  | scalar (.integer value) => some (Float.ofInt value)
  | _ => none

/-- A truth value. -/
def asBool : Toml → Option Bool
  | scalar (.boolean value) => some value
  | _ => none

/-- A list of values. -/
def asItems : Toml → Option (List Toml)
  | array items => some items
  | tables items => some items
  | _ => none

/-- A list of strings. -/
def asStrings (value : Toml) : Option (List String) := do (← value.asItems).mapM asString

/-- Numbers by name. -/
def asNumbers : Toml → Option (SortedMap Float)
  | table _ entries =>
    (entries.mapM fun e => (asFloat e.2).map (e.1, ·)).map .ofList
  | _ => none

/-- What a section gives for its fields: by their names, or by their places. A moment names no field
of any section. -/
inductive Fields
  | named (entries : List (String × Toml))
  | placed (names : List String) (items : List Toml)

/-- The fields of a section with these names. -/
def asFields (names : List String) : Toml → Option Fields
  | table _ entries => some (.named entries)
  | moment => some (.named [])
  | array items => some (.placed names items)
  | tables items => some (.placed names items)
  | scalar _ => none

/-- The value of a field, if the section gives one. -/
def Fields.get? (f : Fields) (name : String) : Option Toml :=
  match f with
  | named entries => entries.lookup name
  | placed names items => (names.zip items).lookup name

/-- Reads a field that may be absent. -/
def Fields.read {α : Type} (f : Fields) (name : String) (initial : α) (read : Toml → Option α) :
    Option α :=
  match f.get? name with
  | some value => read value
  | none => some initial

end Toml

/-! ### Reading sections -/

/-- Reads the settings for filtering. -/
def EngineSettings.ofToml (value : Toml) : Option EngineSettings := do
  let initial : EngineSettings := {}
  let f ← value.asFields ["concurrency", "batch_size", "timeout_ms", "use_indexes"]
  let concurrency ← f.read "concurrency" initial.concurrency Toml.asNat
  let batchSize ← f.read "batch_size" initial.batchSize Toml.asNat
  let timeoutMs ← f.read "timeout_ms" initial.timeoutMs Toml.asNat
  let useIndexes ← f.read "use_indexes" initial.useIndexes Toml.asBool
  some { concurrency, batchSize, timeoutMs, useIndexes }

/-- Reads the settings for scoring. -/
def ScoringSettings.ofToml (value : Toml) : Option ScoringSettings := do
  let initial : ScoringSettings := {}
  let f ← value.asFields ["concurrency", "batch_size", "timeout_ms", "cache_ttl_secs"]
  let concurrency ← f.read "concurrency" initial.concurrency Toml.asNat
  let batchSize ← f.read "batch_size" initial.batchSize Toml.asNat
  let timeoutMs ← f.read "timeout_ms" initial.timeoutMs Toml.asNat
  let cacheSeconds ← f.read "cache_ttl_secs" initial.cacheSeconds Toml.asNat
  some { concurrency, batchSize, timeoutMs, cacheSeconds }

/-- Reads weights one by one. -/
def Factors.readFields (f : Toml.Fields) (factors : Factors) : List Weight → Option Factors
  | [] => some factors
  | w :: rest => do
    let value ← f.read w.name (Factors.initial.weight w) Toml.asFloat
    readFields f (factors.put w value) rest

/-- Reads all weights. -/
def Factors.ofToml (value : Toml) : Option Factors := do
  let f ← value.asFields (Weight.all.map Weight.name ++ [repositoriesName])
  let factors ← readFields f .initial Weight.all
  let repositories ← f.read repositoriesName .empty Toml.asNumbers
  some { factors with repositories }

/-- Reads the settings for sorting. -/
def SortSettings.ofToml (value : Toml) : Option SortSettings := do
  let initial : SortSettings := {}
  let f ← value.asFields ["parallel", "batch_size", "criteria"]
  let parallel ← f.read "parallel" initial.parallel Toml.asBool
  let batchSize ← f.read "batch_size" initial.batchSize Toml.asNat
  let criteria ← f.read "criteria" initial.criteria Toml.asStrings
  some { parallel, batchSize, criteria }

/-- Reads a kind of cache: its name, or a table with nothing but an empty table under its name. -/
def Cache.Backend.ofToml : Toml → Option Cache.Backend
  | .scalar (.string name) => ofName? name
  | .table _ [(name, .table _ [])] => ofName? name
  | .table _ [(name, .array [])] => ofName? name
  | _ => none

/-- Reads the settings for caching. -/
def CacheSettings.ofToml (value : Toml) : Option CacheSettings := do
  let initial : CacheSettings := {}
  let f ← value.asFields ["backend", "directory", "bucket", "ttl_secs", "prefetch_queue_size"]
  let backend ← f.read "backend" initial.backend Cache.Backend.ofToml
  let directory ← f.read "directory" initial.directory fun v => v.asString.map some
  let bucket ← f.read "bucket" initial.bucket Toml.asString
  let resultSeconds ← f.read "ttl_secs" initial.resultSeconds Toml.asNat
  let queueSize ← f.read "prefetch_queue_size" initial.queueSize Toml.asNat
  some { backend, directory, bucket, resultSeconds, queueSize }

/-! ### Files -/

namespace Config

/-- Reads all settings. -/
def ofToml (value : Toml) : Option Config := do
  let f ← value.asFields ["engine", "scoring", "score", "sort", "cache"]
  let engine ← f.read "engine" {} EngineSettings.ofToml
  let scoring ← f.read "scoring" {} ScoringSettings.ofToml
  let score ← f.read "score" .initial Factors.ofToml
  let sort ← f.read "sort" {} SortSettings.ofToml
  let cache ← f.read "cache" {} CacheSettings.ofToml
  some { engine, scoring, score, sort, cache }

/-- Reads the text of a file of settings, which need not be valid. -/
def ofText (text : String) : Except ConfigFault Config :=
  match (Toml.read? text).bind ofToml with
  | some config => .ok config
  | none => .error .unreadableSettings

/-- Reads the text of a file of settings and checks them. -/
def load (text : String) : Except ConfigFault Config := do
  let config ← ofText text
  config.validate
  return config

/-- A count as a setting. -/
def count (n : Nat) : Toml.Setting := .one (.integer n)

/-- A weight as a setting. -/
def weight (x : Float) : Toml.Setting := .one (.float x)

/-- A truth value as a setting. -/
def flag (b : Bool) : Toml.Setting := .one (.boolean b)

/-- A text as a setting. -/
def text (s : String) : Toml.Setting := .one (.string s)

/-- The sections of a file of settings. -/
def sections (c : Config) : List Toml.Section :=
  [⟨["engine"],
    [("concurrency", count c.engine.concurrency), ("batch_size", count c.engine.batchSize),
     ("timeout_ms", count c.engine.timeoutMs), ("use_indexes", flag c.engine.useIndexes)]⟩,
   ⟨["scoring"],
    [("concurrency", count c.scoring.concurrency), ("batch_size", count c.scoring.batchSize),
     ("timeout_ms", count c.scoring.timeoutMs),
     ("cache_ttl_secs", count c.scoring.cacheSeconds)]⟩,
   ⟨["score"], Weight.all.map fun w => (w.name, weight (c.score.weight w))⟩,
   ⟨["score", Factors.repositoriesName],
    c.score.repositories.toList.map fun (name, x) => (name, weight x)⟩,
   ⟨["sort"],
    [("parallel", flag c.sort.parallel), ("batch_size", count c.sort.batchSize),
     ("criteria", .many (c.sort.criteria.map .string))]⟩,
   ⟨["cache"],
    [("backend", text c.cache.backend.name)] ++
      (c.cache.directory.toList.map fun path => ("directory", text path)) ++
      [("bucket", text c.cache.bucket), ("ttl_secs", count c.cache.resultSeconds),
       ("prefetch_queue_size", count c.cache.queueSize)]⟩]

/-- The text of a file of settings. -/
def toText (c : Config) : String := Toml.write c.sections

end Config
end Triage
