/-
Kinds of cache and what it takes to open one.

A cache keeps nothing, keeps its entries in memory, or keeps them in one of two kinds of store that
outlive it. Each of these goes by several names.
-/
import Triage.Error
import Triage.Text.Ascii
import Triage.Text.Blank
namespace Triage.Cache

open Triage.Text

/-- Where a cache keeps its entries. -/
inductive Backend
  /-- Nowhere. -/
  | null
  | memory
  /-- In a table with rows. -/
  | sqlite
  /-- In partitions of a log-structured store. -/
  | lsm
  deriving Repr, DecidableEq

namespace Backend

/-- What a kind of cache is called. -/
def name : Backend → String
  | null => "null"
  | memory => "memory"
  | sqlite => "sqlite"
  | lsm => "lsm"

/-- Whether entries outlive the cache. -/
def isPersistent : Backend → Bool
  | null | memory => false
  | sqlite | lsm => true

/-- Reads a kind of cache by any of its names. -/
def ofText (text : String) : Except CacheFault Backend :=
  let name := asciiLower (trim text)
  if name = "null" ∨ name = "none" ∨ name = "off" then .ok null
  else if name = "memory" ∨ name = "mem" then .ok memory
  else if name = "sqlite" ∨ name = "btree" then .ok sqlite
  else if name = "lsm" ∨ name = "fjall" then .ok lsm
  else .error (.unknownBackend name)

/-- The kind of cache with exactly this name. -/
def ofName? (name : String) : Option Backend :=
  [null, memory, sqlite, lsm].find? (·.name = name)

end Backend

/-- The longest name that a bucket may have. -/
def longestBucket : Nat := 64

/-- Whether a bucket may have this name: ASCII letters, digits and underscores, at least one. -/
def isBucketName (name : String) : Bool :=
  let cs := name.toList
  !cs.isEmpty && cs.length ≤ longestBucket && cs.all fun c => c.isAlphanum || c == '_'

/-- What it takes to open a cache. -/
structure Settings where
  backend : Backend := .memory
  directory : String := ".notifscout-cache"
  bucket : String := "notifications"
  queueSize : Nat := 100
  deriving Repr, DecidableEq

/-- Checks the size of the queue and the name of the bucket. -/
def Settings.validate (s : Settings) : Except CacheFault Unit :=
  if s.queueSize = 0 then .error .emptyQueue
  else if isBucketName s.bucket then .ok ()
  else .error (.invalidBucket s.bucket)

end Triage.Cache
