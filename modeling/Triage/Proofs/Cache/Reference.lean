/-
Caches in use, and the map with expiry that they are measured by.

A client does one thing after the other to a cache: it reads, stores, deletes, empties,
closes, and drops and opens the cache again, while the clock moves forward or backward.
The reference is a map from keys to values with an expiry, and knows nothing of stores,
bytes or generations; it answers and counts what a cache is to answer and to count.
-/
import Triage.Cache.Basic
import Triage.Proofs.Cache.Envelope

namespace Triage.Cache

open Triage.MessagePack

/-- What is done to a cache, or happens to the clock meanwhile. -/
inductive Request
  | get (key : String)
  | set (key : String) (value : Bytes) (ttl : Option Nat)
  | delete (key : String)
  | clear
  | close
  | clock (now : Int)
  /-- The cache is dropped and opened again. -/
  | reopen
  deriving Repr, DecidableEq

/-! ### Clients of a cache -/

/-- A cache in use: what it was opened with, the open cache, and the time. -/
structure Client where
  settings : Settings
  session : Session
  now : Int

namespace Client

/-- Opens a cache where there is nothing yet. -/
def start (settings : Settings) (now : Int) : Option Client :=
  (openIn settings.backend settings.bucket settings.queueSize {}).map (⟨settings, ·, now⟩)

/-- Does one thing. Only a read has an answer; opening a cache may fail. -/
def step (c : Client) : Request → Option (Option Bytes × Client)
  | .get key =>
    let (value, session) := c.session.get c.now key
    some (value, { c with session })
  | .set key value ttl => some (none, { c with session := c.session.set c.now key value ttl })
  | .delete key => some (none, { c with session := c.session.delete key })
  | .clear => some (none, { c with session := c.session.clear })
  | .close => some (none, { c with session := c.session.close })
  | .clock now => some (none, { c with now })
  | .reopen =>
    (openIn c.settings.backend c.settings.bucket c.settings.queueSize c.session.storage).map
      fun session => (none, { c with session })

/-- Does one thing after the other. -/
def run (c : Client) : List Request → Option (List (Option Bytes) × Client)
  | [] => some ([], c)
  | request :: rest => do
    let (answer, c) ← c.step request
    let (answers, c) ← run c rest
    some (answer :: answers, c)

end Client

/-! ### The reference -/

/-- A map from keys to values with an expiry, with its counters and the time. -/
structure Reference where
  entries : String → Option Envelope := fun _ => none
  counters : Counters := {}
  now : Int

namespace Reference

/-- The time that is nearest to a number. -/
def saturate (n : Int) : Int := max firstTime (min n lastTime)

/-- When a value expires that is stored now for so many milliseconds, or for ever. -/
def expiry (now : Int) (ttl : Option Nat) : Option Int :=
  ttl.map fun ttl : Nat => saturate (now + saturate ttl)

/-- Whether an entry has not expired. -/
def isLive (now : Int) (e : Envelope) : Bool :=
  match e.expiresAt with
  | some time => now < time
  | none => true

/-- The entries with another one, or none, under a key. -/
def replace (entries : String → Option Envelope) (key : String) (entry : Option Envelope) :
    String → Option Envelope :=
  fun other => if other = key then entry else entries other

/-- Counts events. -/
def count (r : Reference) (events : List Event) : Reference :=
  { r with counters := r.counters.recordAll events }

/-- Does one thing. An entry that has expired is gone for good once it is read. -/
def step (r : Reference) : Request → Option Bytes × Reference
  | .get key =>
    match r.entries key with
    | none => (none, r.count [.get, .miss])
    | some e =>
      if isLive r.now e then (some e.value, r.count [.get, .hit])
      else (none, { r with entries := replace r.entries key none }.count [.get, .miss])
  | .set key value ttl =>
    (none, { r with entries := replace r.entries key (some ⟨value, expiry r.now ttl⟩) }.count [.set])
  | .delete key => (none, { r with entries := replace r.entries key none }.count [.delete])
  | .clear => (none, { r with entries := fun _ => none }.count [.clear])
  | .close => (none, r)
  | .clock now => (none, { r with now })
  | .reopen => (none, { r with counters := {} })

/-- Does one thing after the other. -/
def run (r : Reference) : List Request → List (Option Bytes) × Reference
  | [] => ([], r)
  | request :: rest =>
    let (answer, r) := r.step request
    let (answers, r) := run r rest
    (answer :: answers, r)

/-! ### What a read comes to -/

variable {r : Reference} {key : String} {e : Envelope}

theorem step_get_of_none (h : r.entries key = none) :
    r.step (.get key) = (none, r.count [.get, .miss]) := by
  simp only [step, h]

theorem step_get_of_live (h : r.entries key = some e) (hlive : isLive r.now e = true) :
    r.step (.get key) = (some e.value, r.count [.get, .hit]) := by
  simp only [step, h, hlive, if_true]

theorem step_get_of_not_live (h : r.entries key = some e) (hlive : isLive r.now e = false) :
    r.step (.get key) =
      (none, { r with entries := replace r.entries key none }.count [.get, .miss]) := by
  simp only [step, h, hlive, Bool.false_eq_true, if_false]

theorem now_step_get (r : Reference) (key : String) : (r.step (.get key)).2.now = r.now := by
  cases hentry : r.entries key with
  | none => rw [step_get_of_none hentry, count]
  | some e =>
      by_cases hlive : isLive r.now e = true
      · rw [step_get_of_live hentry hlive, count]
      · rw [step_get_of_not_live hentry (by simpa using hlive), count]

/-! ### What the reference counts -/

/-- Whether every read was a hit or a miss, and nothing went wrong. -/
structure Balanced (counters : Counters) : Prop where
  reads : counters.gets = counters.hits + counters.misses
  errors : counters.errors = 0

theorem balanced_step (h : Balanced r.counters) (request : Request) :
    Balanced (r.step request).2.counters := by
  obtain ⟨hreads, herrors⟩ := h
  cases request with
  | get key =>
      cases hentry : r.entries key with
      | none =>
          rw [step_get_of_none hentry]
          exact ⟨congrArg (· + 1) hreads, herrors⟩
      | some e =>
          by_cases hlive : isLive r.now e = true
          · rw [step_get_of_live hentry hlive]
            refine ⟨?_, herrors⟩
            show r.counters.gets + 1 = r.counters.hits + 1 + r.counters.misses
            omega
          · rw [step_get_of_not_live hentry (by simpa using hlive)]
            exact ⟨congrArg (· + 1) hreads, herrors⟩
  | reopen => exact ⟨rfl, rfl⟩
  | set | delete | clear | close | clock => exact ⟨hreads, herrors⟩

theorem balanced_run (h : Balanced r.counters) (requests : List Request) :
    Balanced (r.run requests).2.counters := by
  induction requests generalizing r with
  | nil => exact h
  | cons request rest ih => exact ih (balanced_step h request)

end Reference

end Triage.Cache
