/-
Caches that several clients share.

What a client asks of a cache is done in one step or in two. Nothing comes in the middle of a step,
but between two of them come those of other clients, in any order, and the clock moves on.

A read looks up an entry, and then removes it if it is of no use. Storing a value fixes its expiry,
and then puts it in. A cache in a table holds its lock from the look to the removal, and one in
memory from before the expiry is fixed until the entry is in; a cache in partitions has no lock and
does one thing to one partition in each step.
-/
import Triage.Cache.Basic
namespace Triage.Cache

open Triage.MessagePack

/-- What a client asks of a cache. -/
inductive Call
  | get (key : String)
  | set (key : String) (value : Bytes) (ttl : Option Nat)
  | delete (key : String)
  | clear
  deriving Repr, DecidableEq

/-- What may be left of a call. -/
inductive Rest
  | store (key : String) (e : Envelope)
  | evict (key : String)
  deriving Repr, DecidableEq

/-- What takes effect in a step. -/
inductive Effect
  | nothing
  /-- A read is over, with its answer. -/
  | found (key : String) (value : Option Bytes)
  /-- A read is over that found an entry of no use; it has no answer. -/
  | evicted (key : String)
  | stored (key : String) (e : Envelope)
  | deleted (key : String)
  | cleared
  deriving Repr, DecidableEq

/-- Whether the lock that the first part of a call takes is held for the rest as well. -/
def Place.keepsLock : Place → Rest → Bool
  | .memory _, .store .. => true
  | .table _, .evict _ => true
  | _, _ => false

namespace Session

/-- The first part of a call: what is left of it, or what has taken effect. -/
def start (s : Session) (now : Int) : Call → Session × (Rest ⊕ Effect)
  | .get key =>
    let finding := s.cache.place.find s.storage now key
    (s.record (.get :: finding.events),
      if finding.isStale then .inl (.evict key) else .inr (.found key finding.value?))
  | .set key value ttl => (s.record [.set], .inl (.store key (Envelope.wrap now ttl value)))
  | .delete key => (s.delete key, .inr (.deleted key))
  | .clear => (s.clear, .inr .cleared)

/-- The rest of a call. A client takes hold of a partition before it writes to it, and both are one
step here: a partition that is given up in between is never read again, so that what is written to
it counts as written before it was given up. -/
def finish (s : Session) (now : Int) : Rest → Session × Effect
  | .store key e => (s.moveTo (s.cache.place.store s.storage key e), .stored key e)
  | .evict key => (s.moveTo (s.cache.place.evict s.storage now key), .evicted key)

/-- The first step of a call: its first part, and the rest if the lock is still held. -/
def enter (s : Session) (now : Int) (call : Call) : Session × (Rest ⊕ Effect) :=
  match s.start now call with
  | (s, .inl rest) =>
    if s.cache.place.keepsLock rest then
      let (s, effect) := s.finish now rest
      (s, .inr effect)
    else (s, .inl rest)
  | (s, .inr effect) => (s, .inr effect)

end Session

/-- A shared cache: the time, and what each of its clients has left to do. -/
structure Shared where
  session : Session
  now : Int
  rests : List (Option Rest)

/-- What happens next: the clock moves on, or a client takes the first or the second step of a
call. -/
inductive Turn
  | clock (millis : Nat)
  | enter (client : Nat) (call : Call)
  | leave (client : Nat)
  deriving Repr, DecidableEq

namespace Shared

/-- One step, if the client has such a step to take, and what takes effect in it. -/
def step (s : Shared) : Turn → Option (Shared × Effect)
  | .clock millis => some ({ s with now := s.now + millis }, .nothing)
  | .enter i call =>
    match s.rests[i]? with
    | some none =>
      match s.session.enter s.now call with
      | (session, .inl rest) =>
        some ({ s with session, rests := s.rests.set i (some rest) }, .nothing)
      | (session, .inr effect) => some ({ s with session }, effect)
    | _ => none
  | .leave i =>
    match s.rests[i]? with
    | some (some rest) =>
      let (session, effect) := s.session.finish s.now rest
      some ({ s with session, rests := s.rests.set i none }, effect)
    | _ => none

/-- One step after the other, with all that takes effect. -/
def run (s : Shared) : List Turn → Option (Shared × List Effect)
  | [] => some (s, [])
  | turn :: rest => do
    let (s, effect) ← s.step turn
    let (s, effects) ← run s rest
    some (s, effect :: effects)

end Shared
end Triage.Cache
