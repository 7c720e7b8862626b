/-
Callers at a queue of keys.

Several callers hand keys to a bounded queue or shut it down, while a worker takes the keys out and
processes one at a time. What a caller does takes several steps: a key is counted before it is
offered, and one that is not taken in is counted once more; shutting down first closes the queue,
and then the worker is waited for by the caller that took its handle, and by all others that want
it. The worker leaves when the queue is closed and empty. Every step is atomic, and steps of
different parties may come in any order.
-/
import Triage.Cache.Prefetch
namespace Triage.Cache

/-- What a caller asks of a queue. -/
inductive Demand
  | enqueue (key : String)
  | shutdown
  deriving Repr, DecidableEq

/-- How many keys a queue is to hold, and what its callers ask of it. -/
structure Prefetching where
  capacity : Nat
  demands : List Demand

namespace Prefetching

/-- How many keys the queue holds: at least one. -/
def room (p : Prefetching) : Nat := max p.capacity 1

/-- What a caller does next. -/
inductive Caller
  /-- The key is to be counted; the call has not begun. -/
  | counting (key : String)
  | offering (key : String)
  /-- The key was not taken in, which is to be counted. -/
  | dropping (key : String)
  /-- The call is over, with its answer. -/
  | told (key : String) (accepted : Bool)
  /-- The queue is to be closed; the call has not begun. -/
  | sealing
  | locking
  /-- The caller has the worker's handle and waits for it to leave. -/
  | joining
  /-- The call is over. -/
  | returned
  deriving Repr, DecidableEq

/-- A caller that has not begun. -/
def Caller.ofDemand : Demand → Caller
  | .enqueue key => counting key
  | .shutdown => sealing

/-- What the worker does next; the key in its hands comes with the number of its caller. -/
inductive Worker
  | waiting
  | handling (entry : Nat × String)
  | gone
  deriving Repr, DecidableEq

/-- Where the handle of the worker is: with the queue, with the caller that waits for the worker and
locks all others out, or nowhere any more. -/
inductive Handle
  | kept
  | held
  | spent
  deriving Repr, DecidableEq

/-- A queue in use. The keys in the queue, those processed and those dropped come in the order in
which that was done, each with the number of its caller. -/
structure State where
  counters : Counters := {}
  isOpen : Bool := true
  line : List (Nat × String) := []
  worker : Worker := .waiting
  handle : Handle := .kept
  processed : List (Nat × String) := []
  dropped : List (Nat × String) := []
  callers : List Caller
  deriving Repr, DecidableEq

/-- Whose step it is. -/
inductive Turn
  | caller (index : Nat)
  | worker
  deriving Repr, DecidableEq

/-- The queue before the first step. -/
def start (p : Prefetching) : State := { callers := p.demands.map Caller.ofDemand }

/-- The step of the caller with a number, if it has one: the state without the caller, and what the
caller does after that. -/
def act (p : Prefetching) (s : State) (i : Nat) : Caller → Option (State × Caller)
  | .counting key => some ({ s with counters := s.counters.record .prefetch }, .offering key)
  | .offering key =>
    if s.isOpen ∧ s.line.length < p.room then
      some ({ s with line := s.line ++ [(i, key)] }, .told key true)
    else some (s, .dropping key)
  | .dropping key =>
    some ({ s with
      counters := s.counters.record .prefetchDropped, dropped := s.dropped ++ [(i, key)] },
      .told key false)
  | .sealing => some ({ s with isOpen := false }, .locking)
  | .locking =>
    match s.handle with
    | .kept => some ({ s with handle := .held }, .joining)
    | .held => none
    | .spent => some (s, .returned)
  | .joining =>
    if s.worker = .gone then some ({ s with handle := .spent }, .returned) else none
  | .told .. | .returned => none

/-- The step of the worker, if it has one. It waits while the queue is empty and open. -/
def work (s : State) : Option State :=
  match s.worker, s.line with
  | .waiting, entry :: rest => some { s with worker := .handling entry, line := rest }
  | .waiting, [] => if s.isOpen then none else some { s with worker := .gone }
  | .handling entry, _ =>
    some { s with
      counters := s.counters.record .prefetchProcessed, worker := .waiting
      processed := s.processed ++ [entry] }
  | .gone, _ => none

/-- One step, if the party whose turn it is has one. -/
def step (p : Prefetching) (s : State) : Turn → Option State
  | .caller i => do
    let (s, c) ← p.act s i (← s.callers[i]?)
    some { s with callers := s.callers.set i c }
  | .worker => work s

/-- One step after the other. -/
def run (p : Prefetching) (s : State) (turns : List Turn) : Option State := turns.foldlM p.step s

end Prefetching
end Triage.Cache
