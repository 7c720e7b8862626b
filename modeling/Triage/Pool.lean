/-
Workers on shared slots.

Workers claim slots from a shared cursor, work on one slot at a time and send what comes of it into
a bounded channel, which a single consumer empties. The channel is over when the last worker has
left. At the deadline the consumer raises a flag, closes the channel and keeps what is still in it;
a worker that sees the flag or finds the channel closed leaves. Every step of a worker or of the
consumer is atomic, and steps of different parties may come in any order.
-/
import Triage.Deadline
namespace Triage

/-- What a pool is asked to do: the number of slots, of workers and of results that the channel
holds, and what a slot yields. -/
structure Pool (β : Type) where
  slots : Nat
  workers : Nat
  capacity : Nat
  work : Nat → Option β

namespace Pool

variable {β : Type}

/-- How many workers there are: at least one, otherwise not more than slots. -/
def crew (p : Pool β) : Nat := max 1 (min p.workers p.slots)

/-- How many results the channel holds: at least one. -/
def room (p : Pool β) : Nat := max 1 p.capacity

/-- What a worker does next. -/
inductive Worker (β : Type)
  | looking
  | claiming
  | working (slot : Nat)
  | sending (result : β)
  | gone
  deriving Repr, DecidableEq

/-- Whether a worker has left. -/
def Worker.isGone : Worker β → Bool
  | gone => true
  | _ => false

/-- What the consumer does next; a consumer that has returned does nothing more. -/
inductive Consumer
  | receiving
  | closing
  | draining
  | counting (timedOut : Bool)
  | returned (processed : Nat) (timedOut : Bool)
  deriving Repr, DecidableEq

/-- A pool at work. The results in the channel come in the order in which they were sent, and the
slots that were worked on in the order in which that was done. -/
structure State (β : Type) where
  cursor : Nat := 0
  processed : Nat := 0
  cancelled : Bool := false
  closed : Bool := false
  channel : List β := []
  results : List β := []
  worked : List Nat := []
  workers : List (Worker β)
  consumer : Consumer := .receiving

/-- Whose step it is: that of a worker, of the consumer, or of the deadline. -/
inductive Turn
  | worker (index : Nat)
  | consumer
  | deadline
  deriving Repr, DecidableEq

/-- The pool before the first step. -/
def start (p : Pool β) : State β := { workers := List.replicate p.crew .looking }

/-- The step of a worker, if it has one: the state without the worker, and what the worker does
after that. A result waits while the channel is full. -/
def act (p : Pool β) (s : State β) : Worker β → Option (State β × Worker β)
  | .looking => some (s, if s.cancelled then .gone else .claiming)
  | .claiming =>
    some ({ s with cursor := s.cursor + 1 },
      if s.cursor < p.slots then .working s.cursor else .gone)
  | .working slot =>
    some ({ s with processed := s.processed + 1, worked := s.worked ++ [slot] },
      match p.work slot with
      | some result => .sending result
      | none => .looking)
  | .sending result =>
    if s.closed then some (s, .gone)
    else if s.channel.length < p.room then
      some ({ s with channel := s.channel ++ [result] }, .looking)
    else none
  | .gone => none

/-- The step of the consumer, if it has one. A consumer that receives waits while the channel is
empty and there are workers. -/
def consume (s : State β) : Option (State β) :=
  match s.consumer, s.channel with
  | .receiving, result :: rest =>
    some { s with channel := rest, results := s.results ++ [result] }
  | .receiving, [] =>
    if s.workers.all Worker.isGone then some { s with consumer := .counting false }
    else none
  | .closing, _ => some { s with closed := true, consumer := .draining }
  | .draining, result :: rest =>
    some { s with channel := rest, results := s.results ++ [result] }
  | .draining, [] => some { s with consumer := .counting true }
  | .counting timedOut, _ => some { s with consumer := .returned s.processed timedOut }
  | .returned .., _ => none

/-- One step of the pool, if the party whose turn it is has one. -/
def step (p : Pool β) (s : State β) : Turn → Option (State β)
  | .worker i => do
    let (s, w) ← p.act s (← s.workers[i]?)
    some { s with workers := s.workers.set i w }
  | .consumer => consume s
  | .deadline =>
    if s.consumer = .receiving then some { s with cancelled := true, consumer := .closing }
    else none

/-- What the pool returned, if it has. -/
def State.outcome? (s : State β) : Option (Outcome β) :=
  match s.consumer with
  | .returned processed timedOut => some ⟨s.results, processed, timedOut⟩
  | _ => none

end Pool
end Triage
