/-
Caches with expiry.

A cache maps keys to values, each of which may expire. All kinds of cache answer alike: an entry
that has expired is removed when it is read, and counts as a miss. What a store fails to do is
counted and otherwise ignored, so that a broken cache never breaks its user. A cache that keeps
nothing counts nothing either.

A read is made of two steps: looking up an entry, and removing one that turned out not to be of
use.
-/
import Triage.Cache.Backend
import Triage.Cache.Prefetch
import Triage.Cache.Storage
namespace Triage

open Triage.Cache Triage.MessagePack

/-- Where an open cache finds its entries. -/
inductive Cache.Place
  | nowhere
  | memory (entries : SortedMap Envelope)
  | table (bucket : String)
  | partition (bucket : String) (generation : Nat)

/-- An open cache. -/
structure Cache where
  place : Cache.Place
  counters : Cache.Counters := {}
  queue : Cache.PrefetchQueue

/-- An open cache together with the directory in which it may keep its entries. -/
structure Cache.Session where
  cache : Cache
  storage : Cache.Storage

namespace Cache

/-- What looking up an entry may find. -/
inductive Finding
  | absent
  | live (value : Bytes)
  | expired
  | undecodable
  | unreadable
  deriving Repr, DecidableEq

namespace Finding

/-- What an envelope amounts to at a time. -/
def ofEnvelope (now : Int) (e : Envelope) : Finding :=
  if e.isExpired now then expired else live e.value

/-- What stored bytes amount to at a time. -/
def ofBytes (now : Int) (bytes : Bytes) : Finding :=
  match Envelope.decode? bytes with
  | some e => ofEnvelope now e
  | none => undecodable

/-- The value that was found. -/
def value? : Finding → Option Bytes
  | live value => some value
  | _ => none

/-- Whether the entry is of no further use. -/
def isStale : Finding → Bool
  | expired | undecodable => true
  | _ => false

/-- What is counted for a finding. -/
def events : Finding → List Event
  | live _ => [.hit]
  | absent | expired => [.miss]
  | undecodable | unreadable => [.error, .miss]

end Finding

/-! ### Places -/

namespace Place

/-- The kind of cache that has its entries there. -/
def backend : Place → Backend
  | nowhere => .null
  | memory _ => .memory
  | table _ => .sqlite
  | partition .. => .lsm

/-- Looks up an entry. -/
def find (place : Place) (storage : Storage) (now : Int) (key : String) : Finding :=
  match place with
  | nowhere => .absent
  | memory entries =>
    match entries.get? key with
    | some e => .ofEnvelope now e
    | none => .absent
  | table bucket =>
    match storage.table? bucket with
    | none => .unreadable
    | some rows =>
      match rows.get? key with
      | some row => .ofBytes now row.blob
      | none => .absent
  | partition bucket generation =>
    match (storage.partition? (Storage.partitionName bucket generation)).bind (·.get? key) with
    | some bytes => .ofBytes now bytes
    | none => .absent

/-- Puts an entry in. This fails where there is no table or partition to put it. -/
def store (place : Place) (storage : Storage) (key : String) (e : Envelope) :
    Option (Place × Storage) :=
  match place with
  | nowhere => some (nowhere, storage)
  | memory entries => some (memory (entries.insert key e), storage)
  | table bucket =>
    (storage.updateTable? bucket (·.insert key ⟨e.encode, e.expiresAt⟩)).map (table bucket, ·)
  | partition bucket generation =>
    (storage.updatePartition? (Storage.partitionName bucket generation)
      (·.insert key e.encode)).map (partition bucket generation, ·)

/-- Removes an entry. This fails where there is no table or partition. -/
def remove (place : Place) (storage : Storage) (key : String) : Option (Place × Storage) :=
  match place with
  | nowhere => some (nowhere, storage)
  | memory entries => some (memory (entries.erase key), storage)
  | table bucket => (storage.updateTable? bucket (·.erase key)).map (table bucket, ·)
  | partition bucket generation =>
    (storage.updatePartition? (Storage.partitionName bucket generation) (·.erase key)).map
      (partition bucket generation, ·)

/-- Removes an entry that was found to be of no use. In memory it is looked at once more, because it
may have been replaced in the meantime. -/
def evict (place : Place) (storage : Storage) (now : Int) (key : String) :
    Option (Place × Storage) :=
  match place with
  | memory entries =>
    if (entries.get? key).any (·.isExpired now) then some (memory (entries.erase key), storage)
    else some (place, storage)
  | place => place.remove storage key

/-- Removes all entries. -/
def empty (place : Place) (storage : Storage) : Place × Storage :=
  match place with
  | nowhere => (nowhere, storage)
  | memory _ => (memory .empty, storage)
  | table bucket => (table bucket, storage.putTable bucket .empty)
  | partition bucket generation =>
    let (storage, next) := storage.nextGeneration bucket generation
    (partition bucket next, storage)

end Place

/-! ### Opening -/

/-- Opens a cache in a directory without looking at the settings. Some names cannot be those of
tables; `none` stands for that. -/
def openIn (backend : Backend) (bucket : String) (queueSize : Nat) (storage : Storage) :
    Option Session :=
  let queue := PrefetchQueue.withCapacity queueSize
  match backend with
  | .null => some ⟨{ place := .nowhere, queue }, storage⟩
  | .memory => some ⟨{ place := .memory .empty, queue }, storage⟩
  | .sqlite =>
    if Storage.isTableName bucket then
      some ⟨{ place := .table bucket, queue }, storage.ensureTable bucket⟩
    else none
  | .lsm =>
    let (storage, generation) := storage.openPartitions bucket
    some ⟨{ place := .partition bucket generation, queue }, storage⟩

/-- Opens the cache that settings ask for, given what the directory holds, or why there can be no
such directory. -/
def ofSettings (settings : Settings) (directory : Except FileFault Storage) :
    Except CacheFault Session := do
  settings.validate
  let storage ←
    match directory with
    | .ok storage => pure storage
    | .error fault =>
      if settings.backend.isPersistent then throw (.file fault) else pure ({} : Storage)
  match openIn settings.backend settings.bucket settings.queueSize storage with
  | some session => return session
  | none => throw (.refusedTable settings.bucket)

/-- The kind of a cache. -/
def backend (c : Cache) : Backend := c.place.backend

namespace Session

/-! ### Operations -/

/-- Counts events; a cache that keeps nothing counts none. -/
def record (s : Session) (events : List Event) : Session :=
  match s.cache.place with
  | .nowhere => s
  | _ => { s with cache := { s.cache with counters := s.cache.counters.recordAll events } }

/-- Takes over new places of entries, or counts an error where there are none. -/
def moveTo (s : Session) : Option (Place × Storage) → Session
  | some (place, storage) => { cache := { s.cache with place }, storage }
  | none => s.record [.error]

/-- Reads an entry. -/
def get (s : Session) (now : Int) (key : String) : Option Bytes × Session :=
  let finding := s.cache.place.find s.storage now key
  let s := s.record (.get :: finding.events)
  (finding.value?,
    if finding.isStale then s.moveTo (s.cache.place.evict s.storage now key) else s)

/-- Stores a value for so many milliseconds, or for ever. -/
def set (s : Session) (now : Int) (key : String) (value : Bytes) (ttl : Option Nat) : Session :=
  let s := s.record [.set]
  s.moveTo (s.cache.place.store s.storage key (Envelope.wrap now ttl value))

/-- Deletes an entry. -/
def delete (s : Session) (key : String) : Session :=
  let s := s.record [.delete]
  s.moveTo (s.cache.place.remove s.storage key)

/-- Deletes all entries. -/
def clear (s : Session) : Session :=
  let s := s.record [.clear]
  s.moveTo (some (s.cache.place.empty s.storage))

/-- Puts the queue into a new state and counts what happened. -/
def withQueue (s : Session) (change : PrefetchQueue × List Event) : Session :=
  ({ s with cache := { s.cache with queue := change.1 } } : Session).record change.2

/-- Asks for a key to be fetched ahead, and waits until it is processed. -/
def prefetch (s : Session) (key : String) : Session :=
  let s := s.withQueue (s.cache.queue.enqueue key)
  s.withQueue s.cache.queue.processAll

/-- Ends the fetching ahead. Closing a cache again does nothing. -/
def close (s : Session) : Session := s.withQueue s.cache.queue.close

/-- Whether a row has expired at a time by the copy of its expiry. -/
def isPurged (now : Int) (row : Row) : Bool := row.expiresAt.any (· ≤ now)

/-- Removes all expired rows of a table, and tells how many there were. -/
def purge (s : Session) (now : Int) : Nat × Session :=
  match s.cache.place with
  | .table bucket =>
    match s.storage.table? bucket with
    | none => (0, s.record [.error])
    | some rows =>
      let kept := rows.filter fun row => !isPurged now row
      (rows.toList.length - kept.toList.length,
        { s with storage := s.storage.putTable bucket kept })
  | _ => (0, s)

/-- How many entries a cache in memory holds, expired ones included. -/
def size (s : Session) : Nat :=
  match s.cache.place with
  | .memory entries => entries.toList.length
  | _ => 0

end Session
end Cache
end Triage
