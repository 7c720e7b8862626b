/-
Every storing cache is the map with expiry.

A session agrees with the reference when its place holds the entries of the reference
and it has counted the same.  Each operation keeps the two in step, whichever kind of
cache it is, and so does opening a cache again where its entries outlive it; a run of any
length then follows by induction.
-/
import Triage.Proofs.Cache.Place

namespace Triage.Cache

open Triage.MessagePack

variable {bucket : String} {backend : Backend} {s : Session} {r : Reference}

/-- Whether an open cache of a kind, opened for a bucket, is in step with the reference. -/
structure Agrees (bucket : String) (backend : Backend) (s : Session) (r : Reference) : Prop where
  counters : s.cache.counters = r.counters
  queue : s.cache.queue.keys = []
  holds : s.cache.place.Holds bucket backend s.storage r.entries
  encodable : Entries.Encodable r.entries
  time : IsTime r.now

/-! ### Entries that can be written -/

theorem Entries.Encodable.replace {m : Entries} (h : m.Encodable) {key : String}
    {entry : Option Envelope} (hentry : ∀ e ∈ entry, e.Encodable) :
    Entries.Encodable (Reference.replace m key entry) := by
  intro other e he
  unfold Reference.replace at he
  split at he
  · exact hentry e he
  · exact h other e he

/-- The reference and the caches tell the same expiry. -/
theorem wrap_eq {now : Int} (hnow : IsTime now) (ttl : Option Nat) (value : Bytes) :
    Envelope.wrap now ttl value = ⟨value, Reference.expiry now ttl⟩ := by
  cases ttl with
  | none => rfl
  | some ttl =>
      obtain ⟨hfirst, hlast⟩ := hnow
      have hexpiry : min (now + min (ttl : Int) lastTime) lastTime =
          Reference.saturate (now + Reference.saturate ttl) := by
        unfold Reference.saturate
        rw [firstTime, lastTime] at *
        omega
      rw [Envelope.wrap, Reference.expiry, Option.map_some, Option.map_some, hexpiry]

theorem isTime_of_mem_expiry {now time : Int} {ttl : Option Nat}
    (h : time ∈ Reference.expiry now ttl) : IsTime time := by
  obtain ⟨ttl, -, rfl⟩ := Option.map_eq_some_iff.1 h
  unfold Reference.saturate IsTime
  rw [firstTime, lastTime]
  omega

theorem isLive_eq (now : Int) (e : Envelope) : Reference.isLive now e = !e.isExpired now := by
  unfold Reference.isLive Envelope.isExpired
  cases e.expiresAt with
  | none => rfl
  | some time =>
      rw [Option.any_some, Bool.eq_iff_iff]
      simp

/-! ### Single operations -/

theorem Agrees.record (h : Agrees bucket backend s r) (events : List Event) :
    Agrees bucket backend (s.record events) (r.count events) := by
  have hcounted : s.record events =
      { s with cache := { s.cache with counters := s.cache.counters.recordAll events } } := by
    unfold Session.record
    split
    · rename_i hnowhere
      have hholds := h.holds
      rw [hnowhere] at hholds
      cases hholds
    · rfl
  rw [hcounted]
  exact ⟨congrArg (Counters.recordAll · events) h.counters, h.queue, h.holds, h.encodable, h.time⟩

theorem Agrees.moveTo (h : Agrees bucket backend s r) {place : Place} {storage : Storage}
    {entries : Entries} (hholds : place.Holds bucket backend storage entries)
    (hentries : entries.Encodable) :
    Agrees bucket backend (s.moveTo (some (place, storage))) { r with entries } :=
  ⟨h.counters, h.queue, hholds, hentries, h.time⟩

theorem Agrees.get (h : Agrees bucket backend s r) (key : String) :
    (s.get r.now key).1 = (r.step (.get key)).1 ∧
      Agrees bucket backend (s.get r.now key).2 (r.step (.get key)).2 := by
  have hfind := h.holds.find h.encodable r.now key
  cases hentry : r.entries key with
  | none =>
      rw [hentry, Place.found] at hfind
      rw [Reference.step_get_of_none hentry]
      simp only [Session.get, hfind]
      exact ⟨rfl, h.record [.get, .miss]⟩
  | some e =>
      rw [hentry, Place.found, Finding.ofEnvelope] at hfind
      by_cases hexpired : e.isExpired r.now = true
      · rw [if_pos hexpired] at hfind
        rw [Reference.step_get_of_not_live hentry (by rw [isLive_eq, hexpired]; rfl)]
        have hrecord := h.record [.get, .miss]
        obtain ⟨place, storage, hevict, hholds⟩ := hrecord.holds.evict hentry hexpired
        have hmove := hrecord.moveTo hholds (h.encodable.replace nofun)
        rw [← hevict] at hmove
        simp only [Session.get, hfind]
        exact ⟨rfl, hmove⟩
      · rw [if_neg hexpired] at hfind
        rw [Reference.step_get_of_live hentry (by rw [isLive_eq]; simpa using hexpired)]
        simp only [Session.get, hfind]
        exact ⟨rfl, h.record [.get, .hit]⟩

theorem Agrees.set (h : Agrees bucket backend s r) (key : String) {value : Bytes}
    (hvalue : value.length < UInt32.size) (ttl : Option Nat) :
    Agrees bucket backend (s.set r.now key value ttl) (r.step (.set key value ttl)).2 := by
  have hrecord := h.record [.set]
  obtain ⟨place, storage, hstore, hholds⟩ :=
    hrecord.holds.store key ⟨value, Reference.expiry r.now ttl⟩
  simp only [Session.set, wrap_eq h.time, hstore]
  exact hrecord.moveTo hholds (h.encodable.replace fun e he => by
    cases he
    exact ⟨hvalue, fun time htime => isTime_of_mem_expiry htime⟩)

theorem Agrees.delete (h : Agrees bucket backend s r) (key : String) :
    Agrees bucket backend (s.delete key) (r.step (.delete key)).2 := by
  have hrecord := h.record [.delete]
  obtain ⟨place, storage, hremove, hholds⟩ := hrecord.holds.remove key
  simp only [Session.delete, hremove]
  exact hrecord.moveTo hholds (h.encodable.replace nofun)

theorem Agrees.clear (h : Agrees bucket backend s r) :
    Agrees bucket backend s.clear (r.step .clear).2 := by
  have hrecord := h.record [.clear]
  exact hrecord.moveTo hrecord.holds.empty nofun

/-- Nothing is queued, so that closing counts nothing. -/
theorem Agrees.close (h : Agrees bucket backend s r) : Agrees bucket backend s.close r := by
  have hevents : s.cache.queue.close.2 = [] := by
    simp [PrefetchQueue.close, PrefetchQueue.processAll, h.queue]
  have hclosed : Agrees bucket backend
      { s with cache := { s.cache with queue := s.cache.queue.close.1 } } r :=
    ⟨h.counters, rfl, h.holds, h.encodable, h.time⟩
  have hrecord := hclosed.record []
  unfold Session.close Session.withQueue
  rw [hevents]
  exact hrecord

/-! ### Opening -/

/-- A cache that was just opened has counted nothing and has nothing queued. -/
theorem agrees_of_place {place : Place} {storage : Storage} {m : Entries} {now : Int}
    (queueSize : Nat) (hnow : IsTime now) (hholds : place.Holds bucket backend storage m)
    (hm : m.Encodable) :
    Agrees bucket backend ⟨{ place, queue := .withCapacity queueSize }, storage⟩
      { entries := m, now } :=
  ⟨rfl, rfl, hholds, hm, hnow⟩

/-- A storing cache starts in step with the empty reference. -/
theorem agrees_openIn {queueSize : Nat} {now : Int} (hnow : IsTime now)
    (hstoring : backend ≠ .null) (hopen : openIn backend bucket queueSize {} = some s) :
    Agrees bucket backend s { now } := by
  unfold openIn at hopen
  cases backend with
  | null => exact absurd rfl hstoring
  | memory =>
      cases hopen
      exact agrees_of_place queueSize hnow (.memory fun _ => rfl) nofun
  | sqlite =>
      simp only at hopen
      split at hopen
      · rename_i hname
        cases hopen
        refine agrees_of_place queueSize hnow (.table hname (Storage.table?_ensureTable ..) ?_) nofun
        exact fun _ => rfl
      · cases hopen
  | lsm =>
      obtain ⟨hnumber, hlive⟩ : (Storage.openPartitions {} bucket).2 = 0 ∧
          (Storage.openPartitions {} bucket).1.InGeneration bucket 0 .empty :=
        Storage.inGeneration_openPartitions (by decide) rfl fun _ _ _ => rfl
      cases hopen
      rw [← hnumber] at hlive
      exact agrees_of_place queueSize hnow (.partition hlive fun _ => rfl) nofun

/-- A cache whose entries outlive it is opened again with all of them, and counts anew. -/
theorem Agrees.reopen (h : Agrees bucket backend s r) (hpersistent : backend.isPersistent = true)
    (queueSize : Nat) :
    ∃ s', openIn backend bucket queueSize s.storage = some s' ∧
      Agrees bucket backend s' (r.step .reopen).2 := by
  have hholds := h.holds
  generalize s.cache.place = place at hholds
  cases hholds with
  | memory => cases hpersistent
  | table hname htable hrows =>
      refine ⟨_, if_pos hname, agrees_of_place queueSize h.time (.table hname ?_ hrows)
        h.encodable⟩
      rw [Storage.table?_ensureTable, htable, Option.getD_some]
  | @partition number entries _ _ hlive hentries =>
      obtain ⟨hnumber, hlive'⟩ := Storage.inGeneration_openPartitions hlive.small hlive.recorded
        hlive.alone
      rw [hlive.live, Option.getD_some] at hlive'
      rw [← hnumber] at hlive'
      exact ⟨_, rfl, agrees_of_place queueSize h.time (.partition hlive' hentries) h.encodable⟩

/-! ### Runs -/

/-- Whether a request can be made: values are short enough, and the clock tells times. -/
def Request.IsValid : Request → Prop
  | .set _ value _ => value.length < UInt32.size
  | .clock now => IsTime now
  | _ => True

instance : (request : Request) → Decidable request.IsValid
  | .set _ value _ => inferInstanceAs (Decidable (value.length < UInt32.size))
  | .clock now => inferInstanceAs (Decidable (IsTime now))
  | .get _ | .delete _ | .clear | .close | .reopen => .isTrue trivial

/-- Whether a client is in step with the reference. -/
structure Client.InStep (c : Client) (r : Reference) : Prop where
  agrees : Agrees c.settings.bucket c.settings.backend c.session r
  now : c.now = r.now

theorem Client.InStep.step {c : Client} (h : c.InStep r) {request : Request}
    (hvalid : request.IsValid)
    (hreopen : request = .reopen → c.settings.backend.isPersistent = true) :
    ∃ c', c.step request = some ((r.step request).1, c') ∧ c'.InStep (r.step request).2 ∧
      c'.settings = c.settings := by
  obtain ⟨hagrees, hnow⟩ := h
  cases request with
  | get key =>
      obtain ⟨hvalue, hget⟩ := hagrees.get key
      rw [← hnow] at hvalue hget
      refine ⟨{ c with session := (c.session.get c.now key).2 }, ?_,
        ⟨hget, hnow.trans (r.now_step_get key).symm⟩, rfl⟩
      rw [← hvalue]
      rfl
  | set key value ttl =>
      have hset := hagrees.set key hvalid ttl
      rw [← hnow] at hset
      exact ⟨_, rfl, ⟨hset, hnow⟩, rfl⟩
  | delete key => exact ⟨_, rfl, ⟨hagrees.delete key, hnow⟩, rfl⟩
  | clear => exact ⟨_, rfl, ⟨hagrees.clear, hnow⟩, rfl⟩
  | close => exact ⟨_, rfl, ⟨hagrees.close, hnow⟩, rfl⟩
  | clock now =>
      exact ⟨_, rfl, ⟨⟨hagrees.counters, hagrees.queue, hagrees.holds, hagrees.encodable, hvalid⟩,
        rfl⟩, rfl⟩
  | reopen =>
      obtain ⟨s', hopen, hagrees'⟩ := hagrees.reopen (hreopen rfl) c.settings.queueSize
      refine ⟨{ c with session := s' }, ?_, ⟨hagrees', hnow⟩, rfl⟩
      rw [Client.step, hopen]
      rfl

theorem Client.InStep.run {c : Client} (h : c.InStep r) {requests : List Request}
    (hvalid : ∀ request ∈ requests, request.IsValid)
    (hreopen : .reopen ∈ requests → c.settings.backend.isPersistent = true) :
    ∃ c', c.run requests = some ((r.run requests).1, c') ∧ c'.InStep (r.run requests).2 := by
  induction requests generalizing c r with
  | nil => exact ⟨c, rfl, h⟩
  | cons request rest ih =>
      obtain ⟨c₁, hstep, hinstep, hsettings⟩ := h.step (hvalid request List.mem_cons_self)
        fun hrequest => hreopen (hrequest ▸ List.mem_cons_self)
      obtain ⟨c', hrun, hinstep'⟩ := ih hinstep
        (fun other hother => hvalid other (List.mem_cons_of_mem _ hother))
        fun hrest => hsettings ▸ hreopen (List.mem_cons_of_mem _ hrest)
      refine ⟨c', ?_, hinstep'⟩
      rw [Client.run, hstep]
      simp only [Option.bind_eq_bind, Option.bind_some, hrun]
      rfl

/--
**Every storing cache is the map with expiry.**  Opened where there is nothing yet, a
cache in memory, in a table or in partitions answers every read as the reference does and
counts what it counts, whatever is done to it and wherever the clock moves; the two kinds
that outlive the program may be dropped and opened again at any time.  So the three are
alike, every read is a hit or a miss, and nothing ever goes wrong.
-/
theorem run_eq_reference (settings : Settings) (now : Int) (requests : List Request) (c : Client)
    (hopen : Client.start settings now = some c) (hstoring : settings.backend ≠ .null)
    (hnow : IsTime now) (hvalid : ∀ request ∈ requests, request.IsValid)
    (hreopen : .reopen ∈ requests → settings.backend.isPersistent = true) :
    ∃ c', c.run requests = some ((Reference.run { now } requests).1, c') ∧
      c'.session.cache.counters = (Reference.run { now } requests).2.counters ∧
      c'.session.cache.counters.gets =
        c'.session.cache.counters.hits + c'.session.cache.counters.misses ∧
      c'.session.cache.counters.errors = 0 := by
  obtain ⟨s, hs, rfl⟩ := Option.map_eq_some_iff.1 hopen
  have hstart : Client.InStep ⟨settings, s, now⟩ { now } := ⟨agrees_openIn hnow hstoring hs, rfl⟩
  obtain ⟨c', hrun, hinstep⟩ := hstart.run hvalid hreopen
  have hcounters := hinstep.agrees.counters
  have hbalanced := Reference.balanced_run (r := { now }) ⟨rfl, rfl⟩ requests
  rw [← hcounters] at hbalanced
  exact ⟨c', hrun, hcounters, hbalanced.reads, hbalanced.errors⟩

/-- A value is read in the last millisecond before it expires, from a bucket that was emptied and
opened again; then it is gone, also when the clock is set back. -/
theorem run_eq_reference_expired :
    let settings : Settings := { backend := .lsm }
    let requests : List Request := [.set "a" [7] none, .clear, .set "a" [8] (some 10), .clock 9,
      .reopen, .get "a", .clock 10, .get "a", .clock 0, .get "a"]
    ∃ c c', Client.start settings 0 = some c ∧
      c.run requests =
        some ([none, none, none, none, none, some [8], none, none, none, none], c') ∧
      c'.session.cache.counters = { gets := 3, hits := 1, misses := 2 } := by
  intro settings requests
  obtain ⟨c, hopen⟩ : ∃ c, Client.start settings 0 = some c := ⟨_, rfl⟩
  have hvalid : ∀ request ∈ requests, request.IsValid := by decide
  obtain ⟨c', hrun, hcounters, -, -⟩ := run_eq_reference settings 0 requests c hopen (by decide)
    (by decide) hvalid fun _ => rfl
  exact ⟨c, c', hopen, hrun, hcounters⟩

end Triage.Cache
