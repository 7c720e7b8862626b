/-
Whatever is done to a cache is confined to its bucket.

An operation on an open cache is a computation on the directory that yields an answer and the
cache as it is afterwards.  Each operation is confined to the locations of the cache, and the
cache stays there; opening a cache is confined to the locations of its bucket.
-/
import Triage.Proofs.Cache.Confined
import Triage.Proofs.Cache.Opening

namespace Triage

open Triage.Cache Triage.Cache.Storage Triage.MessagePack

namespace Cache

/-! ### An open cache -/

/-- The cache when it has counted events. -/
def counted (c : Cache) (events : List Event) : Cache :=
  match c.place with
  | .nowhere => c
  | _ => { c with counters := c.counters.recordAll events }

theorem place_counted (c : Cache) (events : List Event) : (c.counted events).place = c.place := by
  unfold counted
  split <;> rfl

theorem Session.record_mk (c : Cache) (storage : Storage) (events : List Event) :
    Session.record ⟨c, storage⟩ events = ⟨c.counted events, storage⟩ := by
  obtain ⟨place, counters, queue⟩ := c
  cases place <;> rfl

/-- What is done to an open cache, as a computation on the directory. -/
def operate {α : Type} (c : Cache) (f : Session → α × Session) : StateM Storage (α × Cache) :=
  modifyGet fun storage =>
    let (a, s) := f ⟨c, storage⟩
    ((a, s.cache), s.storage)

/-- Whether a cache is at some locations only. -/
def Within (r : Set Location) (c : Cache) : Prop := c.place.locations ⊆ r

variable {α : Type} {r : Set Location} {c : Cache}

theorem Within.counted (h : c.Within r) (events : List Event) : (c.counted events).Within r := by
  rw [Within, place_counted]
  exact h

theorem run_operate (c : Cache) (f : Session → α × Session) (storage : Storage) :
    (c.operate f).run storage =
      (((f ⟨c, storage⟩).1, (f ⟨c, storage⟩).2.cache), (f ⟨c, storage⟩).2.storage) :=
  rfl

/-- What does not look at the directory is confined. -/
theorem confined_of_untouched {f : Session → α × Session} {a : α} {c' : Cache}
    (hf : ∀ storage, f ⟨c, storage⟩ = (a, ⟨c', storage⟩)) (hc' : c'.Within r) :
    Confined r (·.2.Within r) (c.operate f) := by
  have hprogram : c.operate f = pure (a, c') := by
    funext storage
    exact (run_operate c f storage).trans (by rw [hf]; rfl)
  rw [hprogram]
  exact .pure hc'

theorem confined_counted {f : Session → α × Session} {P : α × Cache → Prop} {events : List Event}
    (h : Confined r P ((c.counted events).operate f)) :
    Confined r P (c.operate fun s => f (s.record events)) := by
  have hprogram : (c.operate fun s => f (s.record events)) = (c.counted events).operate f := by
    funext storage
    refine (run_operate c _ storage).trans ?_
    rw [Session.record_mk]
    rfl
  rwa [hprogram]

/-- Moving to where a change leads is confined if the change is. -/
theorem confined_moveTo {f : Place → Storage → Option (Place × Storage)} (hc : c.Within r)
    (h : Confined r (fun o => ∀ place ∈ o, place.locations ⊆ r) (attempt (f c.place))) (a : α) :
    Confined r (·.2.Within r)
      (c.operate fun s => (a, s.moveTo (f s.cache.place s.storage))) := by
  let moved (found : Option Place) : Cache :=
    found.elim (c.counted [.error]) fun place => { c with place }
  have hprogram : (c.operate fun s => (a, s.moveTo (f s.cache.place s.storage))) =
      attempt (f c.place) >>= fun found => pure (a, moved found) := by
    funext storage
    refine (run_operate c _ storage).trans ?_
    show _ = (((a, moved ((attempt (f c.place)).run storage).run.1),
      ((attempt (f c.place)).run storage).run.2) : (α × Cache) × Storage)
    rw [run_attempt]
    cases f c.place storage with
    | none =>
        rw [Session.moveTo, Session.record_mk]
        rfl
    | some _ => rfl
  rw [hprogram]
  refine h.bind fun found hfound => ?_
  cases found with
  | some place => exact .pure (hfound place rfl)
  | none => exact .pure (hc.counted [.error])

/-- What is done to an open cache. -/
inductive Operation
  | get (key : String)
  | set (key : String) (value : Bytes) (ttl : Option Nat)
  | delete (key : String)
  | clear
  | prefetch (key : String)
  | purge
  | close
  | counters
  deriving Repr, DecidableEq

/-- What is heard of a cache. -/
inductive Answer
  | opened (success : Bool)
  | notOpen
  | found (value : Option Bytes)
  | purged (number : Nat)
  | counted (counters : Counters)
  | done
  deriving Repr, DecidableEq

/-- Does something to an open cache at a time. -/
def Operation.perform (now : Int) (s : Session) : Operation → Answer × Session
  | get key => (s.get now key).map .found id
  | set key value ttl => (.done, s.set now key value ttl)
  | delete key => (.done, s.delete key)
  | clear => (.done, s.clear)
  | prefetch key => (.done, s.prefetch key)
  | purge => (s.purge now).map .purged id
  | close => (.done, s.close)
  | counters => (.counted s.cache.counters, s)

theorem confined_get (hc : c.Within r) (now : Int) (key : String) :
    Confined r (·.2.Within r) (c.operate fun s => (s.get now key).map Answer.found id) := by
  let after (finding : Finding) : StateM Storage (Answer × Cache) :=
    (c.counted (.get :: finding.events)).operate fun s => (.found finding.value?,
      if finding.isStale then s.moveTo (s.cache.place.evict s.storage now key) else s)
  refine .of_read after (fun h => c.place.find_congr hc h now key) (fun finding => ?_)
    fun storage => ?_
  · have hcounted := hc.counted (.get :: finding.events)
    unfold after
    cases finding.isStale with
    | true =>
        exact confined_moveTo (f := fun place storage => place.evict storage now key) hcounted
          (Place.confined_evict hcounted now key) _
    | false => exact confined_of_untouched (fun _ => rfl) hcounted
  · rw [run_operate, Session.get]
    simp only [Session.record_mk]
    rfl

theorem confined_purge (hc : c.Within r) (now : Int) :
    Confined r (·.2.Within r) (c.operate fun s => (s.purge now).map Answer.purged id) := by
  obtain ⟨place, counters, queue⟩ := c
  cases place with
  | nowhere | memory | partition => exact confined_of_untouched (fun _ => rfl) hc
  | table bucket =>
      let c : Cache := ⟨.table bucket, counters, queue⟩
      let sweep (rows : Table) : StateM Storage (Answer × Cache) := do
        let kept := rows.filter fun row => !Session.isPurged now row
        modify (putTable · bucket kept)
        return (.purged (rows.toList.length - kept.toList.length), c)
      refine .of_read (fun found => found.elim (pure (.purged 0, c.counted [.error])) sweep)
        (fun h => h.table? (hc rfl)) (fun found => ?_) fun storage => ?_
      · cases found with
        | none => exact .pure (hc.counted [.error])
        | some rows => exact (confined_putTable (hc rfl) _).bind fun _ _ => .pure hc
      · rw [run_operate]
        cases hrows : storage.table? bucket with
        | none =>
            simp only [Session.purge, hrows, Session.record_mk]
            rfl
        | some rows =>
            simp only [Session.purge, hrows]
            rfl

/-- The cache with another queue, when it has counted what happened to it. -/
def queued (c : Cache) (change : PrefetchQueue × List Event) : Cache :=
  { c with queue := change.1 }.counted change.2

theorem Session.withQueue_mk (c : Cache) (storage : Storage)
    (change : PrefetchQueue × List Event) :
    Session.withQueue ⟨c, storage⟩ change = ⟨c.queued change, storage⟩ :=
  record_mk { c with queue := change.1 } storage change.2

theorem Within.queued (h : c.Within r) (change : PrefetchQueue × List Event) :
    (c.queued change).Within r :=
  Within.counted (c := { c with queue := change.1 }) h change.2

/-- Whatever is done to a cache is confined to where it is. -/
theorem confined_perform (hc : c.Within r) (now : Int) (operation : Operation) :
    Confined r (·.2.Within r) (c.operate (operation.perform now)) := by
  cases operation with
  | get key => exact confined_get hc now key
  | set key value ttl =>
      have hcounted := hc.counted [.set]
      exact confined_counted (confined_moveTo (f := fun place storage =>
        place.store storage key (Envelope.wrap now ttl value)) hcounted
        (Place.confined_store hcounted key _) Answer.done)
  | delete key =>
      have hcounted := hc.counted [.delete]
      exact confined_counted (confined_moveTo (f := fun place storage => place.remove storage key)
        hcounted (Place.confined_remove hcounted key) Answer.done)
  | clear =>
      have hcounted := hc.counted [.clear]
      exact confined_counted (confined_moveTo (f := fun place storage => some (place.empty storage))
        hcounted (Place.confined_empty hcounted) Answer.done)
  | prefetch key =>
      have hqueued := hc.queued (c.queue.enqueue key)
      refine confined_of_untouched (a := .done) (fun storage => ?_)
        (hqueued.queued (c.queued (c.queue.enqueue key)).queue.processAll)
      simp only [Operation.perform, Session.prefetch, Session.withQueue_mk]
  | purge => exact confined_purge hc now
  | close =>
      refine confined_of_untouched (a := .done) (fun storage => ?_) (hc.queued c.queue.close)
      simp only [Operation.perform, Session.close, Session.withQueue_mk]
  | counters => exact confined_of_untouched (a := .counted c.counters) (fun _ => rfl) hc

/-! ### Opening -/

/-- Opens the cache that settings ask for, if there can be one. -/
def opening (settings : Settings) : StateM Storage (Option Cache) :=
  attempt fun storage =>
    (ofSettings settings (.ok storage)).toOption.map fun s => (s.cache, s.storage)

theorem confined_openIn {backend : Backend} {bucket : String} (queueSize : Nat)
    (hr : Storage.locations bucket backend ⊆ r) :
    Confined r (fun o => ∀ c ∈ o, c.Within r) (attempt fun storage =>
      (openIn backend bucket queueSize storage).map fun s => (s.cache, s.storage)) := by
  cases backend with
  | null | memory => exact .pure_some hr
  | sqlite =>
      unfold openIn
      by_cases hname : isTableName bucket = true
      · simp only [hname, if_true]
        exact (confined_ensureTable (hr rfl)).bind fun _ _ =>
          .pure_some (a := Cache.mk (.table bucket) {} (.withCapacity queueSize)) hr
      · simp only [hname]
        exact .pure_none
  | lsm =>
      exact (confined_openPartitions hr).bind fun number _ =>
        .pure_some (a := Cache.mk (.partition bucket number) {} (.withCapacity queueSize)) hr

theorem confined_opening {settings : Settings}
    (hr : Storage.locations settings.bucket settings.backend ⊆ r) :
    Confined r (fun o => ∀ c ∈ o, c.Within r) (opening settings) := by
  unfold opening
  cases hvalidate : settings.validate with
  | error fault =>
      have hnone (storage : Storage) : (ofSettings settings (.ok storage)).toOption = none := by
        rw [ofSettings, hvalidate]
        rfl
      simp only [hnone]
      exact .pure_none
  | ok _ =>
      simp only [toOption_ofSettings hvalidate]
      exact confined_openIn settings.queueSize hr

/-- Opening a bucket of tables makes sure that there is a table. -/
theorem run_opening_of_sqlite {settings : Settings} (hbackend : settings.backend = .sqlite)
    (hopen : Opens settings) (storage : Storage) :
    ((opening settings).run storage).run =
      (some ⟨.table settings.bucket, {}, .withCapacity settings.queueSize⟩,
        storage.ensureTable settings.bucket) := by
  have hname := hopen.isTableName hbackend
  simp [opening, attempt, toOption_ofSettings hopen.validate, openIn, hbackend, hname]

end Cache

end Triage
