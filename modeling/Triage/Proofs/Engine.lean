/-
Every way of filtering gives what the plain filter gives.

A filter may name a bucket as long as everything that it accepts is in the bucket; then
the candidates hold all that is accepted, in the order of the list.  What is accepted of
them comes out of the inline run in that order and out of the pool in some order, each
occurrence once, whatever the settings are.  Where there are enough candidates for the pool, the
program runs one of its schedules.
-/
import Triage.Engine
import Triage.Proofs.Deadline
import Triage.Proofs.Index
import Triage.Proofs.Pool.Schedule

namespace Triage

namespace Engine

variable {settings : EngineSettings} {key : Option IndexKey} {accept : Notification → Bool}
  {list : List Notification}

/-! ### The candidates

A filter that names a bucket promises that the bucket holds all that it accepts.
-/

/-- Whether all notifications of a list that are accepted belong to the bucket, if there is one. -/
def Covers (key : Option IndexKey) (accept : Notification → Bool) (list : List Notification) :
    Prop :=
  ∀ k, key = some k → ∀ n ∈ list, accept n = true → k ∈ n.keys

theorem candidates_of_key {k : IndexKey} (hindex : settings.useIndexes = true) :
    candidates settings (some k) list = list.filter fun n => k ∈ n.keys := by
  rw [candidates, if_pos hindex, ← Index.filterMap_lookup_ofList]
  simp

/-- Going by the index leaves out nothing that is accepted. -/
theorem filter_candidates (hcover : Covers key accept list) :
    (candidates settings key list).filter accept = list.filter accept := by
  by_cases hindex : settings.useIndexes = true
  · cases key with
    | none => rw [candidates, if_pos hindex]
    | some k =>
        rw [candidates_of_key hindex, List.filter_filter]
        refine List.filter_congr fun n hn => ?_
        by_cases haccept : accept n = true
        · simp [haccept, hcover k rfl n hn haccept]
        · simp [haccept]
  · rw [candidates, if_neg hindex]

/-! ### Inline and with workers -/

theorem filterMap_accept (accept : Notification → Bool) (items : List Notification) :
    items.filterMap (fun n => if accept n = true then some n else none) = items.filter accept :=
  congrFun List.filterMap_eq_filter items

/-- Filtering works on the candidates before the deadline. -/
theorem select_eq (settings : EngineSettings) (timing : Timing) (key : Option IndexKey)
    (accept : Notification → Bool) (list : List Notification) :
    let items := candidates settings key list
    let k := reached (timing.stops settings.timeoutMs settings.batchSize items.length) 0
      items.length
    select (m := Id) settings timing key (fun n => pure (accept n)) list =
      if k < items.length then .error ⟨(items.take k).filter accept, k, items.length⟩
      else .ok ((items.take k).filter accept) := by
  intro items k
  let work (n : Notification) : Option Notification := if accept n = true then some n else none
  have hresults : ((items.take k).map work).flatMap Option.toList =
      (items.take k).filter accept := by
    rw [← filterMap_accept, List.flatMap_map, List.filterMap_eq_flatMap_toList]
  have hrun : workUnder (m := Id) timing settings.timeoutMs settings.batchSize
      (fun n => pure (work n)) items =
        ⟨(items.take k).filter accept, k, decide (k < items.length)⟩ := by
    rw [workUnder, workThrough_eq, List.mapM_pure, map_pure, hresults, Nat.zero_add]
    rfl
  simp only [select, pure_bind]
  show answer items (workUnder (m := Id) timing settings.timeoutMs settings.batchSize
    (fun n => pure (work n)) items) = _
  rw [hrun, answer]
  by_cases hcut : k < items.length <;> simp [hcut]

/-- A run that is not stopped takes what is accepted of the candidates, in order. -/
theorem select_of_in_time {timing : Timing} (htime : ∀ k < (candidates settings key list).length,
    timing.stops settings.timeoutMs settings.batchSize (candidates settings key list).length k =
      false) :
    select (m := Id) settings timing key (fun n => pure (accept n)) list =
      .ok ((candidates settings key list).filter accept) := by
  have hselect := select_eq settings timing key accept list
  simp only [reached_of_not_stopped htime, Nat.lt_irrefl, if_false, List.take_length] at hselect
  exact hselect

/-- That is what is accepted of the whole list. -/
theorem select_of_not_stopped {timing : Timing} (hcover : Covers key accept list)
    (htime : ∀ k < (candidates settings key list).length,
      timing.stops settings.timeoutMs settings.batchSize (candidates settings key list).length k =
        false) :
    select (m := Id) settings timing key (fun n => pure (accept n)) list =
      .ok (list.filter accept) := by
  rw [select_of_in_time htime, filter_candidates hcover]

/-- The first slots of the pool yield what is accepted of the first candidates. -/
theorem filterMap_work_take (settings : EngineSettings) (accept : Notification → Bool)
    {items : List Notification} {k : Nat} (h : k ≤ items.length) :
    (List.range k).filterMap (pool settings accept items).work = (items.take k).filter accept := by
  have hwork : (pool settings accept items).work =
      fun slot => items[slot]?.bind fun n => if accept n = true then some n else none := by
    funext slot
    show items[slot]?.filter accept = _
    cases items[slot]? <;> rfl
  rw [hwork, Pool.filterMap_range_take h, filterMap_accept]

/-- The slots of the pool yield what is accepted of the candidates. -/
theorem filterMap_work_pool (settings : EngineSettings) (accept : Notification → Bool)
    (items : List Notification) :
    (List.range items.length).filterMap (pool settings accept items).work =
      items.filter accept := by
  rw [filterMap_work_take settings accept (Nat.le_refl _), List.take_length]

/-- **The run of the program is one schedule of the pool.**  Wherever the deadline falls, there are
turns of the workers, however many there are, after which the pool answers what the run does. -/
theorem exists_run_eq_select (settings : EngineSettings) (timing : Timing) (key : Option IndexKey)
    (accept : Notification → Bool) (list : List Notification) :
    let items := candidates settings key list
    ∃ turns s o, (pool settings accept items).run turns = some s ∧ s.outcome? = some o ∧
      answer items o = select (m := Id) settings timing key (fun n => pure (accept n)) list := by
  intro items
  let k := reached (timing.stops settings.timeoutMs settings.batchSize items.length) 0 items.length
  have hk : k ≤ items.length := reached_le _ _ _
  obtain ⟨turns, s, hrun, houtcome⟩ :=
    Pool.exists_run_as_loop (p := pool settings accept items) (k := k) hk
  rw [filterMap_work_take settings accept hk] at houtcome
  have hselect : select (m := Id) settings timing key (fun n => pure (accept n)) list =
      if k < items.length then .error ⟨(items.take k).filter accept, k, items.length⟩
      else .ok ((items.take k).filter accept) := select_eq settings timing key accept list
  refine ⟨turns, s, _, hrun, houtcome, ?_⟩
  rw [hselect]
  show (if decide (k < items.length) = true then _ else _) = _
  by_cases hcut : k < items.length <;> simp [hcut]

/-- **A pool with one worker answers what the run of the program does**, in time and whatever turns
the worker and the consumer take. -/
theorem inevitable_select {timing : Timing} (hone : settings.concurrency = 1)
    (htime : ∀ k < (candidates settings key list).length,
      timing.stops settings.timeoutMs settings.batchSize (candidates settings key list).length k =
        false) :
    let p := pool settings accept (candidates settings key list)
    Inevitable p.Quiet (fun s => ∃ o, s.outcome? = some o ∧
      answer (candidates settings key list) o =
        select (m := Id) settings timing key (fun n => pure (accept n)) list) p.start := by
  intro p
  refine (Pool.inevitable_complete p).imp ?_
  rintro s ⟨o, h⟩
  refine ⟨o, h.returned, ?_⟩
  rw [select_of_in_time htime, answer, h.inTime, h.inOrder (Pool.crew_of_one hone)]
  exact congrArg Except.ok (filterMap_work_pool settings accept _)

/-- What comes of a pool that is in time: all that is accepted, with one worker in order. -/
theorem answer_of_complete {s : Pool.State Notification} {o : Outcome Notification}
    (hcover : Covers key accept list)
    (h : Pool.Complete (pool settings accept (candidates settings key list)) s o) :
    ∃ kept, answer (candidates settings key list) o = .ok kept ∧
      kept.Perm (list.filter accept) ∧
      (settings.concurrency = 1 → kept = list.filter accept) := by
  have hslots : (List.range (pool settings accept (candidates settings key list)).slots).filterMap
      (pool settings accept (candidates settings key list)).work = list.filter accept :=
    (filterMap_work_pool ..).trans (filter_candidates hcover)
  refine ⟨o.results, ?_, hslots ▸ h.results, fun hone => ?_⟩
  · rw [answer, h.inTime]
    rfl
  · exact (h.inOrder (Pool.crew_of_one hone)).trans hslots

/--
**Every way of filtering agrees with the plain filter.**  When no deadline is hit, a run
takes what is accepted, each occurrence once and in order; if there are candidates enough
for the pool, its workers may take turns in any order, and it always comes to an answer,
which is the same up to order and exactly the same with one worker.  The settings decide
which way is taken and not what comes of it.
-/
theorem select_eq_filter (settings : EngineSettings) (timing : Timing) (key : Option IndexKey)
    (accept : Notification → Bool) (list : List Notification) (hcover : Covers key accept list)
    (htime : ∀ k < (candidates settings key list).length,
      timing.stops settings.timeoutMs settings.batchSize (candidates settings key list).length k =
        false) :
    select (m := Id) settings timing key (fun n => pure (accept n)) list =
        .ok (list.filter accept) ∧
      (settings.batchSize ≤ (candidates settings key list).length →
        let p := pool settings accept (candidates settings key list)
        Inevitable p.Quiet (fun s => ∃ o kept, s.outcome? = some o ∧
          answer (candidates settings key list) o = .ok kept ∧
          kept.Perm (list.filter accept) ∧
          (settings.concurrency = 1 → kept = list.filter accept)) p.start) := by
  refine ⟨select_of_not_stopped hcover htime, fun _ => ?_⟩
  refine (Pool.inevitable_complete _).imp ?_
  rintro s ⟨o, h⟩
  obtain ⟨kept, hanswer, hperm, hone⟩ := answer_of_complete hcover h
  exact ⟨o, kept, h.returned, hanswer, hperm, hone⟩

/-- Two workers share the bucket of what is not read. -/
theorem select_eq_filter_unread :
    let settings : EngineSettings := { concurrency := 2, batchSize := 2 }
    let item (id : String) (unread : Bool) : Notification :=
      .build id "octo/hello" .issue "" .mention unread ⟨0, 0⟩
    let list := [item "1" true, item "2" false, item "1" true, item "3" false]
    let accept (n : Notification) : Bool := n.unread
    Covers (some (.unread true)) accept list ∧
      (∀ k < (candidates settings (some (.unread true)) list).length,
        Timing.still.stops settings.timeoutMs settings.batchSize
          (candidates settings (some (.unread true)) list).length k = false) ∧
      settings.batchSize ≤ (candidates settings (some (.unread true)) list).length ∧
      let p := pool settings accept (candidates settings (some (.unread true)) list)
      Inevitable p.Quiet (fun s => ∃ o kept, s.outcome? = some o ∧
        answer (candidates settings (some (.unread true)) list) o = .ok kept ∧
        kept.Perm [item "1" true, item "1" true] ∧
        (settings.concurrency = 1 → kept = [item "1" true, item "1" true])) p.start := by
  intro settings item list accept
  have hcover : Covers (some (.unread true)) accept list := by
    intro k hk n _ hn
    cases hk
    simp only [accept] at hn
    simp [Notification.keys, hn]
  have hmany : settings.batchSize ≤ (candidates settings (some (.unread true)) list).length := by
    decide +kernel
  have htime : ∀ k < (candidates settings (some (.unread true)) list).length,
      Timing.still.stops settings.timeoutMs settings.batchSize
        (candidates settings (some (.unread true)) list).length k = false := by
    intro k _
    rw [Timing.stops, if_neg (Nat.not_lt.2 hmany)]
    rfl
  have hkept : list.filter accept = [item "1" true, item "1" true] := by
    simp [list, accept, item, Notification.build]
  have hpool := (select_eq_filter settings .still (some (.unread true)) accept list hcover
    htime).2 hmany
  rw [hkept] at hpool
  exact ⟨hcover, htime, hmany, hpool⟩

end Engine

end Triage
