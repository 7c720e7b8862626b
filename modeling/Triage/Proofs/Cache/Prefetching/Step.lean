/-
What a step at a queue of keys can do.

`Step` lists the steps of the callers and of the worker once, each with what it needs and what it
changes.  Whatever is said of all steps is said by cases on this list, and only `Step.of_step` looks
at the step function.

A caller that is not disturbed does to the queue and its counters what is done to a queue that is
used in turn; one that shuts down is joined by the worker for that.
-/
import Triage.Cache.Prefetching

namespace Triage.Cache.Prefetching

variable {p : Prefetching} {s s' : State}

/-- The steps at a queue. -/
inductive Step (p : Prefetching) (s : State) : State → Prop
  | count {i : Nat} {key : String} (hc : s.callers[i]? = some (.counting key)) :
      Step p s { s with
        counters := s.counters.record .prefetch, callers := s.callers.set i (.offering key) }
  | accept {i : Nat} {key : String} (hc : s.callers[i]? = some (.offering key))
      (hopen : s.isOpen = true) (hroom : s.line.length < p.room) :
      Step p s { s with line := s.line ++ [(i, key)], callers := s.callers.set i (.told key true) }
  | refuse {i : Nat} {key : String} (hc : s.callers[i]? = some (.offering key))
      (hfull : s.isOpen = true → p.room ≤ s.line.length) :
      Step p s { s with callers := s.callers.set i (.dropping key) }
  | drop {i : Nat} {key : String} (hc : s.callers[i]? = some (.dropping key)) :
      Step p s { s with
        counters := s.counters.record .prefetchDropped, dropped := s.dropped ++ [(i, key)]
        callers := s.callers.set i (.told key false) }
  | shut {i : Nat} (hc : s.callers[i]? = some .sealing) :
      Step p s { s with isOpen := false, callers := s.callers.set i .locking }
  | lock {i : Nat} (hc : s.callers[i]? = some .locking) (hhandle : s.handle = .kept) :
      Step p s { s with handle := .held, callers := s.callers.set i .joining }
  | pass {i : Nat} (hc : s.callers[i]? = some .locking) (hhandle : s.handle = .spent) :
      Step p s { s with callers := s.callers.set i .returned }
  | join {i : Nat} (hc : s.callers[i]? = some .joining) (hgone : s.worker = .gone) :
      Step p s { s with handle := .spent, callers := s.callers.set i .returned }
  | take {entry : Nat × String} {rest : List (Nat × String)} (hworker : s.worker = .waiting)
      (hline : s.line = entry :: rest) : Step p s { s with worker := .handling entry, line := rest }
  | process {entry : Nat × String} (hworker : s.worker = .handling entry) :
      Step p s { s with
        counters := s.counters.record .prefetchProcessed, worker := .waiting
        processed := s.processed ++ [entry] }
  | leave (hworker : s.worker = .waiting) (hline : s.line = []) (hclosed : s.isOpen = false) :
      Step p s { s with worker := .gone }

theorem Step.of_act {i : Nat} {c c' : Caller} {s₁ : State} (hc : s.callers[i]? = some c)
    (hact : p.act s i c = some (s₁, c')) : Step p s { s₁ with callers := s₁.callers.set i c' } := by
  cases c with
  | counting key =>
      cases hact
      exact .count hc
  | offering key =>
      rw [act] at hact
      split at hact
      · rename_i hroom
        cases hact
        exact .accept hc hroom.1 hroom.2
      · rename_i hroom
        cases hact
        exact .refuse hc fun hopen => Nat.not_lt.1 fun hlt => hroom ⟨hopen, hlt⟩
  | dropping key =>
      cases hact
      exact .drop hc
  | sealing =>
      cases hact
      exact .shut hc
  | locking =>
      cases hhandle : s.handle with
      | kept =>
          rw [act, hhandle] at hact
          cases hact
          exact .lock hc hhandle
      | held =>
          rw [act, hhandle] at hact
          cases hact
      | spent =>
          rw [act, hhandle] at hact
          cases hact
          exact .pass hc hhandle
  | joining =>
      rw [act] at hact
      split at hact
      · rename_i hgone
        cases hact
        exact .join hc hgone
      · cases hact
  | told | returned => cases hact

theorem Step.of_step {t : Turn} (h : p.step s t = some s') : Step p s s' := by
  cases t with
  | caller i =>
      obtain ⟨c, hc, h⟩ := Option.bind_eq_some_iff.1 h
      obtain ⟨⟨s₁, c'⟩, hact, h⟩ := Option.bind_eq_some_iff.1 h
      cases h
      exact .of_act hc hact
  | worker =>
      change work s = some s' at h
      rw [work] at h
      split at h
      · rename_i hworker hline
        cases h
        exact .take hworker hline
      · rename_i hworker hline
        split at h
        · cases h
        · rename_i hopen
          cases h
          exact .leave hworker hline (by simpa using hopen)
      · rename_i hworker
        cases h
        exact .process hworker
      · cases h

/-! ### One party at a time -/

/-- The queue without what belongs to its callers and its worker. -/
def State.queue (p : Prefetching) (s : State) : PrefetchQueue :=
  ⟨p.room, s.line.map Prod.snd, s.isOpen⟩

theorem queue_start (p : Prefetching) : p.start.queue p = .withCapacity p.capacity := rfl

theorem step_caller {i : Nat} {c c' : Caller} {s₁ : State} (hc : s.callers[i]? = some c)
    (hact : p.act s i c = some (s₁, c')) :
    p.step s (.caller i) = some { s₁ with callers := s₁.callers.set i c' } := by
  rw [step, hc]
  show (p.act s i c).bind _ = _
  rw [hact]
  rfl

theorem step_take {entry : Nat × String} {rest : List (Nat × String)}
    (hworker : s.worker = .waiting) (hline : s.line = entry :: rest) :
    p.step s .worker = some { s with worker := .handling entry, line := rest } := by
  show work s = _
  rw [work, hworker, hline]

theorem step_process {entry : Nat × String} (hworker : s.worker = .handling entry) :
    p.step s .worker = some { s with
      counters := s.counters.record .prefetchProcessed, worker := .waiting
      processed := s.processed ++ [entry] } := by
  show work s = _
  rw [work, hworker]

theorem step_leave (hworker : s.worker = .waiting) (hline : s.line = [])
    (hclosed : s.isOpen = false) : p.step s .worker = some { s with worker := .gone } := by
  show work s = _
  rw [work, hworker, hline, hclosed]
  rfl

theorem run_cons {t : Turn} {turns : List Turn} {s₁ : State} (h : p.step s t = some s₁) :
    p.run s (t :: turns) = p.run s₁ turns := by
  rw [run, List.foldlM_cons, h]
  rfl

theorem run_append {turns rest : List Turn} {s₁ : State} (h : p.run s turns = some s₁) :
    p.run s (turns ++ rest) = p.run s₁ rest := by
  rw [run, List.foldlM_append, ← run, h]
  rfl

/-- A call that is not disturbed hands in its key as to a queue that is used in turn. -/
theorem run_enqueue {i : Nat} {key : String} (hc : s.callers[i]? = some (.counting key)) :
    ∃ turns s' accepted, (∀ t ∈ turns, t = .caller i) ∧ p.run s turns = some s' ∧
      s'.callers[i]? = some (.told key accepted) ∧
      s'.queue p = ((s.queue p).enqueue key).1 ∧
      s'.counters = s.counters.recordAll ((s.queue p).enqueue key).2 := by
  obtain ⟨hi, -⟩ := List.getElem?_eq_some_iff.1 hc
  let counted : State := { s with
    counters := s.counters.record .prefetch, callers := s.callers.set i (.offering key) }
  have hcounted : counted.callers[i]? = some (.offering key) := List.getElem?_set_self hi
  have hcount : p.step s (.caller i) = some counted := step_caller hc rfl
  have hi' : i < counted.callers.length := (List.getElem?_eq_some_iff.1 hcounted).1
  have hlength : (s.queue p).keys.length = s.line.length := List.length_map _
  by_cases hroom : s.isOpen ∧ s.line.length < p.room
  · have hact : p.act counted i (.offering key) =
        some ({ counted with line := s.line ++ [(i, key)] }, .told key true) := if_pos hroom
    have henqueue : (s.queue p).enqueue key =
        ({ s.queue p with keys := (s.queue p).keys ++ [key] }, [.prefetch]) := by
      rw [PrefetchQueue.enqueue, hlength]
      exact if_pos hroom
    refine ⟨[.caller i, .caller i], _, true, by simp,
      (run_cons hcount).trans (run_cons (step_caller hcounted hact)), List.getElem?_set_self hi',
      ?_, ?_⟩
    · rw [henqueue, State.queue, List.map_append]
      rfl
    · rw [henqueue]
      rfl
  · let refused : State := { counted with callers := counted.callers.set i (.dropping key) }
    have hrefused : refused.callers[i]? = some (.dropping key) := List.getElem?_set_self hi'
    have hact : p.act counted i (.offering key) = some (counted, .dropping key) := if_neg hroom
    have henqueue : (s.queue p).enqueue key = (s.queue p, [.prefetch, .prefetchDropped]) := by
      rw [PrefetchQueue.enqueue, hlength]
      exact if_neg hroom
    have hi'' : i < refused.callers.length := (List.getElem?_eq_some_iff.1 hrefused).1
    refine ⟨[.caller i, .caller i, .caller i], _, false, by simp,
      (run_cons hcount).trans ((run_cons (step_caller hcounted hact)).trans
        (run_cons (step_caller hrefused rfl))), List.getElem?_set_self hi'', ?_, ?_⟩
    · rw [henqueue]
      rfl
    · rw [henqueue]
      rfl

/-- A worker that is not disturbed processes all keys, as in a queue that is used in turn. -/
theorem run_worker (hworker : s.worker = .waiting) :
    ∃ turns s', (∀ t ∈ turns, t = .worker) ∧ p.run s turns = some s' ∧
      s'.queue p = (s.queue p).processAll.1 ∧
      s'.counters = s.counters.recordAll (s.queue p).processAll.2 ∧
      s'.worker = .waiting ∧ s'.handle = s.handle ∧ s'.callers = s.callers := by
  induction hline : s.line generalizing s with
  | nil =>
      refine ⟨[], s, nofun, rfl, ?_, ?_, hworker, rfl, rfl⟩
      · rw [State.queue, hline]
        rfl
      · rw [State.queue, hline]
        rfl
  | cons entry rest ih =>
      let taken : State := { s with worker := .handling entry, line := rest }
      let processed : State := { taken with
        counters := s.counters.record .prefetchProcessed, worker := .waiting
        processed := s.processed ++ [entry] }
      have htake : p.step s .worker = some taken := step_take hworker hline
      have hprocess : p.step taken .worker = some processed := step_process rfl
      obtain ⟨turns, s', hturns, hrun, hqueue, hcounters, hrest⟩ := @ih processed rfl rfl
      refine ⟨.worker :: .worker :: turns, s', by simpa using hturns,
        (run_cons htake).trans ((run_cons hprocess).trans hrun), hqueue, ?_, hrest⟩
      show _ = s.counters.recordAll ((s.line.map Prod.snd).map fun _ => .prefetchProcessed)
      rw [hline]
      exact hcounters

/-- A caller that shuts down and is not disturbed waits for the worker to process all keys, and
closes the queue as one that is used in turn is closed. -/
theorem run_shutdown {i : Nat} (hc : s.callers[i]? = some .sealing) (hworker : s.worker = .waiting)
    (hhandle : s.handle = .kept) :
    ∃ turns s', (∀ t ∈ turns, t = .caller i ∨ t = .worker) ∧ p.run s turns = some s' ∧
      s'.callers[i]? = some .returned ∧
      s'.queue p = (s.queue p).close.1 ∧
      s'.counters = s.counters.recordAll (s.queue p).close.2 := by
  obtain ⟨hi, -⟩ := List.getElem?_eq_some_iff.1 hc
  let closed : State := { s with isOpen := false, callers := s.callers.set i .locking }
  have hclose : p.step s (.caller i) = some closed := step_caller hc rfl
  obtain ⟨turns, drained, hturns, hdrain, hqueue, hcounters, hwaiting, hkept, hcallers⟩ :=
    @run_worker p closed hworker
  have hline : drained.line = [] := List.map_eq_nil_iff.1 (congrArg PrefetchQueue.keys hqueue)
  have hopen : drained.isOpen = false := congrArg PrefetchQueue.isOpen hqueue
  let left : State := { drained with worker := .gone }
  have hleave : p.step drained .worker = some left := step_leave hwaiting hline hopen
  have hlocking : left.callers[i]? = some .locking := by
    show drained.callers[i]? = _
    rw [hcallers]
    exact List.getElem?_set_self hi
  have hi' : i < left.callers.length := (List.getElem?_eq_some_iff.1 hlocking).1
  let held : State := { left with handle := .held, callers := left.callers.set i .joining }
  have hact : p.act left i .locking = some ({ left with handle := .held }, .joining) := by
    rw [act, show left.handle = .kept from hkept.trans hhandle]
  have hlock : p.step left (.caller i) = some held := step_caller hlocking hact
  have hjoining : held.callers[i]? = some .joining := List.getElem?_set_self hi'
  have hi'' : i < held.callers.length := (List.getElem?_eq_some_iff.1 hjoining).1
  have hjoin : p.step held (.caller i) = some
      { held with handle := .spent, callers := held.callers.set i .returned } :=
    step_caller hjoining rfl
  have hrest : p.run drained [.worker, .caller i, .caller i] = some _ :=
    (run_cons hleave).trans ((run_cons hlock).trans (run_cons hjoin))
  refine ⟨.caller i :: (turns ++ [.worker, .caller i, .caller i]), _, ?_,
    (run_cons hclose).trans ((run_append hdrain).trans hrest), List.getElem?_set_self hi'', ?_, ?_⟩
  · intro t ht
    simp only [List.mem_cons, List.mem_append, List.not_mem_nil, or_false] at ht
    rcases ht with rfl | ht | rfl | rfl | rfl
    · exact .inl rfl
    · exact .inr (hturns t ht)
    · exact .inr rfl
    · exact .inl rfl
    · exact .inl rfl
  · exact hqueue
  · exact hcounters

end Triage.Cache.Prefetching
