/-
What a queue of keys keeps while its callers and its worker move in any order.

A key that was counted is processed, in the hands of the worker, in the queue, or dropped, unless
its caller has not been told yet; and each list of keys tells just the callers that have the one
answer or the other.  `Accounted` says this of a state, together with what closing the queue and
waiting for the worker have to do with each other.  It holds at the start and no step of any party
breaks it.
-/
import Mathlib.Data.List.Nodup
import Triage.Proofs.Cache.Prefetching.Step
import Triage.Proofs.Pool.Step

namespace Triage.Cache.Prefetching

variable {p : Prefetching} {s s' : State} {callers : List Caller} {i j : Nat} {key : String}
  {c c' x : Caller}

/-! ### One caller among all -/

theorem getElem?_set_iff (hc : callers[i]? = some c) :
    (callers.set i c')[j]? = some x ↔ (j = i ∧ c' = x) ∨ (j ≠ i ∧ callers[j]? = some x) := by
  obtain ⟨hi, -⟩ := List.getElem?_eq_some_iff.1 hc
  rw [List.getElem?_set]
  by_cases hij : i = j
  · subst hij
    simp [hi]
  · simp [hij, Ne.symm hij]

theorem ne_of_getElem? (hc : callers[i]? = some c) (hj : callers[j]? = some x) (hne : c ≠ x) :
    j ≠ i := by
  rintro rfl
  exact hne (Option.some.inj (hc.symm.trans hj))

theorem mem_set_of_ne (hc : callers[i]? = some c) (hx : x ∈ callers) (hne : c ≠ x) :
    x ∈ callers.set i c' := by
  obtain ⟨j, hj⟩ := List.mem_iff_getElem?.1 hx
  have hset : (callers.set i c')[j]? = some x :=
    (getElem?_set_iff hc).2 (.inr ⟨ne_of_getElem? hc hj hne, hj⟩)
  exact List.mem_iff_getElem?.2 ⟨j, hset⟩

/-- A number for each caller, added up. -/
def total (f : Caller → Nat) : List Caller → Nat
  | [] => 0
  | c :: rest => f c + total f rest

theorem total_append_cons (f : Caller → Nat) (before after : List Caller) (c : Caller) :
    total f (before ++ c :: after) = f c + total f (before ++ after) := by
  induction before with
  | nil => rfl
  | cons first rest ih =>
      rw [List.cons_append, List.cons_append, total, total, ih]
      omega

theorem total_set (f : Caller → Nat) (hc : callers[i]? = some c) (c' : Caller) :
    total f (callers.set i c') + f c = total f callers + f c' := by
  obtain ⟨before, after, rfl, hset⟩ := Pool.exists_split_of_getElem? hc
  rw [hset, total_append_cons, total_append_cons]
  omega

theorem total_eq_zero {f : Caller → Nat} (h : ∀ c ∈ callers, f c = 0) : total f callers = 0 := by
  induction callers with
  | nil => rfl
  | cons c rest ih =>
      obtain ⟨hc, hrest⟩ := List.forall_mem_cons.1 h
      rw [total, hc, ih hrest]

/-- What a caller asked for. -/
def Caller.demand : Caller → Demand
  | counting key | offering key | dropping key | told key _ => .enqueue key
  | sealing | locking | joining | returned => .shutdown

theorem map_demand_set (hc : callers[i]? = some c) (h : c'.demand = c.demand) :
    (callers.set i c').map Caller.demand = callers.map Caller.demand := by
  obtain ⟨before, after, rfl, hset⟩ := Pool.exists_split_of_getElem? hc
  rw [hset]
  simp only [List.map_append, List.map_cons, h]

/-! ### Keys and answers -/

/-- Whether keys are those of the callers that were given an answer, each once. -/
structure Records (answer : Bool) (entries : List (Nat × String)) (callers : List Caller) :
    Prop where
  nodup : entries.Nodup
  mem_iff : ∀ i key, (i, key) ∈ entries ↔ callers[i]? = some (.told key answer)

namespace Records

variable {answer : Bool} {entries : List (Nat × String)}

/-- A caller moves without being given the answer. -/
theorem set (h : Records answer entries callers) (hc : callers[i]? = some c)
    (hbefore : ∀ key, c ≠ .told key answer) (hafter : ∀ key, c' ≠ .told key answer) :
    Records answer entries (callers.set i c') := by
  refine ⟨h.nodup, fun j other => (h.mem_iff j other).trans ?_⟩
  rw [getElem?_set_iff hc]
  constructor
  · intro hj
    exact .inr ⟨ne_of_getElem? hc hj (hbefore other), hj⟩
  · rintro (⟨-, hanswer⟩ | ⟨-, hj⟩)
    · exact absurd hanswer (hafter other)
    · exact hj

/-- A caller is given the answer. -/
theorem append (h : Records answer entries callers) (hc : callers[i]? = some c)
    (hbefore : ∀ key, c ≠ .told key answer) (key : String) :
    Records answer (entries ++ [(i, key)]) (callers.set i (.told key answer)) := by
  have hnew : (i, key) ∉ entries := fun hmem =>
    ne_of_getElem? hc ((h.mem_iff i key).1 hmem) (hbefore key) rfl
  refine ⟨List.nodup_append.2 ⟨h.nodup, List.nodup_singleton _, ?_⟩, fun j other => ?_⟩
  · rintro e he e' he' rfl
    obtain rfl := List.mem_singleton.1 he'
    exact hnew he
  · rw [List.mem_append, List.mem_singleton, getElem?_set_iff hc, h.mem_iff]
    constructor
    · rintro (hj | hj)
      · exact .inr ⟨ne_of_getElem? hc hj (hbefore other), hj⟩
      · cases hj
        exact .inl ⟨rfl, rfl⟩
    · rintro (⟨rfl, htold⟩ | ⟨-, hj⟩)
      · cases htold
        exact .inr rfl
      · exact .inl hj

/-- How often a key is there tells the answer. -/
theorem count_eq_one_iff (h : Records answer entries callers) :
    entries.count (i, key) = 1 ↔ callers[i]? = some (.told key answer) := by
  rw [← h.mem_iff]
  exact ⟨fun hcount => List.count_pos_iff.1 (by omega), List.count_eq_one_of_mem h.nodup⟩

end Records

/-! ### The account -/

/-- The key in the hands of the worker. -/
def Worker.hand : Worker → List (Nat × String)
  | handling entry => [entry]
  | _ => []

/-- The keys that were taken in: processed, in hand, or still in the queue. -/
def State.taken (s : State) : List (Nat × String) := s.processed ++ s.worker.hand ++ s.line

theorem State.mem_taken_of_processed {entry : Nat × String} (h : entry ∈ s.processed) :
    entry ∈ s.taken :=
  List.mem_append_left _ (List.mem_append_left _ h)

/-- How many keys of a caller are counted, but neither taken in nor dropped. -/
def Caller.undecided : Caller → Nat
  | offering _ | dropping _ => 1
  | _ => 0

/-- How many keys of all callers are. -/
def undecided (callers : List Caller) : Nat := total Caller.undecided callers

theorem undecided_set (hc : callers[i]? = some c) (c' : Caller) :
    undecided (callers.set i c') + c.undecided = undecided callers + c'.undecided :=
  total_set Caller.undecided hc c'

/-- A caller moves and leaves open what was open before. -/
theorem undecided_set_of_eq (hc : callers[i]? = some c) (h : c'.undecided = c.undecided) :
    undecided (callers.set i c') = undecided callers := by
  have hset := undecided_set hc c'
  omega

/-- Whether a caller has closed the queue. -/
def Caller.hasClosed : Caller → Bool
  | locking | joining | returned => true
  | _ => false

/-- What every state of a queue has in common. -/
structure Accounted (p : Prefetching) (s : State) : Prop where
  demands : s.callers.map Caller.demand = p.demands
  prefetches : s.counters.prefetches = s.taken.length + s.dropped.length + undecided s.callers
  processed : s.counters.prefetchProcessed = s.processed.length
  dropped : s.counters.prefetchDropped = s.dropped.length
  accepts : Records true s.taken s.callers
  refuses : Records false s.dropped s.callers
  closed : ∀ c ∈ s.callers, c.hasClosed = true → s.isOpen = false
  gone : s.worker = .gone → s.isOpen = false ∧ s.line = []
  spent : s.handle = .spent → s.worker = .gone
  held : s.handle = .held → .joining ∈ s.callers
  returned : .returned ∈ s.callers → s.handle = .spent

theorem Accounted.nodup_processed (h : Accounted p s) : s.processed.Nodup := by
  have hnodup := h.accepts.nodup
  rw [State.taken, List.append_assoc] at hnodup
  exact hnodup.of_append_left

/-- No caller has begun. -/
theorem ofDemand_of_mem_start {demands : List Demand} (hc : c ∈ demands.map Caller.ofDemand) :
    (∀ key answer, c ≠ .told key answer) ∧ c.undecided = 0 ∧ c.hasClosed = false := by
  obtain ⟨demand, -, rfl⟩ := List.mem_map.1 hc
  cases demand with
  | enqueue | shutdown => exact ⟨nofun, rfl, rfl⟩

theorem records_start (p : Prefetching) (answer : Bool) : Records answer [] p.start.callers := by
  refine ⟨.nil, fun i key => ⟨nofun, fun hi => ?_⟩⟩
  obtain ⟨hnot, -⟩ := ofDemand_of_mem_start (List.mem_of_getElem? hi)
  exact absurd rfl (hnot key answer)

theorem Accounted.start (p : Prefetching) : Accounted p p.start where
  demands := by
    have hdemand : Caller.demand ∘ Caller.ofDemand = id := by
      funext demand
      cases demand <;> rfl
    rw [Prefetching.start, List.map_map, hdemand, List.map_id]
  prefetches := by
    have hnone : undecided p.start.callers = 0 :=
      total_eq_zero fun c hc => (ofDemand_of_mem_start hc).2.1
    rw [hnone]
    rfl
  processed := rfl
  dropped := rfl
  accepts := records_start p true
  refuses := records_start p false
  closed := fun c hc hclosed => by
    rw [(ofDemand_of_mem_start hc).2.2] at hclosed
    cases hclosed
  gone := nofun
  spent := nofun
  held := nofun
  returned := fun hreturned => by
    have hclosed := (ofDemand_of_mem_start hreturned).2.2
    cases hclosed

/-- Keys only move on: the keys that were taken in stay so, and only accepting one adds to them. -/
theorem Step.accepts (hstep : Step p s s') (h : Records true s.taken s.callers) :
    Records true s'.taken s'.callers := by
  cases hstep with
  | count hc | refuse hc | drop hc | shut hc | lock hc | pass hc | join hc =>
      exact h.set hc nofun nofun
  | @accept i key hc =>
      have htaken : s.processed ++ s.worker.hand ++ (s.line ++ [(i, key)]) = s.taken ++ [(i, key)] :=
        (List.append_assoc _ _ _).symm
      show Records true (s.processed ++ s.worker.hand ++ (s.line ++ [(i, key)])) _
      rw [htaken]
      exact h.append hc nofun key
  | take hworker hline => simpa [State.taken, hworker, hline, Worker.hand] using h
  | process hworker | leave hworker => simpa [State.taken, hworker, Worker.hand] using h

theorem Step.refuses (hstep : Step p s s') (h : Records false s.dropped s.callers) :
    Records false s'.dropped s'.callers := by
  cases hstep with
  | count hc | accept hc | refuse hc | shut hc | lock hc | pass hc | join hc =>
      exact h.set hc nofun nofun
  | @drop i key hc => exact h.append hc nofun key
  | take | process | leave => exact h

/-- A call begins when its key is counted, and is undecided until the key is taken in or dropped. -/
theorem Step.prefetches (hstep : Step p s s')
    (h : s.counters.prefetches = s.taken.length + s.dropped.length + undecided s.callers) :
    s'.counters.prefetches = s'.taken.length + s'.dropped.length + undecided s'.callers := by
  cases hstep with
  | @count i key hc =>
      have hset : undecided (s.callers.set i (.offering key)) + 0 = undecided s.callers + 1 :=
        undecided_set hc _
      show s.counters.prefetches + 1 = s.taken.length + s.dropped.length +
        undecided (s.callers.set i (.offering key))
      omega
  | @accept i key hc =>
      have hset : undecided (s.callers.set i (.told key true)) + 1 = undecided s.callers + 0 :=
        undecided_set hc _
      show s.counters.prefetches = (s.processed ++ s.worker.hand ++ (s.line ++ [(i, key)])).length +
        s.dropped.length + undecided (s.callers.set i (.told key true))
      rw [h, State.taken]
      simp only [List.length_append, List.length_singleton]
      omega
  | @drop i key hc =>
      have hset : undecided (s.callers.set i (.told key false)) + 1 = undecided s.callers + 0 :=
        undecided_set hc _
      show s.counters.prefetches = s.taken.length + (s.dropped ++ [(i, key)]).length +
        undecided (s.callers.set i (.told key false))
      rw [List.length_append, List.length_singleton]
      omega
  | refuse hc | shut hc | lock hc | pass hc | join hc =>
      refine h.trans (congrArg (s.taken.length + s.dropped.length + ·) ?_)
      exact (undecided_set_of_eq hc (by rfl)).symm
  | take hworker hline => simpa [State.taken, hworker, hline, Worker.hand] using h
  | process hworker => simpa [State.taken, hworker, Worker.hand, Counters.record] using h
  | leave hworker => simpa [State.taken, hworker, Worker.hand] using h

theorem Step.demands (hstep : Step p s s') :
    s'.callers.map Caller.demand = s.callers.map Caller.demand := by
  cases hstep with
  | count hc | accept hc | refuse hc | drop hc | shut hc | lock hc | pass hc | join hc =>
      exact map_demand_set hc (by rfl)
  | take | process | leave => rfl

theorem Accounted.step (h : Accounted p s) (hstep : Step p s s') : Accounted p s' where
  demands := hstep.demands.trans h.demands
  prefetches := hstep.prefetches h.prefetches
  processed := by
    cases hstep with
    | process =>
        show s.counters.prefetchProcessed + 1 = (s.processed ++ [_]).length
        rw [h.processed, List.length_append, List.length_singleton]
    | _ => exact h.processed
  dropped := by
    cases hstep with
    | drop =>
        show s.counters.prefetchDropped + 1 = (s.dropped ++ [_]).length
        rw [h.dropped, List.length_append, List.length_singleton]
    | _ => exact h.dropped
  accepts := hstep.accepts h.accepts
  refuses := hstep.refuses h.refuses
  closed := by
    intro c hc hclosed
    cases hstep with
    | shut => rfl
    | count hi | accept hi | refuse hi | drop hi =>
        rcases List.mem_or_eq_of_mem_set hc with hold | rfl
        · exact h.closed c hold hclosed
        · cases hclosed
    | lock hi | pass hi | join hi => exact h.closed _ (List.mem_of_getElem? hi) rfl
    | take | process | leave => exact h.closed c hc hclosed
  gone := by
    intro hgone
    cases hstep with
    | accept _ hopen =>
        rw [(h.gone hgone).1] at hopen
        cases hopen
    | shut => exact ⟨rfl, (h.gone hgone).2⟩
    | take | process => cases hgone
    | leave _ hline hclosed => exact ⟨hclosed, hline⟩
    | count | refuse | drop | lock | pass | join => exact h.gone hgone
  spent := by
    intro hspent
    cases hstep with
    | lock => cases hspent
    | join _ hgone => exact hgone
    | take hworker | process hworker =>
        rw [h.spent hspent] at hworker
        cases hworker
    | leave => rfl
    | count | accept | refuse | drop | shut | pass => exact h.spent hspent
  held := by
    intro hheld
    cases hstep with
    | count hc | accept hc | refuse hc | drop hc | shut hc | pass hc =>
        exact mem_set_of_ne hc (h.held hheld) nofun
    | lock hc =>
        obtain ⟨hi, -⟩ := List.getElem?_eq_some_iff.1 hc
        exact List.mem_set hi _
    | join => cases hheld
    | take | process | leave => exact h.held hheld
  returned := by
    intro hreturned
    cases hstep with
    | count | accept | refuse | drop | shut =>
        exact h.returned ((List.mem_or_eq_of_mem_set hreturned).resolve_right nofun)
    | lock _ hhandle =>
        have hspent := h.returned ((List.mem_or_eq_of_mem_set hreturned).resolve_right nofun)
        rw [hhandle] at hspent
        cases hspent
    | pass _ hhandle => exact hhandle
    | join => rfl
    | take | process | leave => exact h.returned hreturned

end Triage.Cache.Prefetching
