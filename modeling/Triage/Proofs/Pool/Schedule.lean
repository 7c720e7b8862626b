/-
What comes of a pool, whatever the schedule.

A schedule lists whose turn it is, one step after the other.  The account of
`Proofs/Pool/Account.lean` holds after every schedule, and everything that can be
said of a pool that has returned is read off it: which slots were worked on, how many
were counted, and which results came through.  A deadline may lose results, but it
never makes one up and never changes the order that a single worker keeps.

One schedule takes the slots as a loop would, one after the other up to the deadline.
It is the one that the program runs.
-/
import Triage.Proofs.Pool.Return

namespace Triage.Pool

variable {β : Type} {p : Pool β} {s s' : State β} {o : Outcome β}

/-- The pool after a schedule of steps, if every one of them could be taken. -/
def run (p : Pool β) (turns : List Turn) : Option (State β) := turns.foldlM p.step p.start

/-- The results of all slots, in their order. -/
def yields (p : Pool β) : List β := (List.range p.slots).filterMap p.work

/-! ### Every schedule keeps the account -/

theorem foldlM_keeps (P : State β → Prop)
    (hstep : ∀ s t s', P s → p.step s t = some s' → P s') {turns : List Turn}
    (hs : P s) (h : turns.foldlM p.step s = some s') : P s' := by
  induction turns generalizing s with
  | nil =>
      cases h
      exact hs
  | cons t rest ih =>
      obtain ⟨s₁, ht, hrest⟩ := Option.bind_eq_some_iff.1 h
      exact ih (hstep s t s₁ hs ht) hrest

theorem accounted_of_run {turns : List Turn} (h : p.run turns = some s) : Accounted p s :=
  foldlM_keeps (Accounted p) (fun _ _ _ hs ht => hs.step (.of_step ht)) (.start p) h

theorem inOrder_of_run (hcrew : p.crew = 1) {turns : List Turn} (h : p.run turns = some s) :
    InOrder p s :=
  foldlM_keeps (InOrder p) (fun _ _ _ hs ht => hs.step (.of_step ht)) (.start hcrew) h

/-! ### As a loop does

Workers may take turns in any order, so also in this one: one of them takes slot after slot, and
what it sends is received at once.  Then the others leave, or the deadline comes.
-/

/-- Some turns lead from one state to another. -/
def Leads (p : Pool β) (s s' : State β) : Prop :=
  ∃ turns : List Turn, turns.foldlM p.step s = some s'

theorem Leads.trans {s₁ s₂ s₃ : State β} (h : p.Leads s₁ s₂) (h' : p.Leads s₂ s₃) :
    p.Leads s₁ s₃ := by
  obtain ⟨before, hbefore⟩ := h
  obtain ⟨turns, hturns⟩ := h'
  refine ⟨before ++ turns, ?_⟩
  rw [List.foldlM_append, hbefore]
  exact hturns

/-- The pool after so many slots, if one worker has worked on all of them. -/
def loop (p : Pool β) (k : Nat) : State β where
  cursor := k
  processed := k
  results := (List.range k).filterMap p.work
  worked := List.range k
  workers := List.replicate p.crew .looking

theorem exists_workers_loop (p : Pool β) : ∃ others : List (Worker β),
    List.replicate p.crew .looking = .looking :: others :=
  ⟨List.replicate (p.crew - 1) .looking, by
    rw [← List.replicate_succ, Nat.sub_add_cancel p.crew_pos]⟩

/-- The first worker takes the next slot. -/
theorem leads_loop_succ {k : Nat} (h : k < p.slots) : p.Leads (p.loop k) (p.loop (k + 1)) := by
  obtain ⟨others, hothers⟩ := p.exists_workers_loop
  have hroom : 0 < p.room := Nat.lt_of_lt_of_le Nat.zero_lt_one (Nat.le_max_left 1 _)
  have hworked : List.range (k + 1) = List.range k ++ [k] := List.range_succ
  -- the worker looks, claims and works; a result is sent and received on top of that
  cases hwork : p.work k with
  | none =>
      refine ⟨[.worker 0, .worker 0, .worker 0], ?_⟩
      simp [loop, step, act, hothers, h, hwork, hworked]
  | some result =>
      refine ⟨[.worker 0, .worker 0, .worker 0, .worker 0, .consumer], ?_⟩
      simp [loop, step, act, consume, hothers, h, hwork, hworked, hroom]

theorem leads_loop {k : Nat} (h : k ≤ p.slots) : p.Leads p.start (p.loop k) := by
  induction k with
  | zero => exact ⟨[], rfl⟩
  | succ k ih => exact (ih (Nat.le_of_succ_le h)).trans (leads_loop_succ h)

/-- Where no slot is left, workers leave one after the other. -/
theorem leads_gone (left count : Nat) (hcursor : p.slots ≤ s.cursor) (hflag : s.cancelled = false)
    (hworkers : s.workers = List.replicate left .gone ++ List.replicate count .looking) :
    ∃ cursor, p.Leads s { s with cursor, workers := List.replicate (left + count) .gone } := by
  induction count generalizing left s with
  | zero =>
      refine ⟨s.cursor, [], ?_⟩
      rw [List.replicate_zero, List.append_nil] at hworkers
      rw [Nat.add_zero, ← hworkers]
      rfl
  | succ count ih =>
      let s₁ : State β := { s with
        cursor := s.cursor + 1
        workers := List.replicate left .gone ++ .gone :: List.replicate count .looking }
      have hleave : p.Leads s s₁ := by
        refine ⟨[.worker left, .worker left], ?_⟩
        simp [s₁, step, act, hworkers, hflag, List.replicate_succ, Nat.not_lt.2 hcursor]
      have hworkers₁ : s₁.workers =
          List.replicate (left + 1) .gone ++ List.replicate count .looking := by
        rw [List.replicate_succ', List.append_assoc]
        rfl
      obtain ⟨cursor, hrest⟩ := ih (s := s₁) (left + 1) (Nat.le_succ_of_le hcursor) hflag hworkers₁
      refine ⟨cursor, ?_⟩
      rw [Nat.add_comm count, ← Nat.add_assoc]
      exact hleave.trans hrest

/-- Where all workers have left, the pool returns. -/
theorem leads_returned (hc : s.consumer = .receiving) (hch : s.channel = [])
    (hgone : ∀ w ∈ s.workers, w = .gone) :
    p.Leads s { s with consumer := .returned s.processed false } := by
  have hall : s.workers.all Worker.isGone = true :=
    List.all_eq_true.2 fun w hw => isGone_iff.2 (hgone w hw)
  refine ⟨[.consumer, .consumer], ?_⟩
  simp only [List.foldlM_cons, List.foldlM_nil, step, consume, hc, hch, if_pos hall,
    Option.bind_eq_bind, Option.bind_some]
  rfl

/-- **One schedule of a pool is a loop.**  For any number of slots there are turns after which the
pool returns what these slots yield in their order, at the deadline if there are more of them. -/
theorem exists_run_as_loop {k : Nat} (h : k ≤ p.slots) : ∃ turns s, p.run turns = some s ∧
    s.outcome? = some ⟨(List.range k).filterMap p.work, k, decide (k < p.slots)⟩ := by
  suffices hreturn : ∃ s, p.Leads (p.loop k) s ∧
      s.outcome? = some ⟨(List.range k).filterMap p.work, k, decide (k < p.slots)⟩ by
    obtain ⟨s, hleads, houtcome⟩ := hreturn
    obtain ⟨turns, hturns⟩ := (leads_loop h).trans hleads
    exact ⟨turns, s, hturns, houtcome⟩
  by_cases hmore : k < p.slots
  · rw [decide_eq_true hmore]
    exact ⟨_, ⟨[.deadline, .consumer, .consumer, .consumer], rfl⟩, rfl⟩
  · rw [decide_eq_false hmore]
    obtain ⟨cursor, hgone⟩ := leads_gone (p := p) (s := p.loop k) 0 p.crew (Nat.not_lt.1 hmore) rfl
      (List.nil_append _).symm
    have hreturn := leads_returned (p := p) (s := { p.loop k with
      cursor, workers := List.replicate (0 + p.crew) .gone }) rfl rfl
      fun w hw => List.eq_of_mem_replicate hw
    exact ⟨_, hgone.trans hreturn, rfl⟩

/-! ### The slots -/

/-- The slots that were claimed: those that were worked on, and those in hands. -/
def State.claimed (s : State β) : List Nat := s.worked ++ s.workers.flatMap Worker.slots

theorem Accounted.nodup_claimed (h : Accounted p s) : s.claimed.Nodup :=
  h.slots.nodup_iff.2 List.nodup_range

theorem Accounted.lt_slots (h : Accounted p s) {slot : Nat} (hslot : slot ∈ s.claimed) :
    slot < p.slots := by
  have hrange := List.mem_range.1 (h.slots.mem_iff.1 hslot)
  exact Nat.lt_of_lt_of_le hrange (Nat.min_le_right _ _)

/-- What was worked on is a part of all slots. -/
theorem Accounted.subperm_worked (h : Accounted p s) :
    s.worked.Subperm (List.range p.slots) := by
  have hpart : s.worked.Subperm s.claimed := (List.sublist_append_left _ _).subperm
  have hrange : (List.range (min s.cursor p.slots)).Sublist (List.range p.slots) :=
    List.range_sublist.2 (Nat.min_le_right _ _)
  exact (hpart.trans h.slots.subperm).trans hrange.subperm

/-! ### The results -/

theorem Accounted.subperm_results (h : Accounted p s) : s.results.Subperm p.yields := by
  obtain ⟨lost, hperm, -⟩ := h.results
  have hpart : s.results.Subperm (s.worked.filterMap p.work) := by
    refine List.Subperm.trans ?_ hperm.subperm
    simp only [List.append_assoc]
    exact (List.sublist_append_left _ _).subperm
  obtain ⟨slots, hslots, hsub⟩ := h.subperm_worked
  exact hpart.trans ⟨slots.filterMap p.work, hslots.filterMap p.work, hsub.filterMap p.work⟩

/-- A single worker works on the slots in their order and loses results only at the end. -/
theorem InOrder.prefix_results (h : InOrder p s) : s.results <+: p.yields := by
  obtain ⟨w, -, hslots, lost, hresults, -⟩ := h
  have hworked : s.worked <+: List.range p.slots := by
    refine List.IsPrefix.trans ⟨w.slots, hslots⟩ ?_
    rw [List.prefix_iff_eq_take, List.length_range, List.take_range, Nat.min_assoc, Nat.min_self]
  have hpart : s.results <+: s.worked.filterMap p.work := by
    rw [← hresults]
    simp only [List.append_assoc]
    exact List.prefix_append _ _
  exact hpart.trans (hworked.filterMap p.work)

/-! ### What is returned -/

theorem consumer_of_outcome (h : s.outcome? = some o) :
    s.consumer = .returned o.processed o.timedOut ∧ o.results = s.results := by
  unfold State.outcome? at h
  split at h
  · rename_i hc
    cases h
    exact ⟨hc, rfl⟩
  · cases h

/-- A pool that returned at the deadline counted every result, and no slot twice. -/
theorem Accounted.processed_le (h : Accounted p s) (ho : s.outcome? = some o) :
    o.results.length ≤ o.processed ∧ o.processed ≤ p.slots := by
  obtain ⟨hc, hresults⟩ := consumer_of_outcome ho
  obtain ⟨hle, hcount, -⟩ := h.returned _ _ hc
  have hworked := h.subperm_worked.length_le
  rw [List.length_range, ← h.counted] at hworked
  exact ⟨hresults ▸ hle, Nat.le_trans hcount hworked⟩

/-- A pool returns, whoever moves next and whether or not the deadline comes. -/
theorem inevitable_outcome (p : Pool β) (s : State β) :
    Inevitable (fun s s' => ∃ t, p.step s t = some s') (fun s => ∃ o, s.outcome? = some o) s := by
  refine inevitable_of_measure (State.left p) (fun _ => True) ?_ (fun _ _ _ _ => trivial) ?_ s
    trivial
  · rintro s s' - ⟨t, hstep⟩
    exact (Step.of_step hstep).left_lt
  · rintro s -
    cases ho : s.outcome? with
    | some o => exact .inl ⟨o, rfl⟩
    | none =>
        obtain ⟨t, -, hmove⟩ := exists_step p ho
        obtain ⟨s', hs'⟩ := Option.isSome_iff_exists.1 hmove
        exact .inr ⟨s', t, hs'⟩

/--
**Every slot is worked on once, whatever the schedule.**  No slot is claimed twice and none
beyond the last one is.  A pool that returns in time has worked on all slots and gives all
their results; one that returns at the deadline gives some of them, each at most once, and
has counted at least as many slots as it gives results.  With one worker the results come
in the order of the slots, up to the deadline without a gap.  And every pool returns.
-/
theorem run_visits_each_slot_once (p : Pool β) (turns : List Turn) (s : State β)
    (h : p.run turns = some s) :
    (s.claimed.Nodup ∧ ∀ slot ∈ s.claimed, slot < p.slots) ∧
    (∀ o, s.outcome? = some o → o.timedOut = false →
      o.processed = p.slots ∧ o.results.Perm p.yields ∧ (p.crew = 1 → o.results = p.yields)) ∧
    (∀ o, s.outcome? = some o → o.timedOut = true →
      o.results.Subperm p.yields ∧ o.results.length ≤ o.processed ∧ o.processed ≤ p.slots ∧
        (p.crew = 1 → o.results <+: p.yields)) ∧
    Inevitable (fun s s' => ∃ t, p.step s t = some s') (fun s => ∃ o, s.outcome? = some o) s := by
  have haccounted := accounted_of_run h
  have hone (hcrew : p.crew = 1) : InOrder p s := inOrder_of_run hcrew h
  refine ⟨⟨haccounted.nodup_claimed, fun _ => haccounted.lt_slots⟩, ?_, ?_, inevitable_outcome p s⟩
  · intro o ho htime
    have hcomplete := haccounted.complete hone ho htime
    exact ⟨hcomplete.processed, hcomplete.results, hcomplete.inOrder⟩
  · intro o ho _
    obtain ⟨-, hresults⟩ := consumer_of_outcome ho
    obtain ⟨hle, hslots⟩ := haccounted.processed_le ho
    refine ⟨hresults ▸ haccounted.subperm_results, hle, hslots, fun hcrew => ?_⟩
    exact hresults ▸ (hone hcrew).prefix_results

/-- Two workers have sent one result each when the deadline comes; one of them fills the
channel, the other one finds it closed and is lost. -/
theorem run_visits_each_slot_once_late :
    let p : Pool Nat := { slots := 3, workers := 2, capacity := 1, work := fun slot => some slot }
    let both : List Turn := [.worker 0, .worker 1, .worker 0, .worker 1, .worker 1, .worker 0]
    let turns := both ++ [.worker 1, .deadline, .consumer, .worker 0, .consumer, .consumer,
      .consumer]
    ∃ s, p.run turns = some s ∧ s.outcome? = some ⟨[1], 2, true⟩ ∧ s.claimed.Nodup ∧
      [1].Subperm p.yields := by
  intro p both turns
  obtain ⟨s, hs, ho⟩ : ∃ s, p.run turns = some s ∧ s.outcome? = some ⟨[1], 2, true⟩ := ⟨_, rfl, rfl⟩
  obtain ⟨⟨hnodup, -⟩, -, hlate, -⟩ := run_visits_each_slot_once p turns s hs
  exact ⟨s, hs, ho, hnodup, (hlate _ ho rfl).1⟩

end Triage.Pool
