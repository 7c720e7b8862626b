/-
No key is lost, whatever the schedule.

The account of `Proofs/Cache/Prefetching/Account.lean` holds after every schedule, and what becomes
of a key is read off it.  A key that was taken in stays so until it is processed, and the worker
does not leave before; a caller that has shut the queue down comes back when the worker has left,
and from then on nothing is taken in.  Each step lowers a measure, and a caller that waits waits for
somebody who can move, so that every call comes to an end.
-/
import Triage.Proofs.Cache.Prefetching.Account
import Triage.Proofs.Inevitable

namespace Triage.Cache.Prefetching

variable {p : Prefetching} {s s' : State} {i : Nat} {key : String} {c : Caller}

/-! ### Steps of any party -/

/-- Whether a state comes next. -/
def Next (p : Prefetching) (s s' : State) : Prop := ∃ t, p.step s t = some s'

/-- Whether a state may come later, or is the same. -/
def Later (p : Prefetching) : State → State → Prop := Relation.ReflTransGen p.Next

/-- What a step keeps, a state that may come later has. -/
theorem Later.keeps {P : State → Prop} (hlater : p.Later s s')
    (hstep : ∀ s s', P s → Step p s s' → P s') (h : P s) : P s' := by
  induction hlater with
  | refl => exact h
  | tail _ hnext ih =>
      obtain ⟨t, ht⟩ := hnext
      exact hstep _ _ ih (.of_step ht)

theorem later_of_run {turns : List Turn} (h : p.run s turns = some s') : p.Later s s' := by
  induction turns generalizing s with
  | nil =>
      cases h
      exact .refl
  | cons t rest ih =>
      obtain ⟨s₁, ht, hrest⟩ := Option.bind_eq_some_iff.1 h
      exact .head ⟨t, ht⟩ (ih hrest)

theorem Accounted.later (h : Accounted p s) (hlater : p.Later s s') : Accounted p s' :=
  hlater.keeps (fun _ _ h hstep => h.step hstep) h

theorem accounted_of_run {turns : List Turn} (h : p.run p.start turns = some s) : Accounted p s :=
  (Accounted.start p).later (later_of_run h)

/-! ### What lasts -/

theorem Step.getElem?_of_told {answer : Bool} (hstep : Step p s s')
    (h : s.callers[i]? = some (.told key answer)) : s'.callers[i]? = some (.told key answer) := by
  cases hstep with
  | count hc | accept hc | refuse hc | drop hc | shut hc | lock hc | pass hc | join hc =>
      exact (getElem?_set_iff hc).2 (.inr ⟨ne_of_getElem? hc h nofun, h⟩)
  | take | process | leave => exact h

/-- What a caller was told stays true. -/
theorem Later.told {answer : Bool} (hlater : p.Later s s')
    (h : s.callers[i]? = some (.told key answer)) : s'.callers[i]? = some (.told key answer) :=
  hlater.keeps (fun _ _ h hstep => hstep.getElem?_of_told h) h

theorem Step.mem_processed (hstep : Step p s s') (h : (i, key) ∈ s.processed) :
    (i, key) ∈ s'.processed := by
  cases hstep with
  | process => exact List.mem_append_left _ h
  | _ => exact h

theorem Step.returned (hstep : Step p s s') (h : .returned ∈ s.callers) :
    .returned ∈ s'.callers := by
  cases hstep with
  | count hc | accept hc | refuse hc | drop hc | shut hc | lock hc | pass hc | join hc =>
      exact mem_set_of_ne hc h nofun
  | take | process | leave => exact h

/-- Nothing is taken in by a closed queue. -/
theorem Step.taken_of_closed (hstep : Step p s s') (hclosed : s.isOpen = false) :
    s'.isOpen = false ∧ s'.taken = s.taken := by
  cases hstep with
  | accept _ hopen =>
      rw [hclosed] at hopen
      cases hopen
  | shut => exact ⟨rfl, rfl⟩
  | take hworker hline => exact ⟨hclosed, by simp [State.taken, hworker, hline, Worker.hand]⟩
  | process hworker | leave hworker =>
      exact ⟨hclosed, by simp [State.taken, hworker, Worker.hand]⟩
  | count | refuse | drop | lock | pass | join => exact ⟨hclosed, rfl⟩

theorem Later.taken_of_closed (hlater : p.Later s s') (hclosed : s.isOpen = false) :
    s'.taken = s.taken := by
  let unchanged (s₁ : State) : Prop := s₁.isOpen = false ∧ s₁.taken = s.taken
  have hunchanged : unchanged s' := by
    refine hlater.keeps ?_ ⟨hclosed, rfl⟩
    rintro s₁ s₂ ⟨hopen, htaken⟩ hstep
    exact (hstep.taken_of_closed hopen).imp_right (·.trans htaken)
  exact hunchanged.2

/-! ### What becomes of a key -/

/-- A key that has been processed is so once, and for good. -/
theorem Accounted.count_processed (h : Accounted p s) (hmem : (i, key) ∈ s.processed)
    (hlater : p.Later s s') : s'.processed.count (i, key) = 1 := by
  have hmem' : (i, key) ∈ s'.processed :=
    hlater.keeps (fun _ _ h hstep => hstep.mem_processed h) hmem
  exact List.count_eq_one_of_mem (h.later hlater).nodup_processed hmem'

/-- A key is not both processed and dropped. -/
theorem Accounted.count_add_count_le (h : Accounted p s) (entry : Nat × String) :
    s.processed.count entry + s.dropped.count entry ≤ 1 := by
  have hprocessed := List.nodup_iff_count_le_one.1 h.nodup_processed entry
  have hdropped := List.nodup_iff_count_le_one.1 h.refuses.nodup entry
  by_cases hmem : entry ∈ s.dropped
  · have hrefused := (h.refuses.mem_iff entry.1 entry.2).1 hmem
    have hnot : entry ∉ s.processed := fun hmem' => by
      have haccepted := (h.accepts.mem_iff entry.1 entry.2).1 (State.mem_taken_of_processed hmem')
      cases haccepted.symm.trans hrefused
    rw [List.count_eq_zero_of_not_mem hnot]
    omega
  · rw [List.count_eq_zero_of_not_mem hmem]
    omega

/-- After a shutdown has returned, nothing is in the queue or in hand. -/
theorem Accounted.drained (h : Accounted p s) (hreturned : .returned ∈ s.callers) :
    s.isOpen = false ∧ s.line = [] ∧ s.worker.hand = [] := by
  have hgone := h.spent (h.returned hreturned)
  obtain ⟨hclosed, hline⟩ := h.gone hgone
  exact ⟨hclosed, hline, by rw [hgone]; rfl⟩

/-! ### Every call ends -/

/-- What a caller can still do. A key that is offered counts with its way through the queue. -/
def Caller.left : Caller → Nat
  | counting _ => 5
  | offering _ => 4
  | dropping _ => 1
  | sealing => 3
  | locking => 2
  | joining => 1
  | told .. | returned => 0

/-- What the worker can still do without taking another key. -/
def Worker.left : Worker → Nat
  | handling _ => 2
  | waiting => 1
  | gone => 0

/-- A bound on the steps that are left. -/
def State.left (s : State) : Nat :=
  total Caller.left s.callers + 2 * s.line.length + s.worker.left

theorem total_left_lt {callers : List Caller} {c' : Caller} (hc : callers[i]? = some c)
    (hlt : c'.left < c.left) : total Caller.left (callers.set i c') < total Caller.left callers := by
  have htotal := total_set Caller.left hc c'
  omega

theorem Step.left_lt (hstep : Step p s s') : s'.left < s.left := by
  cases hstep with
  | count hc | refuse hc | drop hc | shut hc | lock hc | pass hc | join hc =>
      refine Nat.add_lt_add_right (Nat.add_lt_add_right (total_left_lt hc ?_) _) _
      simp only [Caller.left]
      omega
  | @accept i key hc =>
      have htotal : total Caller.left (s.callers.set i (.told key true)) + 4 =
        total Caller.left s.callers + 0 := total_set Caller.left hc _
      simp only [State.left, List.length_append, List.length_singleton]
      omega
  | take hworker hline =>
      simp only [State.left, hworker, hline, Worker.left, List.length_cons]
      omega
  | process hworker | leave hworker =>
      simp only [State.left, hworker, Worker.left]
      omega

/-- Whether a call is over. -/
def Caller.isOver : Caller → Bool
  | told .. | returned => true
  | _ => false

/-- The worker can move while there is something in hand or in the queue, and when it is closed. -/
theorem Accounted.worker_moves (h : Accounted p s)
    (hleft : s.worker.hand ++ s.line ≠ [] ∨ (s.isOpen = false ∧ s.worker ≠ .gone)) :
    ∃ s', p.Next s s' := by
  cases hworker : s.worker with
  | handling entry => exact ⟨_, .worker, step_process hworker⟩
  | waiting =>
      cases hline : s.line with
      | cons entry rest => exact ⟨_, .worker, step_take hworker hline⟩
      | nil =>
          have hclosed : s.isOpen = false := by
            rcases hleft with hne | ⟨hclosed, -⟩
            · exact absurd (by rw [hworker, hline]; rfl) hne
            · exact hclosed
          exact ⟨_, .worker, step_leave hworker hline hclosed⟩
  | gone =>
      rcases hleft with hne | ⟨-, hne⟩
      · exact absurd (by rw [hworker, (h.gone hworker).2]; rfl) hne
      · exact absurd hworker hne

theorem caller_moves {c' : Caller} {s₁ : State} (hc : s.callers[i]? = some c)
    (hact : p.act s i c = some (s₁, c')) : ∃ s', p.Next s s' :=
  ⟨_, .caller i, step_caller hc hact⟩

/-- The caller that has the worker's handle waits for the worker at most. -/
theorem Accounted.joining_moves (h : Accounted p s) (hjoining : .joining ∈ s.callers) :
    ∃ s', p.Next s s' := by
  obtain ⟨i, hi⟩ := List.mem_iff_getElem?.1 hjoining
  by_cases hgone : s.worker = .gone
  · exact caller_moves hi (if_pos hgone)
  · exact h.worker_moves (.inr ⟨h.closed _ hjoining rfl, hgone⟩)

/-- While a call is not over, somebody can move. -/
theorem Accounted.exists_next (h : Accounted p s) (hc : c ∈ s.callers) (hover : c.isOver = false) :
    ∃ s', p.Next s s' := by
  obtain ⟨i, hi⟩ := List.mem_iff_getElem?.1 hc
  cases c with
  | counting key | dropping key | sealing => exact caller_moves hi rfl
  | offering key =>
      by_cases hroom : s.isOpen ∧ s.line.length < p.room
      · exact caller_moves hi (if_pos hroom)
      · exact caller_moves hi (if_neg hroom)
  | locking =>
      cases hhandle : s.handle with
      | kept => exact caller_moves hi (by rw [act, hhandle])
      | held =>
          -- This caller cannot move, but the one that has the handle is waiting for the worker.
          exact h.joining_moves (h.held hhandle)
      | spent => exact caller_moves hi (by rw [act, hhandle])
  | joining => exact h.joining_moves hc
  | told | returned => cases hover

/-- What the account and a property that lasts keep from being stuck is reached for certain. -/
theorem Accounted.inevitable {P : State → Prop} {holds : State → Prop} (hs : Accounted p s)
    (h : holds s) (hkeep : ∀ s s', holds s → Step p s s' → holds s')
    (hmoves : ∀ s, Accounted p s → holds s → P s ∨ ∃ s', p.Next s s') :
    Inevitable p.Next P s := by
  refine inevitable_of_measure State.left (fun s => Accounted p s ∧ holds s) ?_ ?_ ?_ s ⟨hs, h⟩
  · rintro s s' - ⟨t, ht⟩
    exact (Step.of_step ht).left_lt
  · rintro s s' ⟨hs, h⟩ ⟨t, ht⟩
    exact ⟨hs.step (.of_step ht), hkeep s s' h (.of_step ht)⟩
  · rintro s ⟨hs, h⟩
    exact hmoves s hs h

/-- Whoever moves next, every call comes to an end. -/
theorem Accounted.inevitable_over (h : Accounted p s) :
    Inevitable p.Next (fun s' => ∀ c ∈ s'.callers, c.isOver = true) s := by
  refine h.inevitable trivial (fun _ _ _ _ => trivial) fun s hs _ => ?_
  by_cases hover : ∀ c ∈ s.callers, c.isOver = true
  · exact .inl hover
  · simp only [not_forall, Bool.not_eq_true] at hover
    obtain ⟨c, hc, hover⟩ := hover
    exact .inr (hs.exists_next hc hover)

/-- Whoever moves next, a key that was taken in is processed. -/
theorem Accounted.inevitable_processed (h : Accounted p s)
    (haccepted : s.callers[i]? = some (.told key true)) :
    Inevitable p.Next (fun s' => ∀ s'', p.Later s' s'' → s''.processed.count (i, key) = 1) s := by
  refine h.inevitable haccepted (fun _ _ htold hstep => hstep.getElem?_of_told htold)
    fun s hs htold => ?_
  by_cases hmem : (i, key) ∈ s.processed
  · exact .inl fun _ hlater => hs.count_processed hmem hlater
  · -- What was taken in and is not processed is in hand or in the queue.
    refine .inr (hs.worker_moves (.inl fun hnil => hmem ?_))
    have htaken := (hs.accepts.mem_iff i key).2 htold
    rw [State.taken, List.append_assoc, hnil, List.append_nil] at htaken
    exact htaken

/-- A caller that is told so can rely on its key being processed, and no other caller can. -/
theorem Accounted.accepted_iff {accepted : Bool} (h : Accounted p s)
    (htold : s.callers[i]? = some (.told key accepted)) :
    accepted = true ↔ Inevitable p.Next
      (fun s' => ∀ s'', p.Later s' s'' → s''.processed.count (i, key) = 1) s := by
  constructor
  · rintro rfl
    exact h.inevitable_processed htold
  · intro hinevitable
    obtain ⟨s', hlater, honce⟩ := hinevitable.exists_reached
    have hmem : (i, key) ∈ s'.processed := List.count_pos_iff.1 (by rw [honce s' .refl]; decide)
    have haccepted :=
      ((h.later hlater).accepts.mem_iff i key).1 (State.mem_taken_of_processed hmem)
    cases haccepted.symm.trans (Later.told hlater htold)
    rfl

theorem Accounted.refused_iff {accepted : Bool} (h : Accounted p s)
    (htold : s.callers[i]? = some (.told key accepted)) :
    accepted = false ↔ s.dropped.count (i, key) = 1 := by
  rw [h.refuses.count_eq_one_iff, htold]
  simp

/-- What a caller is told is told of the key that it handed in. -/
theorem Accounted.demand_of_told {answer : Bool} (h : Accounted p s)
    (htold : s.callers[i]? = some (.told key answer)) : p.demands[i]? = some (.enqueue key) := by
  rw [← h.demands, List.getElem?_map, htold]
  rfl

/-- A call that begins after a shutdown has returned is refused. -/
theorem Accounted.refused_of_returned {accepted : Bool} (h : Accounted p s)
    (hreturned : .returned ∈ s.callers) (hlater : p.Later s s')
    (hlate : s.callers[i]? = some (.counting key))
    (htold : s'.callers[i]? = some (.told key accepted)) : accepted = false := by
  by_contra haccepted
  rw [Bool.not_eq_false] at haccepted
  subst haccepted
  have htaken : (i, key) ∈ s.taken := by
    rw [← hlater.taken_of_closed (h.drained hreturned).1]
    exact ((h.later hlater).accepts.mem_iff i key).2 htold
  cases hlate.symm.trans ((h.accepts.mem_iff i key).1 htaken)

/-! ### Between the calls -/

/-- Whether no caller is in the middle of handing in a key. -/
def State.isSettled (s : State) : Bool := s.callers.all fun c => c.undecided = 0

theorem undecided_of_isSettled (h : s.isSettled = true) : undecided s.callers = 0 := by
  refine total_eq_zero fun c hc => ?_
  simpa using List.all_eq_true.1 h c hc

theorem Accounted.prefetches_of_isSettled (h : Accounted p s) (hsettled : s.isSettled = true) :
    s.counters.prefetches = s.counters.prefetchProcessed + s.counters.prefetchDropped +
      (s.line.length + s.worker.hand.length) := by
  rw [h.prefetches, h.processed, h.dropped, undecided_of_isSettled hsettled, State.taken]
  simp only [List.length_append]
  omega

/--
**No key is lost, whatever the schedule.**  While no caller is in the middle of handing in a key,
every key that was counted is counted as processed or dropped, in the queue, or in the hands of the
worker.  A caller is told that its key was taken in exactly if the key will be processed, once, and
that it was not exactly if the key is counted as dropped, and never both.  When a shutdown has
returned, nothing is queued or in hand any more, and all calls that begin later are refused.  And
every call returns, whoever moves next.
-/
theorem no_key_is_lost (p : Prefetching) (turns : List Turn) (s : State)
    (h : p.run p.start turns = some s) :
    (s.counters.prefetchProcessed = s.processed.length ∧
      s.counters.prefetchDropped = s.dropped.length ∧
      (s.isSettled = true → s.counters.prefetches = s.counters.prefetchProcessed +
        s.counters.prefetchDropped + (s.line.length + s.worker.hand.length))) ∧
    (∀ (i : Nat) (key : String) (accepted : Bool), s.callers[i]? = some (.told key accepted) →
      p.demands[i]? = some (.enqueue key) ∧
      (accepted = true ↔ Inevitable p.Next
        (fun s' => ∀ s'', p.Later s' s'' → s''.processed.count (i, key) = 1) s) ∧
      (accepted = false ↔ s.dropped.count (i, key) = 1) ∧
      ∀ s', p.Later s s' → s'.processed.count (i, key) + s'.dropped.count (i, key) ≤ 1) ∧
    (.returned ∈ s.callers → ∀ s', p.Later s s' →
      s'.line = [] ∧ s'.worker.hand = [] ∧
      (s'.isSettled = true → s'.counters.prefetches =
        s'.counters.prefetchProcessed + s'.counters.prefetchDropped) ∧
      ∀ (i : Nat) (key : String) (accepted : Bool), s.callers[i]? = some (.counting key) →
        s'.callers[i]? = some (.told key accepted) →
          accepted = false ∧ s'.dropped.count (i, key) = 1) ∧
    Inevitable p.Next (fun s' => ∀ c ∈ s'.callers, c.isOver = true) s := by
  have hs := accounted_of_run h
  refine ⟨⟨hs.processed, hs.dropped, hs.prefetches_of_isSettled⟩, fun i key accepted htold => ?_,
    fun hreturned s' hlater => ?_, hs.inevitable_over⟩
  · exact ⟨hs.demand_of_told htold, hs.accepted_iff htold, hs.refused_iff htold,
      fun s' hlater => (hs.later hlater).count_add_count_le (i, key)⟩
  · have hs' := hs.later hlater
    have hreturned' : .returned ∈ s'.callers :=
      hlater.keeps (fun _ _ h hstep => hstep.returned h) hreturned
    obtain ⟨-, hline, hhand⟩ := hs'.drained hreturned'
    refine ⟨hline, hhand, fun hsettled => ?_, fun i key accepted hlate htold => ?_⟩
    · rw [hs'.prefetches_of_isSettled hsettled, hline, hhand]
      rfl
    · have hrefused := hs.refused_of_returned hreturned hlater hlate htold
      exact ⟨hrefused, (hs'.refused_iff htold).1 hrefused⟩

/-- The first key fills the queue and the second one is dropped; of two callers that shut down, one
waits for the other.  The key that comes too late is dropped as well. -/
theorem no_key_is_lost_twice_shut :
    let p : Prefetching := ⟨1, [.enqueue "a", .enqueue "b", .shutdown, .shutdown, .enqueue "a"]⟩
    let first : List Turn := [.caller 0, .caller 1, .caller 0, .caller 2, .caller 1, .caller 1,
      .caller 3, .caller 2, .worker, .worker, .worker, .caller 2, .caller 3]
    let late : List Turn := [.caller 4, .caller 4, .caller 4]
    ∃ s s', p.run p.start first = some s ∧
      s.counters = { prefetches := 2, prefetchProcessed := 1, prefetchDropped := 1 } ∧
      s.callers = [.told "a" true, .told "b" false, .returned, .returned, .counting "a"] ∧
      s.dropped.count (1, "b") = 1 ∧ p.run s late = some s' ∧
      s'.callers[4]? = some (.told "a" false) ∧ s'.dropped.count (4, "a") = 1 := by
  intro p first late
  obtain ⟨s, s', hs, hcounters, hcallers, hlate, htold⟩ : ∃ s s', p.run p.start first = some s ∧
      s.counters = { prefetches := 2, prefetchProcessed := 1, prefetchDropped := 1 } ∧
      s.callers = [.told "a" true, .told "b" false, .returned, .returned, .counting "a"] ∧
      p.run s late = some s' ∧ s'.callers[4]? = some (.told "a" false) :=
    ⟨_, _, rfl, rfl, rfl, rfl, rfl⟩
  obtain ⟨-, hanswers, hshut, -⟩ := no_key_is_lost p first s hs
  obtain ⟨-, -, hdropped, -⟩ := hanswers 1 "b" false (by rw [hcallers]; rfl)
  obtain ⟨-, -, -, hrefused⟩ := hshut (by rw [hcallers]; decide) s' (later_of_run hlate)
  exact ⟨s, s', hs, hcounters, hcallers, hdropped.1 rfl, hlate, htold,
    (hrefused 4 "a" false (by rw [hcallers]; rfl) htold).2⟩

end Triage.Cache.Prefetching
