/-
Every pool returns, and in time it returns the results of all slots.

Each step lowers a measure, and a pool that has not returned has a party that can
move, so that it cannot go on for ever and is never stuck.  A pool that returns in
time finds nothing in hands or in the channel; its results are then those of all
slots, and with one worker they come in the order of the slots.
-/
import Triage.Proofs.Inevitable
import Triage.Proofs.Pool.Account

namespace Triage.Pool

variable {β : Type} {p : Pool β} {s s' : State β}

/-! ### Every pool returns

Each step lowers `left`, and a pool that has not returned has a party that can move:
a worker waits only for room in the channel, and then the consumer has something to
receive.
-/

/-- What a worker can still do before it takes another slot. -/
def Worker.left : Worker β → Nat
  | working _ => 5
  | sending _ => 4
  | looking => 2
  | claiming => 1
  | gone => 0

/-- What the consumer can still do apart from receiving. -/
def Consumer.left : Consumer → Nat
  | receiving => 4
  | closing => 3
  | draining => 2
  | counting _ => 1
  | returned .. => 0

/-- What all workers can still do. -/
def crewLeft : List (Worker β) → Nat
  | [] => 0
  | w :: rest => w.left + crewLeft rest

theorem crewLeft_append_cons (before after : List (Worker β)) (w : Worker β) :
    crewLeft (before ++ w :: after) = w.left + crewLeft (before ++ after) := by
  induction before with
  | nil => rfl
  | cons first rest ih =>
      rw [List.cons_append, List.cons_append, crewLeft, crewLeft, ih]
      omega

/-- A bound on the steps that are left. -/
def State.left (p : Pool β) (s : State β) : Nat :=
  5 * (p.slots - s.cursor) + crewLeft s.workers + s.channel.length + s.consumer.left

theorem Step.left_lt {t : Turn} (h : Step p s t s') : s'.left p < s.left p := by
  cases h with
  | stop hw | look hw | claim hw | leave hw | produce hw | drop hw | send hw | fail hw =>
      simp only [State.left, hw, crewLeft_append_cons, Worker.left, List.length_append,
        List.length_singleton]
      omega
  | receive _ hch =>
      simp only [State.left, hch, List.length_cons]
      omega
  | finish hc | close hc | drained hc | ret hc | deadline hc =>
      simp only [State.left, hc, Consumer.left]
      omega

/-- A worker can move unless it has left or waits for room. -/
theorem exists_step_worker {w : Worker β} (hw : w ∈ s.workers) (hne : w ≠ .gone)
    (hroom : s.channel.length < p.room) : ∃ i, (p.step s (.worker i)).isSome = true := by
  obtain ⟨i, hi⟩ := List.mem_iff_getElem?.1 hw
  refine ⟨i, ?_⟩
  cases w with
  | looking | claiming | working => simp [step, act, hi]
  | sending result =>
      by_cases hclosed : s.closed = true
      · simp [step, act, hi, hclosed]
      · simp [step, act, hi, hclosed, hroom]
  | gone => exact absurd rfl hne

theorem exists_step (p : Pool β) {s : State β} (h : s.outcome? = none) :
    ∃ t, t ≠ .deadline ∧ (p.step s t).isSome = true := by
  have hworker : ∀ i, Turn.worker i ≠ .deadline := by simp
  have hconsumer : Turn.consumer ≠ .deadline := by simp
  cases hc : s.consumer with
  | receiving =>
      cases hch : s.channel with
      | cons result rest => exact ⟨.consumer, hconsumer, by simp [step, consume, hc, hch]⟩
      | nil =>
          by_cases hgone : s.workers.all Worker.isGone = true
          · exact ⟨.consumer, hconsumer, by simp only [step, consume, hc, hch, if_pos hgone]; rfl⟩
          · obtain ⟨w, hw, hne⟩ : ∃ w ∈ s.workers, ¬w.isGone = true := by
              simpa using hgone
            have hroom : s.channel.length < p.room := by
              rw [hch, room, List.length_nil]
              omega
            obtain ⟨i, hi⟩ := exists_step_worker hw (fun h => hne (isGone_iff.2 h)) hroom
            exact ⟨.worker i, hworker i, hi⟩
  | draining =>
      cases hch : s.channel with
      | cons result rest => exact ⟨.consumer, hconsumer, by simp [step, consume, hc, hch]⟩
      | nil => exact ⟨.consumer, hconsumer, by simp [step, consume, hc, hch]⟩
  | closing | counting => exact ⟨.consumer, hconsumer, by simp [step, consume, hc]⟩
  | returned => simp [State.outcome?, hc] at h

/-! ### In time -/

/-- What it means for a pool to have returned in time, with the results of all slots. -/
structure Complete (p : Pool β) (s : State β) (o : Outcome β) : Prop where
  returned : s.outcome? = some o
  inTime : o.timedOut = false
  processed : o.processed = p.slots
  results : o.results.Perm ((List.range p.slots).filterMap p.work)
  inOrder : p.crew = 1 → o.results = (List.range p.slots).filterMap p.work

/-- Slots that go through a list yield what the list does. -/
theorem filterMap_range_length {α : Type} (l : List α) (f : α → Option β) :
    (List.range l.length).filterMap (fun slot => l[slot]?.bind f) = l.filterMap f := by
  induction l with
  | nil => rfl
  | cons a rest ih =>
      rw [List.length_cons, List.range_succ_eq_map, List.filterMap_cons, List.filterMap_map,
        List.filterMap_cons]
      exact congrArg (fun tail => match f a with | none => tail | some b => b :: tail) ih

/-- The first slots yield what the first items of the list do. -/
theorem filterMap_range_take {α : Type} {l : List α} {k : Nat} (h : k ≤ l.length)
    (f : α → Option β) :
    (List.range k).filterMap (fun slot => l[slot]?.bind f) = (l.take k).filterMap f := by
  rw [← filterMap_range_length (l.take k), List.length_take, Nat.min_eq_left h]
  refine List.filterMap_congr fun slot hslot => ?_
  rw [List.getElem?_take_of_lt (List.mem_range.1 hslot)]

theorem crew_pos (p : Pool β) : 0 < p.crew :=
  Nat.lt_of_lt_of_le Nat.zero_lt_one (Nat.le_max_left 1 _)

/-- One worker is a crew of one. -/
theorem crew_of_one (h : p.workers = 1) : p.crew = 1 := by
  rw [crew, h]
  omega

theorem flatMap_of_gone {α : Type} {f : Worker β → List α} (hf : f .gone = [])
    {workers : List (Worker β)} (h : ∀ w ∈ workers, w = .gone) : workers.flatMap f = [] := by
  rw [List.flatMap_eq_nil_iff]
  intro w hw
  rw [h w hw, hf]

/-- A pool that returns in time has worked on every slot, and nothing of it is left. -/
theorem Accounted.complete {o : Outcome β} (h : Accounted p s) (hone : p.crew = 1 → InOrder p s)
    (ho : s.outcome? = some o) (htime : o.timedOut = false) : Complete p s o := by
  obtain ⟨n, hc, rfl⟩ : ∃ n, s.consumer = .returned n false ∧ o = ⟨s.results, n, false⟩ := by
    unfold State.outcome? at ho
    split at ho
    · rename_i n timedOut hc
      cases ho
      cases htime
      exact ⟨n, hc, rfl⟩
    · cases ho
  have hlate : s.cancelled = false := by rw [h.late, hc]; rfl
  have hclosed : s.closed = false := by
    by_contra hne
    rw [h.closed (by simpa using hne)] at hlate
    cases hlate
  obtain ⟨hch, hgone⟩ := h.finished (by rw [hc]; rfl)
  have hcursor : p.slots ≤ s.cursor := by
    have hpos : 0 < s.workers.length := h.crew ▸ p.crew_pos
    have hmem := List.getElem_mem hpos
    rw [hgone _ hmem] at hmem
    exact (h.gone hmem).resolve_left (by simp [hlate])
  have hmin : min s.cursor p.slots = p.slots := Nat.min_eq_right hcursor
  have hworked : s.worked.Perm (List.range p.slots) := by
    simpa [flatMap_of_gone (f := Worker.slots) rfl hgone, hmin] using h.slots
  refine ⟨ho, rfl, ?_, ?_, fun hcrew => ?_⟩
  · show n = p.slots
    rw [(h.returned n false hc).2.2 rfl, h.counted, hworked.length_eq, List.length_range]
  · obtain ⟨lost, hperm, hlost⟩ := h.results
    rw [hlost hclosed, hch, flatMap_of_gone (f := Worker.results) rfl hgone] at hperm
    simp only [List.append_nil] at hperm
    exact hperm.trans (hworked.filterMap p.work)
  · obtain ⟨w, hw, hslots, lost, hresults, hlost, -⟩ := hone hcrew
    have hw : w = .gone := hgone w (by simp [hw])
    rw [hw, hmin] at hslots
    rw [hw, hlost hclosed, hch] at hresults
    simp only [Worker.slots, Worker.results, List.append_nil] at hslots hresults
    show s.results = (List.range p.slots).filterMap p.work
    rw [← hslots, hresults]

/-- A step that is not that of the deadline. -/
def Quiet (p : Pool β) (s s' : State β) : Prop :=
  ∃ t, t ≠ .deadline ∧ p.step s t = some s'

theorem Step.cancelled {t : Turn} (h : Step p s t s') (ht : t ≠ .deadline) :
    s'.cancelled = s.cancelled := by
  cases h with
  | deadline => exact absurd rfl ht
  | _ => rfl

/-- **Main result.** While the deadline keeps away, a pool returns with the results of all
slots, however its workers and its consumer take turns; one worker keeps their order. -/
theorem inevitable_complete (p : Pool β) :
    Inevitable p.Quiet (fun s => ∃ o, Complete p s o) p.start := by
  refine inevitable_of_measure (State.left p)
    (fun s => Accounted p s ∧ s.cancelled = false ∧ (p.crew = 1 → InOrder p s)) ?_ ?_ ?_ _
    ⟨.start p, rfl, InOrder.start⟩
  · rintro s s' - ⟨t, -, hstep⟩
    exact (Step.of_step hstep).left_lt
  · rintro s s' ⟨h, hflag, hone⟩ ⟨t, ht, hstep⟩
    have hstep := Step.of_step hstep
    exact ⟨h.step hstep, (hstep.cancelled ht).trans hflag, fun hcrew => (hone hcrew).step hstep⟩
  · rintro s ⟨h, hflag, hone⟩
    cases ho : s.outcome? with
    | none =>
        obtain ⟨t, ht, hmove⟩ := exists_step p ho
        obtain ⟨s', hs'⟩ := Option.isSome_iff_exists.1 hmove
        exact .inr ⟨s', t, ht, hs'⟩
    | some o =>
        refine .inl ⟨o, h.complete hone ho ?_⟩
        unfold State.outcome? at ho
        split at ho
        · rename_i hc
          cases ho
          rw [h.late, hc] at hflag
          exact hflag
        · cases ho

end Triage.Pool
