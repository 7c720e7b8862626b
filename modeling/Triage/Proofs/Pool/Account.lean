/-
What a pool keeps while its parties move in any order.

Every slot below the cursor was worked on once or is in the hands of one worker, and
every result is with the consumer, in the channel or in the hands of one worker,
unless it was lost because the channel was closed.  `Accounted` says this of a state;
it holds at the start and no step of any party breaks it.

With one worker the same account holds in order and not only in number, which is
`InOrder`.
-/
import Mathlib.Data.List.Perm.Basic
import Triage.Proofs.Pool.Step

namespace Triage.Pool

variable {β : Type} {p : Pool β} {s s' : State β}

/-! ### The account -/

/-- The slots in the hands of a worker. -/
def Worker.slots : Worker β → List Nat
  | working slot => [slot]
  | _ => []

/-- The results in the hands of a worker. -/
def Worker.results : Worker β → List β
  | sending result => [result]
  | _ => []

/-- Whether the consumer was stopped by the deadline. -/
def Consumer.isLate : Consumer → Bool
  | receiving => false
  | closing | draining => true
  | counting timedOut | returned _ timedOut => timedOut

/-- Whether the consumer saw the end of the channel. -/
def Consumer.isFinished : Consumer → Bool
  | counting false | returned _ false => true
  | _ => false

/-- What every state of a pool has in common. -/
structure Accounted (p : Pool β) (s : State β) : Prop where
  crew : s.workers.length = p.crew
  counted : s.processed = s.worked.length
  slots : (s.worked ++ s.workers.flatMap Worker.slots).Perm
    (List.range (min s.cursor p.slots))
  results : ∃ lost, (s.results ++ s.channel ++ s.workers.flatMap Worker.results ++ lost).Perm
    (s.worked.filterMap p.work) ∧ (s.closed = false → lost = [])
  late : s.cancelled = s.consumer.isLate
  closed : s.closed = true → s.cancelled = true
  gone : .gone ∈ s.workers → s.cancelled = true ∨ p.slots ≤ s.cursor
  finished : s.consumer.isFinished = true → s.channel = [] ∧ ∀ w ∈ s.workers, w = .gone
  returned : ∀ n timedOut, s.consumer = .returned n timedOut →
    s.results.length ≤ n ∧ n ≤ s.processed ∧ (timedOut = false → n = s.processed)

theorem Accounted.start (p : Pool β) : Accounted p p.start where
  crew := List.length_replicate
  counted := rfl
  slots := by simp [Pool.start, Worker.slots]
  results := ⟨[], by simp [Pool.start, Worker.results], fun _ => rfl⟩
  late := rfl
  closed := nofun
  gone := fun h => nomatch List.eq_of_mem_replicate h
  finished := nofun
  returned := nofun

/-- No result comes from nowhere. -/
theorem Accounted.results_length_le (h : Accounted p s) : s.results.length ≤ s.processed := by
  obtain ⟨lost, hperm, -⟩ := h.results
  have hlength := hperm.length_eq
  have hworked := List.length_filterMap_le p.work s.worked
  simp only [List.length_append] at hlength
  rw [h.counted]
  omega

/-- While there are workers the consumer has not seen the end of the channel. -/
theorem Accounted.not_finished (h : Accounted p s) {w : Worker β} (hw : w ∈ s.workers)
    (hne : w ≠ .gone) : s.consumer.isFinished = false := by
  by_contra hfinished
  exact hne ((h.finished (by simpa using hfinished)).2 w hw)

theorem Step.workers_length {t : Turn} (h : Step p s t s') :
    s'.workers.length = s.workers.length := by
  cases h with
  | stop hw | look hw | claim hw | leave hw | produce hw | drop hw | send hw | fail hw =>
      simp [hw]
  | receive | finish | close | drained | ret | deadline => rfl

/-- No slot is worked on twice, and none is left out. -/
theorem Step.slots {t : Turn} (hstep : Step p s t s')
    (h : (s.worked ++ s.workers.flatMap Worker.slots).Perm
      (List.range (min s.cursor p.slots))) :
    (s'.worked ++ s'.workers.flatMap Worker.slots).Perm
      (List.range (min s'.cursor p.slots)) := by
  cases hstep with
  | stop hw | look hw | send hw | fail hw =>
      simpa [hw, Worker.slots] using h
  | @claim _ before after hw hslot =>
      have hmin : min (s.cursor + 1) p.slots = s.cursor + 1 := by omega
      have hcursor : min s.cursor p.slots = s.cursor := by omega
      rw [hcursor] at h
      show (s.worked ++ (before ++ .working s.cursor :: after).flatMap Worker.slots).Perm
        (List.range (min (s.cursor + 1) p.slots))
      rw [hmin, List.range_succ]
      have hold : (s.worked ++ before.flatMap Worker.slots ++ after.flatMap Worker.slots).Perm
          (List.range s.cursor) := by simpa [hw, Worker.slots] using h
      have hnew : s.worked ++ (before ++ .working s.cursor :: after).flatMap Worker.slots =
          s.worked ++ before.flatMap Worker.slots ++ s.cursor :: after.flatMap Worker.slots := by
        simp [Worker.slots]
      rw [hnew]
      exact List.perm_middle.trans ((hold.cons _).trans (List.perm_append_singleton _ _).symm)
  | leave hw hslot =>
      have hmin : min (s.cursor + 1) p.slots = min s.cursor p.slots := by omega
      rw [hmin]
      simpa [hw, Worker.slots] using h
  | @produce _ slot _ before after hw _ | @drop _ slot before after hw _ =>
      have hold : (s.worked ++ (before.flatMap Worker.slots ++
          slot :: after.flatMap Worker.slots)).Perm (List.range (min s.cursor p.slots)) := by
        simpa [hw, Worker.slots] using h
      refine List.Perm.trans ?_ hold
      simp only [List.flatMap_append, List.flatMap_cons, Worker.slots, List.nil_append,
        List.append_assoc, List.singleton_append]
      exact List.perm_middle.symm.append_left _
  | receive | finish | close | drained | ret | deadline => exact h

/-- No result is lost while the channel is open. -/
theorem Step.results {t : Turn} (hstep : Step p s t s')
    (h : ∃ lost, (s.results ++ s.channel ++ s.workers.flatMap Worker.results ++ lost).Perm
      (s.worked.filterMap p.work) ∧ (s.closed = false → lost = [])) :
    ∃ lost, (s'.results ++ s'.channel ++ s'.workers.flatMap Worker.results ++ lost).Perm
      (s'.worked.filterMap p.work) ∧ (s'.closed = false → lost = []) := by
  obtain ⟨lost, h, hlost⟩ := h
  cases hstep with
  | stop hw | look hw | claim hw | leave hw =>
      exact ⟨lost, by simpa [hw, Worker.results] using h, hlost⟩
  | @produce _ slot result before after hw hwork =>
      refine ⟨lost, ?_, hlost⟩
      have hold : (s.results ++ s.channel ++ before.flatMap Worker.results ++
          (after.flatMap Worker.results ++ lost)).Perm (s.worked.filterMap p.work) := by
        simpa [hw, Worker.results] using h
      have hnew : (s.worked ++ [slot]).filterMap p.work = s.worked.filterMap p.work ++ [result] := by
        simp [hwork]
      have hmiddle : s.results ++ s.channel ++
          (before ++ .sending result :: after).flatMap Worker.results ++ lost =
            s.results ++ s.channel ++ before.flatMap Worker.results ++
              result :: (after.flatMap Worker.results ++ lost) := by
        simp [Worker.results]
      show (_ ++ (before ++ .sending result :: after).flatMap Worker.results ++ lost).Perm
        ((s.worked ++ [slot]).filterMap p.work)
      rw [hnew, hmiddle]
      exact List.perm_middle.trans ((hold.cons _).trans (List.perm_append_singleton _ _).symm)
  | drop hw hwork =>
      exact ⟨lost, by simpa [hw, Worker.results, hwork] using h, hlost⟩
  | @send _ result before after hw hclosed _ =>
      refine ⟨lost, ?_, hlost⟩
      have hold : (s.results ++ (s.channel ++ (before.flatMap Worker.results ++
          result :: (after.flatMap Worker.results ++ lost)))).Perm
            (s.worked.filterMap p.work) := by
        simpa [hw, Worker.results] using h
      refine List.Perm.trans ?_ hold
      simp only [List.flatMap_append, List.flatMap_cons, Worker.results, List.nil_append,
        List.append_assoc, List.cons_append]
      exact (List.perm_middle.symm.append_left _).append_left _
  | @fail _ result before after hw hclosed =>
      have hopen : s.closed ≠ false := by simp [hclosed]
      refine ⟨result :: lost, ?_, fun h => absurd h hopen⟩
      have hold : (s.results ++ (s.channel ++ (before.flatMap Worker.results ++
          result :: (after.flatMap Worker.results ++ lost)))).Perm
            (s.worked.filterMap p.work) := by
        simpa [hw, Worker.results] using h
      refine List.Perm.trans ?_ hold
      simp only [List.flatMap_append, List.flatMap_cons, Worker.results, List.nil_append,
        List.append_assoc]
      exact ((List.perm_middle.append_left _).append_left _).append_left _
  | receive hc hch => exact ⟨lost, by simpa [hch] using h, hlost⟩
  | close => exact ⟨lost, h, nofun⟩
  | finish | drained | ret | deadline => exact ⟨lost, h, hlost⟩

/-- The worker that moves has not left, so the consumer has not seen the end of the channel. -/
theorem Accounted.moves (h : Accounted p s) {before after : List (Worker β)} {w : Worker β}
    (hw : s.workers = before ++ w :: after) (hne : w ≠ .gone) :
    s.consumer.isFinished = false :=
  h.not_finished (by simp [hw]) hne

theorem Accounted.step {t : Turn} (h : Accounted p s) (hstep : Step p s t s') :
    Accounted p s' where
  crew := hstep.workers_length.trans h.crew
  counted := by
    cases hstep with
    | produce | drop => simp [h.counted]
    | _ => exact h.counted
  slots := hstep.slots h.slots
  results := hstep.results h.results
  late := by
    cases hstep with
    | finish hc => exact h.late.trans (by rw [hc]; rfl)
    | close hc => exact h.late.trans (by rw [hc]; rfl)
    | drained hc => exact h.late.trans (by rw [hc]; rfl)
    | ret hc => exact h.late.trans (by rw [hc]; rfl)
    | deadline => rfl
    | _ => exact h.late
  closed := by
    cases hstep with
    | close hc => exact fun _ => h.late.trans (by rw [hc]; rfl)
    | deadline => exact fun _ => rfl
    | _ => exact h.closed
  gone := by
    cases hstep with
    | @stop _ before after _ hflag => exact fun _ => .inl hflag
    | @leave _ before after _ hslot => exact fun _ => .inr (Nat.le_succ_of_le hslot)
    | @fail _ _ before after _ hclosed => exact fun _ => .inl (h.closed hclosed)
    | look hw | produce hw | drop hw | send hw =>
        intro hgone
        exact h.gone (by simpa [hw] using hgone)
    | claim hw =>
        intro hgone
        exact (h.gone (by simpa [hw] using hgone)).imp id Nat.le_succ_of_le
    | deadline => exact fun _ => .inl rfl
    | receive | finish | close | drained | ret => exact h.gone
  finished := by
    cases hstep with
    | stop hw | look hw | claim hw | leave hw | produce hw | drop hw | send hw | fail hw =>
        intro hfinished
        have := h.moves hw nofun
        rw [show s.consumer.isFinished = true from hfinished] at this
        cases this
    | receive hc =>
        intro hfinished
        rcases hc with hc | hc <;>
          · rw [show s.consumer.isFinished = true ↔ _ from Iff.rfl, hc] at hfinished
            cases hfinished
    | finish _ hch hgone => exact fun _ => ⟨hch, hgone⟩
    | close | drained | deadline => exact nofun
    | @ret timedOut hc =>
        intro hfinished
        refine h.finished ?_
        rw [hc]
        cases timedOut with
        | false => rfl
        | true => cases hfinished
  returned := by
    intro n timedOut hreturned
    cases hstep with
    | stop hw | look hw | claim hw | leave hw | send hw | fail hw =>
        exact h.returned n timedOut hreturned
    | produce hw | drop hw =>
        obtain ⟨hresults, hcount, -⟩ := h.returned n timedOut hreturned
        refine ⟨hresults, Nat.le_succ_of_le hcount, ?_⟩
        rintro rfl
        have := h.moves hw nofun
        rw [show s.consumer = _ from hreturned] at this
        cases this
    | receive hc =>
        have hreturned : s.consumer = .returned n timedOut := hreturned
        rcases hc with hc | hc <;>
          · rw [hc] at hreturned
            cases hreturned
    | ret =>
        cases hreturned
        exact ⟨h.results_length_le, Nat.le_refl _, fun _ => rfl⟩
    | finish | close | drained | deadline => cases hreturned

/-! ### The account of one worker

One worker claims the slots in order and sends before it claims the next one, so what
it has done, holds and has sent lines up.  The first result that it cannot send is the
last thing it does.
-/

/-- What every state of a pool with one worker has in common. -/
def InOrder (p : Pool β) (s : State β) : Prop :=
  ∃ w, s.workers = [w] ∧ s.worked ++ w.slots = List.range (min s.cursor p.slots) ∧
    ∃ lost, s.results ++ s.channel ++ w.results ++ lost = s.worked.filterMap p.work ∧
      (s.closed = false → lost = []) ∧ (lost ≠ [] → w = .gone)

theorem InOrder.start (hcrew : p.crew = 1) : InOrder p p.start :=
  ⟨.looking, by rw [Pool.start, hcrew]; rfl, by simp [Pool.start, Worker.slots], [],
    by simp [Pool.start, Worker.results], fun _ => rfl, nofun⟩

theorem eq_of_singleton_eq_append {α : Type} {a b : α} {before after : List α}
    (h : [a] = before ++ b :: after) : before = [] ∧ a = b ∧ after = [] := by
  cases before with
  | nil => simpa using h
  | cons c rest => simp at h

theorem InOrder.step {t : Turn} (h : InOrder p s) (hstep : Step p s t s') : InOrder p s' := by
  obtain ⟨w, hworkers, hslots, lost, hresults, hopen, hlost⟩ := h
  cases hstep with
  | stop hw =>
      obtain ⟨rfl, rfl, rfl⟩ := eq_of_singleton_eq_append (hworkers ▸ hw)
      exact ⟨.gone, rfl, hslots, lost, hresults, hopen, fun _ => rfl⟩
  | look hw =>
      obtain ⟨rfl, rfl, rfl⟩ := eq_of_singleton_eq_append (hworkers ▸ hw)
      exact ⟨.claiming, rfl, hslots, lost, hresults, hopen, fun h => nomatch hlost h⟩
  | claim hw hslot =>
      obtain ⟨rfl, rfl, rfl⟩ := eq_of_singleton_eq_append (hworkers ▸ hw)
      have hmin : min (s.cursor + 1) p.slots = s.cursor + 1 := by omega
      have hcursor : min s.cursor p.slots = s.cursor := by omega
      refine ⟨.working s.cursor, rfl, ?_, lost, hresults, hopen, fun h => nomatch hlost h⟩
      show s.worked ++ [s.cursor] = List.range (min (s.cursor + 1) p.slots)
      rw [hmin, List.range_succ, ← hcursor, ← hslots, hcursor]
      simp [Worker.slots]
  | leave hw hslot =>
      obtain ⟨rfl, rfl, rfl⟩ := eq_of_singleton_eq_append (hworkers ▸ hw)
      have hmin : min (s.cursor + 1) p.slots = min s.cursor p.slots := by omega
      exact ⟨.gone, rfl, hslots.trans (by rw [hmin]), lost, hresults, hopen, fun _ => rfl⟩
  | @produce _ slot result _ _ hw hwork =>
      obtain ⟨rfl, rfl, rfl⟩ := eq_of_singleton_eq_append (hworkers ▸ hw)
      have hnone : lost = [] := by
        by_contra hne
        exact nomatch hlost hne
      refine ⟨.sending result, rfl, by simpa [Worker.slots] using hslots, [], ?_, fun _ => rfl,
        nofun⟩
      have hold : s.results ++ s.channel = s.worked.filterMap p.work := by
        simpa [hnone, Worker.results] using hresults
      show s.results ++ s.channel ++ [result] ++ [] = (s.worked ++ [slot]).filterMap p.work
      rw [hold]
      simp [hwork]
  | @drop _ slot _ _ hw hwork =>
      obtain ⟨rfl, rfl, rfl⟩ := eq_of_singleton_eq_append (hworkers ▸ hw)
      refine ⟨.looking, rfl, by simpa [Worker.slots] using hslots, lost, ?_, hopen,
        fun h => nomatch hlost h⟩
      simpa [Worker.results, hwork] using hresults
  | send hw =>
      obtain ⟨rfl, rfl, rfl⟩ := eq_of_singleton_eq_append (hworkers ▸ hw)
      refine ⟨.looking, rfl, hslots, lost, ?_, hopen, fun h => nomatch hlost h⟩
      simpa [Worker.results] using hresults
  | @fail _ result _ _ hw hclosed =>
      obtain ⟨rfl, rfl, rfl⟩ := eq_of_singleton_eq_append (hworkers ▸ hw)
      have hne : s.closed ≠ false := by simp [hclosed]
      refine ⟨.gone, rfl, hslots, result :: lost, ?_, fun h => absurd h hne, fun _ => rfl⟩
      simpa [Worker.results] using hresults
  | receive hc hch =>
      exact ⟨w, hworkers, hslots, lost, by simpa [hch] using hresults, hopen, hlost⟩
  | close => exact ⟨w, hworkers, hslots, lost, hresults, nofun, hlost⟩
  | finish | drained | ret | deadline =>
      exact ⟨w, hworkers, hslots, lost, hresults, hopen, hlost⟩

end Triage.Pool
