/-
How far a run comes under a deadline.

A run works on the items before the first one that the deadline is reached before, one after the
other, and on nothing else.  So its answer is honest: it is the whole answer exactly if the deadline
is never reached, and otherwise it tells how many items were worked on and what came of them.  The
stopwatch is read in nanoseconds, the time that a run has is told in milliseconds.
-/
import Mathlib.Order.Monotone.Basic
import Triage.Deadline

namespace Triage

/-! ### How far a run comes -/

/-- How many of the next items are worked on when so many are done: those before the first one that
the deadline is reached before. -/
def reached (stops : Nat → Bool) (done : Nat) : Nat → Nat
  | 0 => 0
  | count + 1 => if stops done then 0 else reached stops (done + 1) count + 1

section

variable {stops : Nat → Bool} {done count k : Nat}

/-- No item before that one is stopped. -/
theorem not_stopped_of_lt_reached (hk : k < reached stops done count) :
    stops (done + k) = false := by
  induction count generalizing done k with
  | zero => simp [reached] at hk
  | succ count ih =>
      rw [reached] at hk
      by_cases hnow : stops done = true
      · simp [hnow] at hk
      · rw [if_neg hnow] at hk
        cases k with
        | zero => simpa using hnow
        | succ k =>
            have hrest : stops (done + 1 + k) = false := ih (by omega)
            rwa [Nat.add_assoc, Nat.add_comm 1 k] at hrest

/-- The run stops there, unless it comes to the end. -/
theorem stopped_of_reached_lt (h : reached stops done count < count) :
    stops (done + reached stops done count) = true := by
  induction count generalizing done with
  | zero => omega
  | succ count ih =>
      rw [reached] at h ⊢
      by_cases hnow : stops done = true
      · simp [hnow]
      · rw [if_neg hnow] at h ⊢
        have hrest : stops (done + 1 + reached stops (done + 1) count) = true := ih (by omega)
        rwa [Nat.add_assoc, Nat.add_comm 1] at hrest

theorem reached_le (stops : Nat → Bool) (done count : Nat) :
    reached stops done count ≤ count := by
  induction count generalizing done with
  | zero => rfl
  | succ count ih =>
      rw [reached]
      split
      · omega
      · exact Nat.succ_le_succ (ih _)

/-- A run that is not stopped comes to the end. -/
theorem reached_of_not_stopped (h : ∀ k < count, stops k = false) :
    reached stops 0 count = count := by
  by_contra hne
  have hlt : reached stops 0 count < count := Nat.lt_of_le_of_ne (reached_le stops 0 count) hne
  have hstop := stopped_of_reached_lt hlt
  rw [Nat.zero_add, h _ hlt] at hstop
  cases hstop

end

section

variable {α β : Type} {m : Type → Type} [Monad m] [LawfulMonad m]

/-- **A run works on the items before the deadline**, one after the other, and on no others. -/
theorem workThrough_eq (stops : Nat → Bool) (work : α → m (Option β)) (items : List α)
    (done : Nat) :
    workThrough stops work done items =
      (fun results => ⟨results.flatMap Option.toList, done + reached stops done items.length,
        decide (reached stops done items.length < items.length)⟩) <$>
        (items.take (reached stops done items.length)).mapM work := by
  induction items generalizing done with
  | nil => simp [workThrough, reached]
  | cons item rest ih =>
      rw [workThrough, List.length_cons, reached]
      by_cases hstop : stops done = true
      · simp [hstop]
      · rw [if_neg hstop, if_neg hstop, List.take_succ_cons, List.mapM_cons]
        simp [ih, Nat.add_assoc, Nat.add_comm 1]

/-- It does not matter whether items are changed before the run or in it. -/
theorem workThrough_map {γ : Type} (stops : Nat → Bool) (work : α → m (Option β))
    (f : γ → α) (items : List γ) (done : Nat) :
    workThrough stops work done (items.map f) =
      workThrough stops (fun c => work (f c)) done items := by
  rw [workThrough_eq, workThrough_eq, List.length_map, ← List.map_take, List.mapM_map]
  rfl

end

/-! ### Readings of the stopwatch -/

namespace Timing

/-- The readings of a stopwatch in nanoseconds, told in whole milliseconds since the first one. -/
def ofNanos (clock : Nat → Nat) : Timing := ⟨fun k => (clock k - clock 0) / 1000000, none⟩

/-- The deadline is reached before an item, counted from zero: the reading before it is not less
than the first one and the time that there is. -/
def Late (clock : Nat → Nat) (timeoutMs item : Nat) : Prop :=
  clock 0 + timeoutMs * 1000000 ≤ clock (item + 1)

instance (clock : Nat → Nat) (timeoutMs item : Nat) : Decidable (Late clock timeoutMs item) :=
  inferInstanceAs (Decidable (clock 0 + timeoutMs * 1000000 ≤ clock (item + 1)))

/-- Whole milliseconds tell the deadline exactly. -/
theorem stopsInline_ofNanos {clock : Nat → Nat} (hclock : Monotone clock) (timeoutMs item : Nat) :
    (ofNanos clock).stopsInline timeoutMs item = decide (Late clock timeoutMs item) := by
  have hfirst : clock 0 ≤ clock (item + 1) := hclock (Nat.zero_le _)
  have helapsed : timeoutMs ≤ (clock (item + 1) - clock 0) / 1000000 ↔
      timeoutMs * 1000000 ≤ clock (item + 1) - clock 0 :=
    Nat.le_div_iff_mul_le (by decide)
  simp only [stopsInline, ofNanos, Nat.sub_self, Nat.zero_div, Nat.zero_add, helapsed, Late]
  exact decide_eq_decide.2 (by omega)

/-- Few items are worked on inline. -/
theorem stops_ofNanos {clock : Nat → Nat} (hclock : Monotone clock)
    {timeoutMs batchSize items : Nat} (hfew : items < batchSize) (item : Nat) :
    (ofNanos clock).stops timeoutMs batchSize items item = true ↔ Late clock timeoutMs item := by
  rw [stops, if_pos hfew, stopsInline_ofNanos hclock, decide_eq_true_eq]

end Timing

/-! ### Honest answers -/

/-- An answer that is honest about the deadline.  `part` tells what comes of the first so many
items. -/
structure Honest {β : Type} (late : Nat → Prop) (total : Nat) (part : Nat → β)
    (answer : Except (Interrupted β) β) : Prop where
  /-- The answer is the whole one exactly if the deadline is not reached before any item. -/
  ok : ∀ whole, answer = .ok whole ↔ (∀ k < total, ¬late k) ∧ whole = part total
  /-- Otherwise it tells what came before the first item that the deadline is reached before. -/
  error : ∀ e, answer = .error e ↔
    ∃ k < total, late k ∧ (∀ j < k, ¬late j) ∧ e = ⟨part k, k, total⟩

section

variable {β : Type} {late : Nat → Prop} {total : Nat} {part : Nat → β}
  {answer : Except (Interrupted β) β}

theorem Honest.of_whole (h : ∀ k < total, ¬late k) (hanswer : answer = .ok (part total)) :
    Honest late total part answer := by
  refine ⟨fun whole => ?_, fun e => ?_⟩
  · rw [hanswer]
    exact ⟨fun heq => ⟨h, (Except.ok.inj heq).symm⟩, fun heq => heq.2 ▸ rfl⟩
  · rw [hanswer]
    constructor
    · intro heq
      cases heq
    · rintro ⟨k, hk, hlate, -⟩
      exact absurd hlate (h k hk)

theorem Honest.of_first {k : Nat} (hk : k < total) (hlate : late k) (hfirst : ∀ j < k, ¬late j)
    (hanswer : answer = .error ⟨part k, k, total⟩) : Honest late total part answer := by
  refine ⟨fun whole => ?_, fun e => ?_⟩
  · rw [hanswer]
    constructor
    · intro heq
      cases heq
    · rintro ⟨hnone, -⟩
      exact absurd hlate (hnone k hk)
  · rw [hanswer]
    constructor
    · intro heq
      exact ⟨k, hk, hlate, hfirst, (Except.error.inj heq).symm⟩
    · rintro ⟨j, -, hlate', hfirst', rfl⟩
      -- of two first items each would come before the other
      have hle : ¬j < k := fun hjk => hfirst j hjk hlate'
      have hge : ¬k < j := fun hkj => hfirst' k hkj hlate
      have heq : j = k := by omega
      rw [heq]

/-- What a run makes of the items that it reaches is honest. -/
theorem honest_of_reached {stops : Nat → Bool} (hstops : ∀ k < total, stops k = true ↔ late k)
    (hanswer : answer = if reached stops 0 total < total
      then .error ⟨part (reached stops 0 total), reached stops 0 total, total⟩
      else .ok (part (reached stops 0 total))) :
    Honest late total part answer := by
  have hbefore (k : Nat) (hk : k < reached stops 0 total) : ¬late k := by
    intro hlate
    have hstop := (hstops k (Nat.lt_of_lt_of_le hk (reached_le stops 0 total))).2 hlate
    have hnot := not_stopped_of_lt_reached hk
    rw [Nat.zero_add, hstop] at hnot
    cases hnot
  by_cases hcut : reached stops 0 total < total
  · rw [if_pos hcut] at hanswer
    have hstop := stopped_of_reached_lt hcut
    rw [Nat.zero_add] at hstop
    exact .of_first hcut ((hstops _ hcut).1 hstop) hbefore hanswer
  · have hall : reached stops 0 total = total :=
      Nat.le_antisymm (reached_le stops 0 total) (Nat.not_lt.1 hcut)
    rw [if_neg hcut, hall] at hanswer
    exact .of_whole (hall ▸ hbefore) hanswer

end

end Triage
