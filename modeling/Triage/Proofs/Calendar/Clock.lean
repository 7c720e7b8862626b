/-
What a clock shows.

A clock goes forward and shows no leap seconds, so that its times are ordered by their seconds first
and then by their nanoseconds, and the span between two of them is the difference.
-/
import Triage.Calendar.Instant

namespace Triage.Calendar.Instant

/-- A clock may show the time: the calendar has it, and it is in no leap second. -/
structure Shown (t : Instant) : Prop where
  valid : t.isValid = true
  ordinary : t.nanos < nanosPerSecond

instance (t : Instant) : Decidable t.Shown :=
  decidable_of_iff (t.isValid = true ∧ t.nanos < nanosPerSecond)
    ⟨fun h => ⟨h.1, h.2⟩, fun h => ⟨h.1, h.2⟩⟩

/-- A clock that shows the first time may show the second one afterwards. -/
structure Forward (now later : Instant) : Prop where
  shown : later.Shown
  notBefore : later.before now = false

instance (now later : Instant) : Decidable (now.Forward later) :=
  decidable_of_iff (later.Shown ∧ later.before now = false)
    ⟨fun h => ⟨h.1, h.2⟩, fun h => ⟨h.1, h.2⟩⟩

variable {a b c : Instant}

theorem before_eq_false_iff : b.before a = false ↔
    a.seconds < b.seconds ∨ (a.seconds = b.seconds ∧ a.nanos ≤ b.nanos) := by
  rw [before, Instant.compare, beq_eq_false_iff_ne, ne_eq, Ordering.then_eq_lt]
  simp only [Int.compare_eq_lt, Int.compare_eq_eq, Nat.compare_eq_lt]
  omega

theorem seconds_bounds (h : a.Shown) : firstSecond ≤ a.seconds ∧ a.seconds ≤ lastSecond := by
  have hvalid := h.valid
  simp only [isValid, Bool.and_eq_true, decide_eq_true_eq] at hvalid
  exact hvalid.1

/-- A clock may stand still. -/
theorem Shown.forward (h : a.Shown) : a.Forward a := ⟨h, before_eq_false_iff.2 (by omega)⟩

namespace Forward

theorem trans (hab : a.Forward b) (hbc : b.Forward c) : a.Forward c := by
  have hab := before_eq_false_iff.1 hab.notBefore
  have hbc' := before_eq_false_iff.1 hbc.notBefore
  exact ⟨hbc.shown, before_eq_false_iff.2 (by omega)⟩

theorem seconds_le (h : a.Forward b) : a.seconds ≤ b.seconds := by
  have hle := before_eq_false_iff.1 h.notBefore
  omega

/-- What lies so long before an earlier time lies in the calendar before a later one too. -/
theorem minusSeconds? (h : a.Forward b) {n : Nat} (ha : a.minusSeconds? n = some c) :
    ∃ t, b.minusSeconds? n = some t := by
  have hfirst : firstSecond ≤ a.seconds - n := by
    rw [Instant.minusSeconds?, checked] at ha
    split at ha
    · rename_i hvalid
      simp only [isValid, Bool.and_eq_true, decide_eq_true_eq] at hvalid
      exact hvalid.1.1
    · cases ha
  have hvalid : isValid ⟨b.seconds - n, b.nanos⟩ = true := by
    have hlast := (seconds_bounds h.shown).2
    have hle := h.seconds_le
    simp only [isValid, Bool.and_eq_true, Bool.or_eq_true, decide_eq_true_eq]
    exact ⟨⟨by omega, by omega⟩, .inl h.shown.ordinary⟩
  exact ⟨_, by rw [Instant.minusSeconds?, checked, if_pos hvalid]⟩

end Forward

/-- Without leap seconds a span is the difference of the times. -/
theorem nanosBetween_of_ordinary (ha : a.nanos < nanosPerSecond) (hb : b.nanos < nanosPerSecond) :
    a.nanosBetween b = (b.seconds - a.seconds) * nanosPerSecond + (b.nanos - a.nanos) := by
  unfold nanosBetween
  simp only [Nat.not_le.2 ha, Nat.not_le.2 hb, if_false, ite_self, Int.add_zero]

/-- Times that are less than so many milliseconds apart as they are told are less apart. -/
theorem nanosBetween_lt (ha : a.Shown) (hb : b.Shown) {ms : Nat}
    (h : b.toMillis < a.toMillis + ms) : a.nanosBetween b < ms * 1000000 := by
  rw [nanosBetween_of_ordinary ha.ordinary hb.ordinary, nanosPerSecond]
  unfold toMillis at h
  omega

end Triage.Calendar.Instant
