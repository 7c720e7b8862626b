/-
When an entry expires.

The expiry of an entry is clipped to the last time that can be told, first the milliseconds that it
is to live and then their sum with the time at which it is stored.  Before the last time neither clip
can be noticed: whether the entry has expired is a comparison of two exact numbers.
-/
import Triage.Proofs.Cache.Envelope

namespace Triage.Cache.Envelope

open Triage.MessagePack

variable {now time : Int} {value : Bytes}

theorem isExpired_iff {e : Envelope} :
    e.isExpired time = true ↔ ∃ expiry, e.expiresAt = some expiry ∧ expiry ≤ time := by
  rw [isExpired, Option.any_eq_true]
  simp only [decide_eq_true_eq]

/-- From a time that is not negative, clipping the sum clips the summand as well. -/
theorem expiresAt_wrap (hnow : 0 ≤ now) (ttl : Nat) (value : Bytes) :
    (wrap now (some ttl) value).expiresAt = some (min (now + ttl) lastTime) := by
  have hclip : min (now + min (ttl : Int) lastTime) lastTime = min (now + ttl) lastTime := by
    omega
  rw [wrap, Option.map_some, hclip]

theorem isExpired_wrap_iff (hnow : 0 ≤ now) (ttl : Nat) :
    (wrap now (some ttl) value).isExpired time = true ↔ min (now + (ttl : Int)) lastTime ≤ time := by
  rw [isExpired_iff, expiresAt_wrap hnow]
  simp

/-- An entry that has expired does not come back. -/
theorem isExpired_mono {e : Envelope} {later : Int} (hlater : time ≤ later)
    (h : e.isExpired time = true) : e.isExpired later = true := by
  obtain ⟨expiry, hexpiry, hle⟩ := isExpired_iff.1 h
  exact isExpired_iff.2 ⟨expiry, hexpiry, Int.le_trans hle hlater⟩

/--
**Expiry is exact before the last time that can be told.**  An entry has expired once it has been
kept for as many milliseconds as it was stored for, however many these are, and one that was stored
for ever does not expire.  So an expiry is never before the entry was stored nor beyond the last
time, an entry that has expired does not come back, one that is stored for longer does not expire
sooner, and one that is stored before the last time for at least a millisecond is live when it is
stored.
-/
theorem expires_exactly (now : Int) (hnow : 0 ≤ now) (hlast : now ≤ lastTime) (value : Bytes) :
    (∀ (ttl : Nat) (time : Int), time < lastTime →
      ((wrap now (some ttl) value).isExpired time = true ↔ (ttl : Int) ≤ time - now)) ∧
    (∀ time, (wrap now none value).isExpired time = false) ∧
    (∀ ttl : Nat, ∃ expiry, (wrap now (some ttl) value).expiresAt = some expiry ∧
      now ≤ expiry ∧ expiry ≤ lastTime) ∧
    (∀ ttl time later, time ≤ later → (wrap now ttl value).isExpired time = true →
      (wrap now ttl value).isExpired later = true) ∧
    (∀ (ttl longer : Nat) (time : Int), ttl ≤ longer →
      (wrap now (some longer) value).isExpired time = true →
      (wrap now (some ttl) value).isExpired time = true) ∧
    ∀ ttl : Nat, 0 < ttl → now < lastTime → (wrap now (some ttl) value).isExpired now = false := by
  refine ⟨fun ttl time htime => ?_, fun time => rfl, fun ttl => ?_, fun ttl time later => ?_,
    fun ttl longer time hle hexpired => ?_, fun ttl hpos hbefore => ?_⟩
  · rw [isExpired_wrap_iff hnow]
    omega
  · exact ⟨_, expiresAt_wrap hnow ttl value, by omega, by omega⟩
  · exact isExpired_mono
  · rw [isExpired_wrap_iff hnow] at hexpired ⊢
    omega
  · rw [← Bool.not_eq_true, isExpired_wrap_iff hnow]
    omega

/-- Stored for more milliseconds than there are times, an entry is live until the last time; stored
so as to expire just before the last time, it does so to the millisecond. -/
theorem expires_exactly_late :
    let late : Nat := 0x7FFFFFFFFFFFFFF0
    (wrap 10 (some (2 * late)) [7]).isExpired (lastTime - 1) = false ∧
      (wrap 10 (some late) [7]).isExpired (late + 9) = false ∧
      (wrap 10 (some late) [7]).isExpired (late + 10) = true := by
  intro late
  obtain ⟨hexact, -⟩ := expires_exactly 10 (by decide) (by decide) [7]
  refine ⟨?_, ?_, ?_⟩
  · rw [← Bool.not_eq_true, hexact (2 * late) (lastTime - 1) (by decide)]
    decide
  · rw [← Bool.not_eq_true, hexact late (late + 9) (by decide)]
    decide
  · exact (hexact late (late + 10) (by decide)).2 (by decide)

end Triage.Cache.Envelope
