/-
What has to happen, whoever moves next.

A system whose parties move in any order reaches a state for certain when every way
to go on leads there.  `Inevitable` says so without fairness: the system is never
stuck on the way, and it never goes on for ever.  Where every step lowers a measure,
the second half is free, and what is left is an invariant.
-/
import Mathlib.Logic.Relation

namespace Triage

/-- However a system goes on from a state, it comes to one with a property. -/
inductive Inevitable {σ : Type} (next : σ → σ → Prop) (P : σ → Prop) : σ → Prop
  | now {s : σ} (h : P s) : Inevitable next P s
  | later {s : σ} (hmoves : ∃ s', next s s') (h : ∀ s', next s s' → Inevitable next P s') :
      Inevitable next P s

theorem Inevitable.imp {σ : Type} {next : σ → σ → Prop} {P Q : σ → Prop} {s : σ}
    (h : Inevitable next P s) (himp : ∀ s, P s → Q s) : Inevitable next Q s := by
  induction h with
  | now h => exact .now (himp _ h)
  | later hmoves _ ih => exact .later hmoves ih

/-- A system can go on to what it cannot avoid. -/
theorem Inevitable.exists_reached {σ : Type} {next : σ → σ → Prop} {P : σ → Prop} {s : σ}
    (h : Inevitable next P s) : ∃ s', Relation.ReflTransGen next s s' ∧ P s' := by
  induction h with
  | @now s h => exact ⟨s, .refl, h⟩
  | later hmoves _ ih =>
      obtain ⟨s₁, hnext⟩ := hmoves
      obtain ⟨s', hreached, hP⟩ := ih s₁ hnext
      exact ⟨s', .head hnext hreached, hP⟩

theorem inevitable_of_measure {σ : Type} {next : σ → σ → Prop} {P : σ → Prop}
    (measure : σ → Nat) (holds : σ → Prop)
    (hlower : ∀ s s', holds s → next s s' → measure s' < measure s)
    (hkeep : ∀ s s', holds s → next s s' → holds s')
    (hmoves : ∀ s, holds s → P s ∨ ∃ s', next s s') :
    ∀ s, holds s → Inevitable next P s := by
  intro s hs
  induction hm : measure s using Nat.strongRecOn generalizing s with
  | _ m ih =>
      rcases hmoves s hs with hP | hnext
      · exact .now hP
      · refine .later hnext fun s' hstep => ?_
        exact ih _ (hm ▸ hlower s s' hs hstep) s' (hkeep s s' hs hstep) rfl

end Triage
