/-
What a step of a pool can do.

`Step` lists the steps of all parties once, each with what it needs and what it
changes.  Whatever is said of all steps is said by cases on this list, and only
`Step.of_step` looks at the step function.
-/
import Triage.Pool

namespace Triage.Pool

variable {β : Type} {p : Pool β} {s s' : State β}

/-- The steps of a pool. -/
inductive Step (p : Pool β) : State β → Turn → State β → Prop
  | stop {s : State β} {i : Nat} {before after : List (Worker β)}
      (hw : s.workers = before ++ .looking :: after) (hflag : s.cancelled = true) :
      Step p s (.worker i) { s with workers := before ++ .gone :: after }
  | look {s : State β} {i : Nat} {before after : List (Worker β)}
      (hw : s.workers = before ++ .looking :: after) (hflag : s.cancelled = false) :
      Step p s (.worker i) { s with workers := before ++ .claiming :: after }
  | claim {s : State β} {i : Nat} {before after : List (Worker β)}
      (hw : s.workers = before ++ .claiming :: after) (hslot : s.cursor < p.slots) :
      Step p s (.worker i) { s with
        cursor := s.cursor + 1, workers := before ++ .working s.cursor :: after }
  | leave {s : State β} {i : Nat} {before after : List (Worker β)}
      (hw : s.workers = before ++ .claiming :: after) (hslot : p.slots ≤ s.cursor) :
      Step p s (.worker i) { s with cursor := s.cursor + 1, workers := before ++ .gone :: after }
  | produce {s : State β} {i slot : Nat} {result : β} {before after : List (Worker β)}
      (hw : s.workers = before ++ .working slot :: after) (hwork : p.work slot = some result) :
      Step p s (.worker i) { s with
        processed := s.processed + 1, worked := s.worked ++ [slot]
        workers := before ++ .sending result :: after }
  | drop {s : State β} {i slot : Nat} {before after : List (Worker β)}
      (hw : s.workers = before ++ .working slot :: after) (hwork : p.work slot = none) :
      Step p s (.worker i) { s with
        processed := s.processed + 1, worked := s.worked ++ [slot]
        workers := before ++ .looking :: after }
  | send {s : State β} {i : Nat} {result : β} {before after : List (Worker β)}
      (hw : s.workers = before ++ .sending result :: after) (hclosed : s.closed = false)
      (hroom : s.channel.length < p.room) :
      Step p s (.worker i) { s with
        channel := s.channel ++ [result], workers := before ++ .looking :: after }
  | fail {s : State β} {i : Nat} {result : β} {before after : List (Worker β)}
      (hw : s.workers = before ++ .sending result :: after) (hclosed : s.closed = true) :
      Step p s (.worker i) { s with workers := before ++ .gone :: after }
  | receive {s : State β} {result : β} {rest : List β}
      (hc : s.consumer = .receiving ∨ s.consumer = .draining) (hch : s.channel = result :: rest) :
      Step p s .consumer { s with channel := rest, results := s.results ++ [result] }
  | finish {s : State β} (hc : s.consumer = .receiving) (hch : s.channel = [])
      (hgone : ∀ w ∈ s.workers, w = .gone) :
      Step p s .consumer { s with consumer := .counting false }
  | close {s : State β} (hc : s.consumer = .closing) :
      Step p s .consumer { s with closed := true, consumer := .draining }
  | drained {s : State β} (hc : s.consumer = .draining) (hch : s.channel = []) :
      Step p s .consumer { s with consumer := .counting true }
  | ret {s : State β} {timedOut : Bool} (hc : s.consumer = .counting timedOut) :
      Step p s .consumer { s with consumer := .returned s.processed timedOut }
  | deadline {s : State β} (hc : s.consumer = .receiving) :
      Step p s .deadline { s with cancelled := true, consumer := .closing }

theorem isGone_iff {w : Worker β} : w.isGone = true ↔ w = .gone := by
  cases w <;> simp [Worker.isGone]

/-- A worker's place in the list, and what putting another one there does. -/
theorem exists_split_of_getElem? {α : Type} {l : List α} {i : Nat} {a : α}
    (h : l[i]? = some a) : ∃ before after, l = before ++ a :: after ∧
      ∀ b, l.set i b = before ++ b :: after := by
  obtain ⟨hi, rfl⟩ := List.getElem?_eq_some_iff.1 h
  refine ⟨l.take i, l.drop (i + 1), ?_, fun b => ?_⟩
  · rw [List.getElem_cons_drop, List.take_append_drop]
  · rw [List.set_eq_take_append_cons_drop, if_pos hi]

theorem Step.of_step {t : Turn} (h : p.step s t = some s') : Step p s t s' := by
  cases t with
  | worker i =>
      obtain ⟨w, hw, h⟩ := Option.bind_eq_some_iff.1 h
      obtain ⟨⟨s₁, w'⟩, hact, h⟩ := Option.bind_eq_some_iff.1 h
      obtain ⟨before, after, hsplit, hset⟩ := exists_split_of_getElem? hw
      cases h
      cases w with
      | looking =>
          cases hact
          rw [hset]
          by_cases hflag : s.cancelled = true
          · rw [if_pos hflag]
            exact .stop hsplit hflag
          · rw [if_neg hflag]
            exact .look hsplit (by simpa using hflag)
      | claiming =>
          cases hact
          rw [hset]
          by_cases hslot : s.cursor < p.slots
          · rw [if_pos hslot]
            exact .claim hsplit hslot
          · rw [if_neg hslot]
            exact .leave hsplit (Nat.not_lt.1 hslot)
      | working slot =>
          cases hact
          rw [hset]
          cases hwork : p.work slot with
          | some result => exact .produce hsplit hwork
          | none => exact .drop hsplit hwork
      | sending result =>
          rw [act] at hact
          split at hact
          · rename_i hclosed
            cases hact
            rw [hset]
            exact .fail hsplit hclosed
          · rename_i hclosed
            split at hact
            · rename_i hroom
              cases hact
              rw [hset]
              exact .send hsplit (by simpa using hclosed) hroom
            · cases hact
      | gone => cases hact
  | consumer =>
      change consume s = some s' at h
      rw [consume] at h
      split at h
      · rename_i hc hch
        cases h
        exact .receive (.inl hc) hch
      · rename_i hc hch
        split at h
        · rename_i hgone
          cases h
          exact .finish hc hch fun w hw => isGone_iff.1 (List.all_eq_true.1 hgone w hw)
        · cases h
      · rename_i hc
        cases h
        exact .close hc
      · rename_i hc hch
        cases h
        exact .receive (.inr hc) hch
      · rename_i hc hch
        cases h
        exact .drained hc hch
      · rename_i hc
        cases h
        exact .ret hc
      · cases h
  | deadline =>
      rw [step] at h
      split at h
      · rename_i hc
        cases h
        exact .deadline hc
      · cases h

end Triage.Pool
