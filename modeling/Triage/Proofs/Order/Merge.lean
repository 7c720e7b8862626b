/-
Merging sorted batches is sorting stably.

Taking the least head takes an element that is strictly less than everything in the
batches before it and not greater than anything after it.  It is therefore the one a
stable sort of all batches begins with, and what is left are sorted batches again.
-/
import Triage.Order.Merge
import Triage.Proofs.Order.Stable

namespace Triage.Order

open Std

variable {α : Type} {compare : α → α → Ordering}

/-! ### Batches -/

/-- Cutting a list into batches loses nothing. -/
theorem flatten_batches (size : Nat) (l : List α) : (batches size l).flatten = l := by
  fun_induction batches size l with
  | case1 => rfl
  | case2 a rest ih =>
      rw [List.flatten_cons, ih, List.cons_append, List.take_append_drop]

/-! ### The least head -/

/-- Whether a list is in order. -/
def IsOrdered (compare : α → α → Ordering) (l : List α) : Prop :=
  l.Pairwise fun a b => compare a b ≠ .gt

/-- No head is found only where nothing is left. -/
theorem flatten_of_takeLeast_eq_none {batches : List (List α)}
    (h : takeLeast compare batches = none) : batches.flatten = [] := by
  induction batches with
  | nil => rfl
  | cons batch later ih =>
      cases batch with
      | nil =>
          rw [takeLeast, Option.map_eq_none_iff] at h
          rw [List.flatten_cons, List.nil_append, ih h]
      | cons a batch =>
          rw [takeLeast] at h
          split at h
          · cases h
          · split at h <;> cases h

/-- What taking an element from batches means: it comes after everything in `before`, to which it
is strictly less, and before everything in `after`, than which it is not greater. -/
structure Taken (compare : α → α → Ordering) (batches : List (List α)) (a : α)
    (rest : List (List α)) (before after : List α) : Prop where
  whole : batches.flatten = before ++ a :: after
  remains : rest.flatten = before ++ after
  before_gt : ∀ b ∈ before, compare a b = .lt
  after_ge : ∀ b ∈ after, compare a b ≠ .gt
  ordered : ∀ batch ∈ rest, IsOrdered compare batch

theorem exists_taken [TransCmp compare] {batches rest : List (List α)} {a : α}
    (hordered : ∀ batch ∈ batches, IsOrdered compare batch)
    (h : takeLeast compare batches = some (a, rest)) :
    ∃ before after, Taken compare batches a rest before after := by
  induction batches generalizing a rest with
  | nil => cases h
  | cons batch later ih =>
      have hlater : ∀ batch ∈ later, IsOrdered compare batch :=
        fun batch hbatch => hordered batch (List.mem_cons_of_mem _ hbatch)
      cases batch with
      | nil =>
          rw [takeLeast] at h
          obtain ⟨⟨least, later'⟩, htake, heq⟩ := Option.map_eq_some_iff.1 h
          cases heq
          obtain ⟨before, after, ht⟩ := ih hlater htake
          exact ⟨before, after, ht.whole, ht.remains, ht.before_gt, ht.after_ge,
            List.forall_mem_cons.2 ⟨List.Pairwise.nil, ht.ordered⟩⟩
      | cons b batch =>
          have hbatch : IsOrdered compare (b :: batch) := hordered _ List.mem_cons_self
          have htail : ∀ c ∈ batch, compare b c ≠ .gt := (List.pairwise_cons.1 hbatch).1
          rw [takeLeast] at h
          cases htake : takeLeast compare later with
          | none =>
              rw [htake] at h
              cases h
              have hempty := flatten_of_takeLeast_eq_none htake
              refine ⟨[], batch, ?_, ?_, fun b hb => absurd hb List.not_mem_nil, htail,
                List.forall_mem_cons.2 ⟨hbatch.of_cons, hlater⟩⟩
              · rw [List.flatten_cons, hempty, List.append_nil, List.nil_append]
              · rw [List.flatten_cons, hempty, List.append_nil, List.nil_append]
          | some found =>
              obtain ⟨least, later'⟩ := found
              obtain ⟨before, after, ht⟩ := ih hlater htake
              rw [htake] at h
              by_cases hlt : compare least b = .lt
              · simp only [if_pos hlt] at h
                cases h
                refine ⟨b :: batch ++ before, after, ?_, ?_, ?_, ht.after_ge,
                  List.forall_mem_cons.2 ⟨hbatch, ht.ordered⟩⟩
                · rw [List.flatten_cons, ht.whole, List.append_assoc]
                · rw [List.flatten_cons, ht.remains, List.append_assoc]
                · -- The head found later is less than this head, hence than this batch.
                  intro c hc
                  rcases List.mem_append.1 hc with hc | hc
                  · rcases List.mem_cons.1 hc with rfl | hc
                    · exact hlt
                    · exact TransCmp.lt_of_lt_of_isLE hlt
                        (Ordering.isLE_iff_ne_gt.2 (htail c hc))
                  · exact ht.before_gt c hc
              · simp only [if_neg hlt] at h
                cases h
                refine ⟨[], batch ++ later.flatten, ?_, ?_, fun b hb => absurd hb List.not_mem_nil, ?_,
                  List.forall_mem_cons.2 ⟨hbatch.of_cons, hlater⟩⟩
                · rw [List.flatten_cons, List.nil_append, List.cons_append]
                · rw [List.flatten_cons, List.nil_append]
                · -- This head is not greater than the least of the others.
                  have hle : compare a least ≠ .gt := fun hgt => hlt (OrientedCmp.lt_of_gt hgt)
                  have hle := Ordering.isLE_iff_ne_gt.2 hle
                  intro c hc
                  rcases List.mem_append.1 hc with hc | hc
                  · exact htail c hc
                  · refine Ordering.isLE_iff_ne_gt.1 (TransCmp.isLE_trans hle ?_)
                    rw [ht.whole] at hc
                    rcases List.mem_append.1 hc with hc | hc
                    · exact Ordering.isLE_of_eq_lt (ht.before_gt c hc)
                    · rcases List.mem_cons.1 hc with rfl | hc
                      · exact ReflCmp.isLE_rfl
                      · exact Ordering.isLE_iff_ne_gt.2 (ht.after_ge c hc)

/-- The element that is taken comes first in a stable sort. -/
theorem Taken.isStableSort_cons [TransCmp compare] {batches rest : List (List α)} {a : α}
    {before after sorted : List α} (ht : Taken compare batches a rest before after)
    (h : IsStableSort compare rest.flatten sorted) :
    IsStableSort compare batches.flatten (a :: sorted) := by
  rw [ht.remains] at h
  rw [ht.whole]
  refine ⟨⟨(h.perm.cons a).trans List.perm_middle.symm, fun c => ?_⟩, ?_⟩
  · have hrest := h.stable c
    rw [List.filter_append] at hrest
    rw [List.filter_append]
    by_cases hc : compare c a = .eq
    · -- Nothing before `a` compares equal to it.
      have hbefore : before.filter (compare c · = .eq) = [] := by
        refine List.filter_eq_nil_iff.2 fun b hb => ?_
        have hcb : compare c b = .lt := TransCmp.lt_of_eq_of_lt hc (ht.before_gt b hb)
        simp [hcb]
      rw [hbefore, List.nil_append] at hrest ⊢
      rw [List.filter_cons_of_pos (by simpa using hc), List.filter_cons_of_pos (by simpa using hc),
        hrest]
    · rw [List.filter_cons_of_neg (by simpa using hc), List.filter_cons_of_neg (by simpa using hc),
        hrest]
  · refine List.pairwise_cons.2 ⟨fun b hb => ?_, h.ordered⟩
    rcases List.mem_append.1 (h.perm.mem_iff.1 hb) with hb | hb
    · rw [ht.before_gt b hb]
      exact nofun
    · exact ht.after_ge b hb

/-- **Main result.** Merging batches that are in order sorts all of them stably. -/
theorem isStableSort_merge [TransCmp compare] {batches : List (List α)}
    (hordered : ∀ batch ∈ batches, IsOrdered compare batch) :
    IsStableSort compare batches.flatten (merge compare batches) := by
  induction h : total batches using Nat.strongRecOn generalizing batches with
  | _ n ih =>
      rw [merge]
      split
      · rename_i hnone
        rw [flatten_of_takeLeast_eq_none hnone]
        exact .self List.Pairwise.nil
      · rename_i least rest htake
        obtain ⟨before, after, ht⟩ := exists_taken hordered htake
        have hlt : total rest < n := by
          have := total_of_takeLeast htake
          omega
        exact ht.isStableSort_cons (ih _ hlt ht.ordered rfl)

end Triage.Order
