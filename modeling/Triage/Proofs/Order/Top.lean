/-
The first elements of a list by a measure.

A list that is sorted by a measure, the largest first, and then cut off leaves certain positions of
the list.  Which of two positions comes first is settled by the measures, and between equal ones by
the list; sorting puts the positions in that order, and what is cut off comes after all that is
kept.
-/
import Mathlib.Data.List.FinRange
import Triage.Proofs.Order.Stable

namespace Triage.Order

open Std

variable {α : Type}

/-! ### Pairs in a sorted list -/

/-- Of two elements of a stable sort the first is less, or it was the first before. -/
theorem IsStableSort.lt_or_sublist {compare : α → α → Ordering} {l sorted : List α}
    [ReflCmp compare] (h : IsStableSort compare l sorted) {a b : α} (hab : [a, b].Sublist sorted) :
    compare a b = .lt ∨ compare a b = .eq ∧ [a, b].Sublist l := by
  have hle : compare a b ≠ .gt := List.pairwise_iff_forall_sublist.1 h.ordered hab
  cases hcompare : compare a b with
  | lt => exact .inl rfl
  | gt => exact absurd hcompare hle
  | eq =>
      refine .inr ⟨rfl, ?_⟩
      have hclass : [a, b].filter (compare a · = .eq) = [a, b] := by
        simp [ReflCmp.compare_self, hcompare]
      have hsorted := hab.filter (compare a · = .eq)
      rw [hclass, h.stable a] at hsorted
      exact hsorted.trans List.filter_sublist

/-! ### Positions -/

/-- Compares by a measure, the largest first. -/
def descending (measure : α → UInt8) (a b : α) : Ordering := compare (measure b) (measure a)

instance (measure : α → UInt8) : TransCmp (descending measure) where
  eq_swap := OrientedOrd.eq_swap
  isLE_trans := fun hab hbc => TransOrd.isLE_trans hbc hab

theorem isLE_descending (measure : α → UInt8) (a b : α) :
    (descending measure a b).isLE = decide (measure b ≤ measure a) := by
  rw [Bool.eq_iff_iff, decide_eq_true_iff]
  exact isLE_compare

/-- One position of a list comes before another: its element has the larger measure, or the same
one and comes first in the list. -/
def Ahead (measure : α → UInt8) (list : List α) (i j : Fin list.length) : Prop :=
  measure list[j] < measure list[i] ∨ measure list[j] = measure list[i] ∧ i < j

/-- The positions are those of so many first elements by a measure, as far as there are so many:
no position occurs twice, they are in order, and all others come after them. -/
structure IsTop (measure : α → UInt8) (list : List α) (count : Nat)
    (positions : List (Fin list.length)) : Prop where
  length : positions.length = min count list.length
  nodup : positions.Nodup
  ordered : positions.Pairwise (Ahead measure list)
  leftOut : ∀ j, j ∉ positions → ∀ i ∈ positions, Ahead measure list i j

/-- All positions of a list in order. -/
def sortedPositions (measure : α → UInt8) (list : List α) : List (Fin list.length) :=
  (List.finRange list.length).mergeSort fun i j => decide (measure list[j] ≤ measure list[i])

theorem perm_sortedPositions (measure : α → UInt8) (list : List α) :
    (sortedPositions measure list).Perm (List.finRange list.length) :=
  List.mergeSort_perm _ _

theorem pairwise_sortedPositions (measure : α → UInt8) (list : List α) :
    (sortedPositions measure list).Pairwise (Ahead measure list) := by
  let atPosition (i : Fin list.length) : UInt8 := measure list[i]
  have hsort : IsStableSort (descending atPosition) (List.finRange list.length)
      (sortedPositions measure list) := by
    have h : IsStableSort (descending atPosition) (List.finRange list.length)
        ((List.finRange list.length).mergeSort fun i j => (descending atPosition i j).isLE) :=
      isStableSort_mergeSort (List.finRange list.length)
    simp only [isLE_descending] at h
    exact h
  refine List.pairwise_iff_forall_sublist.2 fun {i j} hij => ?_
  rcases hsort.lt_or_sublist hij with hlt | ⟨heq, hbefore⟩
  · exact .inl (compare_eq_lt.1 hlt)
  · exact .inr ⟨compare_eq_eq_iff_eq.1 heq,
      List.pairwise_iff_forall_sublist.1 (List.pairwise_lt_finRange _) hbefore⟩

/-- Sorting a list is sorting its positions. -/
theorem map_sortedPositions (measure : α → UInt8) (list : List α) :
    (sortedPositions measure list).map (list[·]) =
      list.mergeSort fun a b => decide (measure b ≤ measure a) := by
  have hall : (List.finRange list.length).map (list[·]) = list := List.map_get_finRange list
  have hmap := List.map_mergeSort (l := List.finRange list.length) (f := (list[·]))
    (r := fun i j => decide (measure list[j] ≤ measure list[i]))
    (s := fun a b => decide (measure b ≤ measure a)) fun _ _ _ _ => rfl
  rwa [hall] at hmap

/-- What is kept of the sorted positions are the first ones. -/
theorem isTop_take (measure : α → UInt8) (list : List α) (count : Nat) :
    IsTop measure list count ((sortedPositions measure list).take count) := by
  have hperm := perm_sortedPositions measure list
  have hordered := pairwise_sortedPositions measure list
  have hsub := List.take_sublist count (sortedPositions measure list)
  refine ⟨?_, (hperm.nodup_iff.2 (List.nodup_finRange _)).sublist hsub, hordered.sublist hsub,
    fun j hj i hi => ?_⟩
  · rw [List.length_take, hperm.length_eq, List.length_finRange]
  · -- a position that is not among the first ones is among the rest
    have hmem : j ∈ sortedPositions measure list := hperm.mem_iff.2 (List.mem_finRange j)
    rw [← List.take_append_drop count (sortedPositions measure list)] at hordered hmem
    exact (List.pairwise_append.1 hordered).2.2 i hi j ((List.mem_append.1 hmem).resolve_left hj)

end Triage.Order
