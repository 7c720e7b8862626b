/-
Sorting gives the one stable sort, whichever way it is done.

Left alone, sorted as a whole, or sorted in batches and merged: each way gives a stable
sort of the list, and a list has only one.  That needs the comparison to be a total preorder,
which a chain of criteria is.
-/
import Triage.Order.Sorter
import Triage.Proofs.Order.Criterion
import Triage.Proofs.Order.Merge

namespace Triage.Sorter

open Std Triage.Order

instance (s : Sorter) : TransCmp s.compare := instTransCmpCompareBy s.criteria

variable (s : Sorter) (list : List Notification)

/-! ### What sorting and merging compare by -/

/--
**Comparing is a total preorder.**  The first criterion that tells two notifications apart decides.
Every notification is equal to itself, the other way round two compare the other way round, and what
is not greater than something that is not greater than a third is not greater than the third; the
outer ones are equal exactly if each is equal to the one between them.
-/
theorem compare_total_preorder :
    (∀ a b, s.compare a b = ((s.criteria.map (·.compare a b)).find? Ordering.isNe).getD .eq) ∧
    (∀ a, s.compare a a = .eq) ∧
    (∀ a b, s.compare b a = (s.compare a b).swap) ∧
    ∀ a b c, s.compare a b ≠ .gt → s.compare b c ≠ .gt →
      s.compare a c ≠ .gt ∧
        (s.compare a c = .eq ↔ s.compare a b = .eq ∧ s.compare b c = .eq) := by
  refine ⟨compareBy_eq_find? s.criteria, fun a => ReflCmp.compare_self,
    fun a b => OrientedCmp.eq_swap, fun a b c hab hbc => ?_⟩
  have hab := Ordering.isLE_iff_ne_gt.2 hab
  have hbc := Ordering.isLE_iff_ne_gt.2 hbc
  refine ⟨Ordering.isLE_iff_ne_gt.1 (TransCmp.isLE_trans hab hbc), fun hac => ?_,
    fun ⟨hab, hbc⟩ => TransCmp.eq_trans hab hbc⟩
  -- What lies between two that are equal is not greater than either, and not less.
  have hca : (s.compare c a).isLE := Ordering.isLE_of_eq_eq (OrientedCmp.eq_symm hac)
  exact ⟨OrientedCmp.isLE_antisymm hab (TransCmp.isLE_trans hbc hca),
    OrientedCmp.isLE_antisymm hbc (TransCmp.isLE_trans hca hab)⟩

/-- Two titles that differ only in case, and a third one that is older where newer ones come
first. -/
theorem compare_total_preorder_case_and_age :
    let s : Sorter := { criteria := [⟨.title, .ascending⟩, ⟨.time, .descending⟩] }
    let item (title : String) (seconds : Int) : Notification :=
      .build "1" "octo/hello" .issue title .mention true ⟨seconds, 0⟩
    let a := item "Bump" 9
    let b := item "bUMP" 9
    let c := item "bump" 3
    s.compare a b ≠ .gt ∧ s.compare b c ≠ .gt ∧ s.compare a c ≠ .gt ∧
      (s.compare a c = .eq ↔ s.compare a b = .eq ∧ s.compare b c = .eq) := by
  intro s item a b c
  have hab : s.compare a b = .eq := by decide +kernel
  have hbc : s.compare b c = .lt := by decide +kernel
  have hab' : s.compare a b ≠ .gt := by rw [hab]; decide
  have hbc' : s.compare b c ≠ .gt := by rw [hbc]; decide
  exact ⟨hab', hbc', s.compare_total_preorder.2.2.2 a b c hab' hbc'⟩

/-! ### Each way of sorting -/

theorem isStableSort_sortWhole : IsStableSort s.compare list (s.sortWhole list) :=
  isStableSort_mergeSort list

theorem isStableSort_sortInBatches : IsStableSort s.compare list (s.sortInBatches list) := by
  have hordered : ∀ batch ∈ (batches s.batchSize list).map s.sortWhole,
      IsOrdered s.compare batch := by
    intro batch hbatch
    obtain ⟨batch, -, rfl⟩ := List.mem_map.1 hbatch
    exact (s.isStableSort_sortWhole batch).ordered
  have hsorted : Rearranges s.compare ((batches s.batchSize list).map s.sortWhole).flatten
      (batches s.batchSize list).flatten :=
    .flatten_map (fun batch => (s.isStableSort_sortWhole batch).toRearranges) _
  rw [flatten_batches] at hsorted
  exact (isStableSort_merge hordered).of_rearranges hsorted

/-- A list that is left alone is in order. -/
theorem isStableSort_self (h : list.length ≤ 1 ∨ s.criteria = []) :
    IsStableSort s.compare list list := by
  refine .self ?_
  rcases h with hlength | hcriteria
  · cases list with
    | nil => exact List.Pairwise.nil
    | cons a rest =>
        rw [List.length_cons] at hlength
        obtain rfl : rest = [] := List.length_eq_zero_iff.1 (by omega)
        exact List.pairwise_singleton _ a
  · refine List.pairwise_of_forall fun a b => ?_
    rw [compare, hcriteria]
    exact nofun

theorem isStableSort_sort : IsStableSort s.compare list (s.sort list) := by
  unfold sort
  split
  · rename_i h
    exact s.isStableSort_self list (by simpa using h)
  · split
    · exact s.isStableSort_sortInBatches list
    · exact s.isStableSort_sortWhole list

/-- Only the criteria decide how a list is sorted. -/
theorem sort_congr {s s' : Sorter} (h : s.criteria = s'.criteria) (list : List Notification) :
    s.sort list = s'.sort list := by
  have hcompare : s.compare = s'.compare := by
    funext a b
    rw [compare, compare, h]
  exact (s.isStableSort_sort list).eq (hcompare ▸ s'.isStableSort_sort list)

/--
**Sorting gives the one stable sort.**  The result has the elements of the list, no
element compares greater than one after it, and those that compare equal keep their
order; it is the only list of that kind.  So sorting in batches gives what sorting as a
whole gives, the settings make no difference, and a sorted list is left as it is.
-/
theorem sort_stable_unique :
    IsStableSort s.compare list (s.sort list) ∧
      (∀ sorted, IsStableSort s.compare list sorted → sorted = s.sort list) ∧
      s.sortInBatches list = s.sortWhole list ∧
      (∀ parallel batchSize,
        { s with parallel, batchSize }.sort list = s.sort list) ∧
      s.sort (s.sort list) = s.sort list := by
  have hsort := s.isStableSort_sort list
  refine ⟨hsort, fun sorted h => h.eq hsort, ?_, fun parallel batchSize => ?_, ?_⟩
  · exact (s.isStableSort_sortInBatches list).eq (s.isStableSort_sortWhole list)
  · exact (isStableSort_sort { s with parallel, batchSize } list).eq hsort
  · exact (s.isStableSort_sort (s.sort list)).eq (.self hsort.ordered)

end Triage.Sorter
