/-
Sorting by a chain is sorting by each of its links, the last one first.

A list that is sorted by the later links and then stably by the earlier ones is sorted by the whole
chain: the earlier links come first, and where they find elements equal these are still in the order
that the later ones gave them.  A list has only one stable sort, so it makes no difference which of
the sorts are done in batches.
-/
import Triage.Proofs.Order.Sorter

namespace Triage

open Std

namespace Order

variable {α : Type} {first second : α → α → Ordering} {l middle sorted : List α}

/-- What two orders one after the other find equal, each of them does. -/
theorem filter_compareLex (first second : α → α → Ordering) (l : List α) (a : α) :
    l.filter (compareLex first second a · = .eq) =
      (l.filter (second a · = .eq)).filter (first a · = .eq) := by
  rw [List.filter_filter]
  refine List.filter_congr fun b _ => ?_
  simp [compareLex_eq_eq]

/-- A list is in order by two orders one after the other if it is in order by the first, and by the
second wherever the first finds no difference. -/
theorem isOrdered_compareLex [ReflCmp first] (hfirst : IsOrdered first l)
    (hsecond : ∀ a, IsOrdered second (l.filter (first a · = .eq))) :
    IsOrdered (compareLex first second) l := by
  induction l with
  | nil => exact List.Pairwise.nil
  | cons a rest ih =>
      obtain ⟨hhead, hrest⟩ := List.pairwise_cons.1 hfirst
      have hties := hsecond a
      rw [List.filter_cons_of_pos (by simp [ReflCmp.compare_self])] at hties
      refine List.pairwise_cons.2 ⟨fun b hb => ?_, ih hrest fun c => ?_⟩
      · show (first a b).then (second a b) ≠ .gt
        cases hab : first a b with
        | lt => exact nofun
        | eq => exact List.rel_of_pairwise_cons hties (List.mem_filter.2 ⟨hb, by simpa using hab⟩)
        | gt => exact absurd hab (hhead b hb)
      · exact (hsecond c).sublist ((List.sublist_cons_self a rest).filter _)

/-- A stable sort by one order after one by another is a stable sort by both. -/
theorem IsStableSort.compareLex [TransCmp first] (hlast : IsStableSort second l middle)
    (hfirst : IsStableSort first middle sorted) :
    IsStableSort (compareLex first second) l sorted where
  perm := hfirst.perm.trans hlast.perm
  stable a := by
    rw [filter_compareLex, filter_compareLex, ← hlast.stable a, List.filter_comm,
      hfirst.stable a, List.filter_comm]
  ordered := by
    refine isOrdered_compareLex hfirst.ordered fun a => ?_
    -- What the first order finds equal is as the sort before has left it.
    rw [hfirst.stable a]
    exact List.Pairwise.filter _ hlast.ordered

end Order

theorem compareBy_append (c d : List SortCriterion) :
    compareBy (c ++ d) = compareLex (compareBy c) (compareBy d) := by
  funext a b
  induction c with
  | nil => rfl
  | cons criterion rest ih =>
      show (criterion.compare a b).then (compareBy (rest ++ d) a b) = _
      rw [ih, compareLex, compareLex, compareBy]
      cases criterion.compare a b <;> rfl

namespace Sorter

open Triage.Order

/-- Sorting by a chain is sorting by its second part and then by its first. -/
theorem sort_eq_of_append {s first last : Sorter} (h : s.criteria = first.criteria ++ last.criteria)
    (list : List Notification) : s.sort list = first.sort (last.sort list) := by
  have htwice := (last.isStableSort_sort list).compareLex (first.isStableSort_sort (last.sort list))
  have hcompare : s.compare = compareLex first.compare last.compare := by
    funext a b
    rw [compare, h, compareBy_append]
    rfl
  rw [← hcompare] at htwice
  exact (s.isStableSort_sort list).eq htwice

/--
**A chain of criteria is a sequence of stable sorts.**  Sorting by two chains, the second of which
decides where the first finds no difference, is sorting by the second and then by the first; and
sorting by one chain is sorting by each of its criteria alone, from the last one to the first.  Both
are the stable sort by the whole chain.  Any of the chains may be empty, and each sorter may have
its own settings.
-/
theorem sort_by_each_link (c d : List SortCriterion) (parallel parallel' parallel'' : Bool)
    (size size' size'' : Nat) (list : List Notification) :
    IsStableSort (compareBy (c ++ d)) list (sort ⟨c ++ d, parallel, size⟩ list) ∧
      sort ⟨c ++ d, parallel, size⟩ list =
        sort ⟨c, parallel', size'⟩ (sort ⟨d, parallel'', size''⟩ list) ∧
      IsStableSort (compareBy c) list (sort ⟨c, parallel, size⟩ list) ∧
      sort ⟨c, parallel, size⟩ list =
        c.foldr (fun criterion sorted => sort ⟨[criterion], parallel', size'⟩ sorted) list := by
  refine ⟨isStableSort_sort ⟨c ++ d, parallel, size⟩ list, sort_eq_of_append rfl list,
    isStableSort_sort ⟨c, parallel, size⟩ list, ?_⟩
  induction c with
  | nil => exact if_pos (by simp)
  | cons criterion rest ih =>
      have hfirst : sort ⟨criterion :: rest, parallel, size⟩ list =
          sort ⟨[criterion], parallel', size'⟩ (sort ⟨rest, parallel, size⟩ list) :=
        sort_eq_of_append rfl list
      rw [hfirst, ih, List.foldr_cons]

end Sorter

end Triage
