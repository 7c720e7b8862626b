/-
What a stable sort of a list is, and that there is only one.

A list rearranges another stably when it has the same elements and those that compare
equal come in the same order.  Of all stable rearrangements of a list only one is in
order: its first element must be the first of the least ones, and so on.  Hence two ways
of sorting agree as soon as both are stable and in order.
-/
import Mathlib.Data.List.Perm.Basic

namespace Triage.Order

open Std

variable {α : Type} {compare : α → α → Ordering} {l l' sorted sorted' : List α}

/-- Whether a list has the elements of another, those that compare equal in the same order. -/
structure Rearranges (compare : α → α → Ordering) (l l' : List α) : Prop where
  perm : l.Perm l'
  stable : ∀ a, l.filter (compare a · = .eq) = l'.filter (compare a · = .eq)

/-- Whether a list is a stable sort of another. -/
structure IsStableSort (compare : α → α → Ordering) (l sorted : List α) : Prop
    extends Rearranges compare sorted l where
  ordered : sorted.Pairwise fun a b => compare a b ≠ .gt

/-! ### Rearranging -/

theorem Rearranges.refl (l : List α) : Rearranges compare l l := ⟨.refl l, fun _ => rfl⟩

theorem Rearranges.trans {l'' : List α} (h : Rearranges compare l l')
    (h' : Rearranges compare l' l'') : Rearranges compare l l'' :=
  ⟨h.perm.trans h'.perm, fun a => (h.stable a).trans (h'.stable a)⟩

theorem Rearranges.append {m m' : List α} (h : Rearranges compare l l')
    (h' : Rearranges compare m m') : Rearranges compare (l ++ m) (l' ++ m') where
  perm := h.perm.append h'.perm
  stable a := by rw [List.filter_append, List.filter_append, h.stable a, h'.stable a]

/-- Rearranging each of several lists rearranges them as a whole. -/
theorem Rearranges.flatten_map {f : List α → List α} (h : ∀ l, Rearranges compare (f l) l)
    (lists : List (List α)) : Rearranges compare (lists.map f).flatten lists.flatten := by
  induction lists with
  | nil => exact .refl []
  | cons l rest ih => exact (h l).append ih

/-- A sort of a rearrangement is a sort of the list itself. -/
theorem IsStableSort.of_rearranges (h : IsStableSort compare l' sorted)
    (hl : Rearranges compare l' l) : IsStableSort compare l sorted :=
  ⟨h.toRearranges.trans hl, h.ordered⟩

/-- A list that is in order is its own sort. -/
theorem IsStableSort.self (h : l.Pairwise fun a b => compare a b ≠ .gt) :
    IsStableSort compare l l :=
  ⟨.refl l, h⟩

/-! ### Uniqueness -/

theorem IsStableSort.eq [TransCmp compare] (h : IsStableSort compare l sorted)
    (h' : IsStableSort compare l sorted') : sorted = sorted' := by
  have hperm := h.perm.trans h'.perm.symm
  have hstable := fun a => (h.stable a).trans (h'.stable a).symm
  have hordered := h.ordered
  have hordered' := h'.ordered
  clear h h'
  induction sorted generalizing sorted' with
  | nil => exact hperm.nil_eq
  | cons a rest ih =>
      cases sorted' with
      | nil => exact hperm.eq_nil
      | cons b rest' =>
          -- The heads are least in both lists, so each comes first among its equals.
          have hle : compare a b ≠ .gt := by
            rcases List.mem_cons.1 (hperm.mem_iff.2 List.mem_cons_self) with rfl | hb
            · simp [ReflCmp.compare_self]
            · exact List.rel_of_pairwise_cons hordered hb
          have hge : compare b a ≠ .gt := by
            rcases List.mem_cons.1 (hperm.mem_iff.1 List.mem_cons_self) with rfl | ha
            · simp [ReflCmp.compare_self]
            · exact List.rel_of_pairwise_cons hordered' ha
          have heq : compare a b = .eq := OrientedCmp.isLE_antisymm
            (Ordering.isLE_iff_ne_gt.2 hle) (Ordering.isLE_iff_ne_gt.2 hge)
          obtain rfl : a = b := by
            have hclass := hstable a
            rw [List.filter_cons_of_pos (by simp [ReflCmp.compare_self]),
              List.filter_cons_of_pos (by simpa using heq)] at hclass
            exact (List.cons.inj hclass).1
          have hrest : ∀ c, rest.filter (compare c · = .eq) = rest'.filter (compare c · = .eq) := by
            intro c
            have hclass := hstable c
            by_cases hc : compare c a = .eq
            · rw [List.filter_cons_of_pos (by simpa using hc),
                List.filter_cons_of_pos (by simpa using hc)] at hclass
              exact (List.cons.inj hclass).2
            · rwa [List.filter_cons_of_neg (by simpa using hc),
                List.filter_cons_of_neg (by simpa using hc)] at hclass
          rw [ih hperm.cons_inv hrest hordered.of_cons hordered'.of_cons]

/-! ### Sorting a list as a whole -/

theorem isStableSort_mergeSort [TransCmp compare] (l : List α) :
    IsStableSort compare l (l.mergeSort fun a b => (compare a b).isLE) := by
  have htrans : ∀ a b c : α, (compare a b).isLE = true → (compare b c).isLE = true →
      (compare a c).isLE = true := fun _ _ _ => TransCmp.isLE_trans
  have htotal : ∀ a b : α, ((compare a b).isLE || (compare b a).isLE) = true := by
    intro a b
    have hswap : compare b a = (compare a b).swap := OrientedCmp.eq_swap
    rw [hswap]
    cases compare a b <;> rfl
  have hperm := List.mergeSort_perm l fun a b => (compare a b).isLE
  refine ⟨⟨hperm, fun a => ?_⟩, ?_⟩
  · -- What compares equal to `a` is in order already, so that sorting keeps it as it is.
    have hclass : (l.filter (compare a · = .eq)).Pairwise fun b c => (compare b c).isLE := by
      refine List.pairwise_of_forall_mem_list fun b hb c hc => ?_
      have hab : compare a b = .eq := by simpa using List.of_mem_filter hb
      have hac : compare a c = .eq := by simpa using List.of_mem_filter hc
      have hbc : compare b c = .eq := TransCmp.eq_trans (OrientedCmp.eq_symm hab) hac
      simp [hbc]
    have hsub := (List.sublist_mergeSort htrans htotal hclass List.filter_sublist).filter
      (compare a · = .eq)
    rw [List.filter_filter] at hsub
    simp only [Bool.and_self] at hsub
    exact (hsub.eq_of_length (hperm.filter _).length_eq.symm).symm
  · exact (List.pairwise_mergeSort htrans htotal l).imp Ordering.isLE_iff_ne_gt.1

end Triage.Order
