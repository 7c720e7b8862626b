/-
What an order leaves open.

Of the rearrangements of a list that are in order there may be many, since what compares equal can
come in any order.  They differ in nothing else: the rank of an element, which is the number of
elements that come before it by the order, is the same at each position of all of them.
-/
import Mathlib.Data.List.Forall2
import Mathlib.Data.List.Sort
import Triage.Proofs.Order.Merge

namespace Triage.Order

open Std

variable {α : Type} {compare : α → α → Ordering} {l l' : List α}

/-- How many elements of a list come before one by the order. -/
def rank (compare : α → α → Ordering) (l : List α) (a : α) : Nat :=
  l.countP (compare · a = .lt)

theorem rank_le [TransCmp compare] {a b : α} (h : compare a b ≠ .gt) :
    rank compare l a ≤ rank compare l b := by
  refine List.countP_mono_left fun c _ hc => ?_
  have hca : compare c a = .lt := by simpa using hc
  simpa using TransCmp.lt_of_lt_of_isLE hca (Ordering.isLE_iff_ne_gt.2 h)

theorem rank_lt [TransCmp compare] {a b : α} (ha : a ∈ l) (h : compare a b = .lt) :
    rank compare l a < rank compare l b := by
  obtain ⟨before, after, rfl⟩ := List.append_of_mem ha
  have hbefore : rank compare before a ≤ rank compare before b := rank_le (by simp [h])
  have hafter : rank compare after a ≤ rank compare after b := rank_le (by simp [h])
  unfold rank at hbefore hafter ⊢
  have hself : (a :: after).countP (compare · a = .lt) = after.countP (compare · a = .lt) :=
    List.countP_cons_of_neg (by simp [ReflCmp.compare_self])
  have hother : (a :: after).countP (compare · b = .lt) = after.countP (compare · b = .lt) + 1 :=
    List.countP_cons_of_pos (by simpa using h)
  rw [List.countP_append, List.countP_append, hself, hother]
  omega

/-- Elements of one rank compare equal. -/
theorem eq_of_rank_eq [TransCmp compare] {a b : α} (ha : a ∈ l) (hb : b ∈ l)
    (h : rank compare l a = rank compare l b) : compare a b = .eq := by
  cases hab : compare a b with
  | eq => rfl
  | lt => exact absurd h (Nat.ne_of_lt (rank_lt ha hab))
  | gt => exact absurd h.symm (Nat.ne_of_lt (rank_lt hb (OrientedCmp.lt_of_gt hab)))

/-- Lists of the same elements that are both in order differ only among what compares equal. -/
theorem forall₂_of_perm [TransCmp compare] (hperm : l.Perm l') (hl : IsOrdered compare l)
    (hl' : IsOrdered compare l') : List.Forall₂ (compare · · = .eq) l l' := by
  have hsorted {m : List α} (hm : IsOrdered compare m) :
      (m.map (rank compare l)).Pairwise (· ≤ ·) := List.pairwise_map.2 (hm.imp rank_le)
  have hranks : l.map (rank compare l) = l'.map (rank compare l) :=
    (hperm.map _).eq_of_pairwise' (hsorted hl) (hsorted hl')
  rw [← List.forall₂_eq_eq_eq, List.forall₂_map_left_iff, List.forall₂_map_right_iff] at hranks
  refine List.forall₂_iff_zip.2 ⟨hperm.length_eq, fun {a b} hab => ?_⟩
  obtain ⟨ha, hb⟩ := List.of_mem_zip hab
  exact eq_of_rank_eq ha (hperm.mem_iff.2 hb) ((List.forall₂_iff_zip.1 hranks).2 hab)

/-- Where nothing else compares equal there is only one order. -/
theorem eq_of_perm_of_no_ties [TransCmp compare] (hperm : l.Perm l') (hl : IsOrdered compare l)
    (hl' : IsOrdered compare l') (hties : ∀ a ∈ l, ∀ b ∈ l, compare a b = .eq → a = b) :
    l = l' := by
  refine hperm.eq_of_pairwise (fun a b ha hb hab hba => ?_) hl hl'
  have heq : compare a b = .eq := OrientedCmp.isLE_antisymm
    (Ordering.isLE_iff_ne_gt.2 hab) (Ordering.isLE_iff_ne_gt.2 hba)
  exact hties a ha b (hperm.mem_iff.2 hb) heq

end Triage.Order
