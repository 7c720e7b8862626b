/-
Chains of criteria are total preorders.

Each field compares what it reads of two notifications by an order of its own, a
direction keeps that order or turns it round, and a chain is lexicographic; none of
this can break transitivity.  The instances say so, and whatever sorts or merges by a
chain finds them.
-/
import Triage.Order.Criterion

namespace Triage

open Std

/-- Instants are ordered by second, then by nanosecond. -/
instance : TransCmp Calendar.Instant.compare :=
  inferInstanceAs (TransCmp (compareLex (compareOn Calendar.Instant.seconds)
    (compareOn Calendar.Instant.nanos)))

/-- What a field compares by: an order of what it reads of a notification. -/
instance (field : SortField) : TransCmp field.compare where
  eq_swap := by
    intro a b
    cases field with
    | time => exact @OrientedCmp.eq_swap _ Calendar.Instant.compare _ _ _
    | repository | type | title | status | reason => exact OrientedOrd.eq_swap
  isLE_trans := by
    intro a b c hab hbc
    cases field with
    | time => exact @TransCmp.isLE_trans _ Calendar.Instant.compare _ _ _ _ hab hbc
    | repository | type | title | status | reason => exact TransOrd.isLE_trans hab hbc

instance (c : SortCriterion) : TransCmp c.compare := by
  obtain ⟨field, direction⟩ := c
  cases direction with
  | ascending => exact inferInstanceAs (TransCmp field.compare)
  | descending =>
      have hswap : SortCriterion.compare ⟨field, .descending⟩ = fun a b => field.compare b a := by
        funext a b
        have horiented : field.compare b a = (field.compare a b).swap := OrientedCmp.eq_swap
        exact horiented.symm
      rw [hswap]
      infer_instance

/-- **Main result.** Comparing by a chain of criteria is consistent. -/
instance instTransCmpCompareBy : (criteria : List SortCriterion) → TransCmp (compareBy criteria)
  | [] => { eq_swap := rfl, isLE_trans := fun _ _ => rfl }
  | c :: rest =>
    have := instTransCmpCompareBy rest
    inferInstanceAs (TransCmp (compareLex c.compare (compareBy rest)))

/-- The first criterion that tells two notifications apart decides. -/
theorem compareBy_eq_find? (criteria : List SortCriterion) (a b : Notification) :
    compareBy criteria a b = ((criteria.map (·.compare a b)).find? Ordering.isNe).getD .eq := by
  induction criteria with
  | nil => rfl
  | cons c rest ih =>
      rw [compareBy, ih, List.map_cons, List.find?_cons]
      cases c.compare a b <;> rfl

end Triage
