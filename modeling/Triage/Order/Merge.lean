/-
Merging sorted batches.

A list is cut into batches of one size, and batches that are sorted are merged by taking the least
head again and again. Of equal heads the one in the earliest batch is taken, so that merging keeps
the order of equal elements.
-/
namespace Triage.Order

variable {α : Type}

/-- Cuts a list into batches of a size; the last one may be shorter. A size of zero counts as
one. -/
def batches (size : Nat) : List α → List (List α)
  | [] => []
  | a :: rest => (a :: rest.take (size - 1)) :: batches size (rest.drop (size - 1))
termination_by l => l.length
decreasing_by exact Nat.lt_succ_of_le (List.drop_sublist _ _).length_le

/-- The first of the least heads of several batches, and the batches without it. -/
def takeLeast (compare : α → α → Ordering) : List (List α) → Option (α × List (List α))
  | [] => none
  | [] :: later => (takeLeast compare later).map fun (least, later) => (least, [] :: later)
  | (a :: batch) :: later =>
    match takeLeast compare later with
    | none => some (a, batch :: later)
    | some (least, later') =>
      if compare least a = .lt then some (least, (a :: batch) :: later')
      else some (a, batch :: later)

/-- How many elements several batches have. -/
def total (batches : List (List α)) : Nat := batches.flatten.length

@[simp] theorem total_cons (batch : List α) (later : List (List α)) :
    total (batch :: later) = batch.length + total later := by
  rw [total, List.flatten_cons, List.length_append, ← total]

theorem total_of_takeLeast {compare : α → α → Ordering} {batches rest : List (List α)} {a : α}
    (h : takeLeast compare batches = some (a, rest)) : total rest + 1 = total batches := by
  induction batches generalizing a rest with
  | nil => simp [takeLeast] at h
  | cons batch later ih =>
    cases batch with
    | nil =>
      rw [takeLeast] at h
      obtain ⟨⟨least, later'⟩, hlater, heq⟩ := Option.map_eq_some_iff.1 h
      injection heq with _ heq
      have := ih hlater
      subst heq
      rw [total_cons, total_cons, Nat.add_assoc, this]
    | cons b batch =>
      rw [takeLeast] at h
      split at h
      · injection h with h
        injection h with _ h
        subst h
        rw [total_cons, total_cons, List.length_cons]
        omega
      · rename_i least later' hlater
        have := ih hlater
        split at h <;>
          · injection h with h
            injection h with _ h
            subst h
            rw [total_cons, total_cons, List.length_cons]
            omega

/-- All elements of several sorted batches in order. -/
def merge (compare : α → α → Ordering) (batches : List (List α)) : List α :=
  match _h : takeLeast compare batches with
  | none => []
  | some (least, rest) => least :: merge compare rest
termination_by total batches
decreasing_by
  have := total_of_takeLeast _h
  omega

end Triage.Order
