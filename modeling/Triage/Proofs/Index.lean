/-
What a bucket of an index holds.

A bucket holds the positions of the notifications that belong to it, each once and in
ascending order, so that reading a bucket back gives those notifications in the order of
the list.
-/
import Triage.Index
import Triage.Proofs.SortedMap

namespace Triage

theorem Notification.nodup_keys (n : Notification) : n.keys.Nodup := by
  simp [Notification.keys]

namespace Index

theorem lookup_push (index : Index) (key other : IndexKey) (position : Nat) :
    (index.push key position).lookup other =
      if other = key then position :: index.lookup other else index.lookup other := by
  unfold push lookup
  by_cases hkey : other = key
  · simp [hkey]
  · have hne : (other == key) = false := by simpa using hkey
    rw [if_neg hkey, List.lookup_cons, hne, lookup_filter_ne hkey]

/-- A position is put once into each of several buckets. -/
theorem lookup_foldl_push {keys : List IndexKey} (hkeys : keys.Nodup) (index : Index)
    (other : IndexKey) (position : Nat) :
    (keys.foldl (fun index key => index.push key position) index).lookup other =
      if other ∈ keys then position :: index.lookup other else index.lookup other := by
  induction keys generalizing index with
  | nil => rfl
  | cons key rest ih =>
      obtain ⟨hnew, hrest⟩ := List.nodup_cons.1 hkeys
      rw [List.foldl_cons, ih hrest, lookup_push]
      by_cases hkey : other = key
      · rw [if_pos hkey, if_neg (hkey ▸ hnew), if_pos (by simp [hkey])]
      · simp [hkey]

/-- The positions in a bucket, read back in a list that the index is a part of. -/
theorem filterMap_lookup_build (key : IndexKey) (list before : List Notification) :
    ((build before.length list).lookup key).filterMap ((before ++ list)[·]?) =
      list.filter fun n => key ∈ n.keys := by
  induction list generalizing before with
  | nil => rfl
  | cons n rest ih =>
      have hrest := ih (before ++ [n])
      rw [List.append_assoc, List.length_append] at hrest
      have hn : (before ++ n :: rest)[before.length]? = some n := by simp
      rw [build, lookup_foldl_push n.nodup_keys]
      by_cases hkey : key ∈ n.keys
      · rw [if_pos hkey, List.filterMap_cons_some hn,
          List.filter_cons_of_pos (by simpa using hkey)]
        exact congrArg (n :: ·) hrest
      · rw [if_neg hkey, List.filter_cons_of_neg (by simpa using hkey)]
        exact hrest

/-- A bucket holds the notifications that belong to it, in the order of the list. -/
theorem filterMap_lookup_ofList (key : IndexKey) (list : List Notification) :
    ((ofList list).lookup key).filterMap (list[·]?) = list.filter fun n => key ∈ n.keys :=
  filterMap_lookup_build key list []

/-! ### Positions -/

theorem lookup_build (key : IndexKey) (start : Nat) (list : List Notification) :
    (build start list).lookup key =
      ((list.zipIdx start).filter fun entry => key ∈ entry.1.keys).map Prod.snd := by
  induction list generalizing start with
  | nil => rfl
  | cons n rest ih =>
      rw [build, lookup_foldl_push n.nodup_keys, ih, List.zipIdx_cons]
      by_cases hkey : key ∈ n.keys
      · rw [if_pos hkey, List.filter_cons_of_pos (by simpa using hkey), List.map_cons]
      · rw [if_neg hkey, List.filter_cons_of_neg (by simpa using hkey)]

/-- A bucket holds the positions of the notifications that belong to it. -/
theorem mem_lookup_ofList {key : IndexKey} {list : List Notification} {i : Nat} :
    i ∈ (ofList list).lookup key ↔ ∃ n, list[i]? = some n ∧ key ∈ n.keys := by
  rw [ofList, lookup_build]
  simp [List.mem_zipIdx_iff_getElem?]

/-- The positions in a bucket are in ascending order, each of them once. -/
theorem pairwise_lookup_ofList (key : IndexKey) (list : List Notification) :
    ((ofList list).lookup key).Pairwise (· < ·) := by
  have hall : ((list.zipIdx 0).map Prod.snd).Pairwise (· < ·) := by
    rw [List.zipIdx_map_snd]
    exact List.pairwise_lt_range'
  rw [ofList, lookup_build]
  exact hall.sublist (List.filter_sublist.map _)

end Index

end Triage
