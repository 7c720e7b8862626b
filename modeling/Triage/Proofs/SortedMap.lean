/-
What the operations of a sorted map do to its values.

A map is seen through `get?`; each operation is one equation on it, so that nothing else
needs to know how the entries are listed.  Maps that look the same through it are the same.
-/
import Mathlib.Data.List.Induction
import Mathlib.Data.List.Sort
import Triage.SortedMap

namespace Triage

/-- Dropping the entries of one key leaves those of the others. -/
theorem lookup_filter_ne {α β : Type} [DecidableEq α] {key other : α} (h : other ≠ key)
    (l : List (α × β)) : (l.filter fun e => e.1 != key).lookup other = l.lookup other := by
  induction l with
  | nil => rfl
  | cons entry rest ih =>
      by_cases hentry : entry.1 = key
      · have hother : (other == entry.1) = false := by simpa [hentry] using h
        rw [List.filter_cons_of_neg (by simpa using hentry), List.lookup_cons, hother, ih]
      · rw [List.filter_cons_of_pos (by simpa using hentry), List.lookup_cons, List.lookup_cons,
          ih]

theorem lookup_filter_self {α β : Type} [DecidableEq α] (key : α) (l : List (α × β)) :
    (l.filter fun e => e.1 != key).lookup key = none := by
  induction l with
  | nil => rfl
  | cons entry rest ih =>
      by_cases hentry : entry.1 = key
      · rw [List.filter_cons_of_neg (by simpa using hentry), ih]
      · have hkey : (key == entry.1) = false := by simpa using fun h => hentry h.symm
        rw [List.filter_cons_of_pos (by simpa using hentry), List.lookup_cons, hkey, ih]

namespace SortedMap

variable {α : Type}

theorem lookup_insertEntry (key other : String) (value : α) (l : List (String × α)) :
    (insertEntry key value l).lookup other =
      if other = key then some value else l.lookup other := by
  induction l with
  | nil =>
      by_cases h : other = key
      · simp [insertEntry, h]
      · have hne : (other == key) = false := by simpa using h
        simp [insertEntry, List.lookup_cons, hne, h]
  | cons entry rest ih =>
      unfold insertEntry
      by_cases h : other = key
      · subst h
        rw [if_pos rfl] at ih ⊢
        split
        · simp
        · split
          · rename_i hlt
            have hne : (other == entry.1) = false := by
              simpa using (String.ne_of_lt hlt).symm
            rw [List.lookup_cons, hne, ih]
          · simp
      · have hne : (other == key) = false := by simpa using h
        rw [if_neg h]
        split
        · rw [List.lookup_cons, hne]
        · split
          · rw [List.lookup_cons, List.lookup_cons, ih, if_neg h]
          · rename_i hnot hnot'
            rw [eq_of_not_lt hnot hnot'] at hne
            rw [List.lookup_cons, List.lookup_cons, eq_of_not_lt hnot hnot', hne]

theorem get?_insert (m : SortedMap α) (key other : String) (value : α) :
    (m.insert key value).get? other = if other = key then some value else m.get? other :=
  lookup_insertEntry key other value m.entries

theorem get?_erase (m : SortedMap α) (key other : String) :
    (m.erase key).get? other = if other = key then none else m.get? other := by
  by_cases h : other = key
  · subst h
    rw [if_pos rfl]
    exact lookup_filter_self other m.entries
  · rw [if_neg h]
    exact lookup_filter_ne h m.entries

theorem get?_map {β : Type} (f : α → β) (m : SortedMap α) (key : String) :
    (m.map f).get? key = (m.get? key).map f := by
  unfold get? map
  simp only
  induction m.entries with
  | nil => rfl
  | cons entry rest ih =>
      rw [List.map_cons, List.lookup_cons, List.lookup_cons, ih]
      cases key == entry.1 <;> rfl

/-! ### Entries -/

/-- In a list with ascending keys, an entry is what is found under its key. -/
theorem mem_iff_lookup {l : List (String × α)} (h : l.Pairwise fun a b => a.1 < b.1) {key : String}
    {value : α} : (key, value) ∈ l ↔ l.lookup key = some value := by
  induction l with
  | nil => simp
  | cons entry rest ih =>
      obtain ⟨hfirst, hrest⟩ := List.pairwise_cons.1 h
      rw [List.mem_cons, List.lookup_cons]
      by_cases hkey : key = entry.1
      · have hlater : (key, value) ∉ rest := fun hmem =>
          String.ne_of_lt (hfirst _ hmem) hkey.symm
        have hfound : (key == entry.1) = true := by simpa using hkey
        rw [hfound]
        simp [hlater, ← hkey, Prod.ext_iff, eq_comm]
      · have hne : (key == entry.1) = false := by simpa using hkey
        rw [ih hrest]
        simp [hne, hkey, Prod.ext_iff]

theorem mem_toList_iff {m : SortedMap α} {key : String} {value : α} :
    (key, value) ∈ m.toList ↔ m.get? key = some value :=
  mem_iff_lookup m.ascending

/-- A map is determined by what it holds. -/
theorem ext_get? {m n : SortedMap α} (h : ∀ key, m.get? key = n.get? key) : m = n := by
  have hmem (e : String × α) : e ∈ m.entries ↔ e ∈ n.entries := by
    have hkey := h e.1
    exact mem_toList_iff.trans (hkey ▸ mem_toList_iff.symm)
  have hlt : Std.Asymm fun a b : String × α => a.1 < b.1 := ⟨fun _ _ => String.lt_asymm⟩
  have hentries : m.entries = n.entries := m.ascending.eq_of_mem_iff n.ascending hmem
  cases m
  cases n
  cases hentries
  rfl

theorem get?_filter (keep : α → Bool) (m : SortedMap α) (key : String) :
    (m.filter keep).get? key = (m.get? key).filter keep := by
  refine Option.ext fun value => ?_
  rw [← mem_toList_iff, Option.filter_eq_some_iff, ← mem_toList_iff]
  exact List.mem_filter

/-- A map is filtered by how its own values are tested. -/
theorem filter_congr {m : SortedMap α} {keep keep' : α → Bool}
    (h : ∀ e ∈ m.toList, keep e.2 = keep' e.2) : m.filter keep = m.filter keep' := by
  refine ext_get? fun key => ?_
  rw [get?_filter, get?_filter]
  cases hkey : m.get? key with
  | none => rfl
  | some value =>
      rw [Option.filter_some, Option.filter_some, h (key, value) (mem_toList_iff.2 hkey)]

theorem map_insert {β : Type} (f : α → β) (m : SortedMap α) (key : String) (value : α) :
    (m.insert key value).map f = (m.map f).insert key (f value) := by
  refine ext_get? fun other => ?_
  rw [get?_map, get?_insert, get?_insert, get?_map]
  split <;> rfl

/-- Putting in what is there changes nothing. -/
theorem insert_of_get? {m : SortedMap α} {key : String} {value : α}
    (h : m.get? key = some value) : m.insert key value = m := by
  refine ext_get? fun other => ?_
  rw [get?_insert]
  split
  · rename_i hother
    rw [hother, h]
  · rfl

theorem mem_keys_iff {m : SortedMap α} {key : String} :
    key ∈ m.keys ↔ ∃ value, m.get? key = some value := by
  constructor
  · intro h
    obtain ⟨e, he, rfl⟩ := List.mem_map.1 h
    exact ⟨e.2, mem_toList_iff.1 he⟩
  · rintro ⟨value, h⟩
    exact List.mem_map.2 ⟨(key, value), mem_toList_iff.2 h, rfl⟩

/-! ### Maps from lists -/

theorem ofList_concat (l : List (String × α)) (e : String × α) :
    ofList (l ++ [e]) = (ofList l).insert e.1 e.2 := by
  rw [ofList, List.foldl_append]
  rfl

/-- Of the entries under one key the last one counts. -/
theorem get?_ofList (l : List (String × α)) (key : String) :
    (ofList l).get? key = l.reverse.lookup key := by
  induction l using List.reverseRecOn with
  | nil => rfl
  | append_singleton rest e ih =>
      rw [ofList_concat, get?_insert, List.reverse_append, List.reverse_singleton,
        List.singleton_append, List.lookup_cons, ih]
      by_cases hkey : key = e.1
      · have hfound : (key == e.1) = true := by simpa using hkey
        rw [if_pos hkey, hfound]
      · have hne : (key == e.1) = false := by simpa using hkey
        rw [if_neg hkey, hne]

/-- A map from a list holds nothing but entries of the list. -/
theorem mem_of_get?_ofList {l : List (String × α)} {key : String} {value : α}
    (h : (ofList l).get? key = some value) : (key, value) ∈ l := by
  rw [get?_ofList, List.lookup_eq_some_iff] at h
  obtain ⟨before, after, hsplit, -⟩ := h
  have hmem : (key, value) ∈ l.reverse := by simp [hsplit]
  exact List.mem_reverse.1 hmem

theorem mem_keys_ofList {l : List (String × α)} {key : String} :
    key ∈ (ofList l).keys ↔ ∃ e ∈ l, e.1 = key := by
  rw [mem_keys_iff]
  constructor
  · rintro ⟨value, h⟩
    exact ⟨(key, value), mem_of_get?_ofList h, rfl⟩
  · rintro ⟨e, he, rfl⟩
    by_contra hnone
    have hlookup : l.reverse.lookup e.1 = none := by
      rw [← get?_ofList, Option.eq_none_iff_forall_ne_some]
      exact fun value hvalue => hnone ⟨value, hvalue⟩
    have hne := List.lookup_eq_none_iff.1 hlookup e (List.mem_reverse.2 he)
    simp at hne

theorem length_insertEntry_le (key : String) (value : α) (l : List (String × α)) :
    (insertEntry key value l).length ≤ l.length + 1 := by
  induction l with
  | nil => simp [insertEntry]
  | cons entry rest ih =>
      rw [insertEntry]
      split
      · simp
      · split
        · simpa using ih
        · simp

/-- Each entry of a list makes at most one key. -/
theorem length_keys_ofList_le (l : List (String × α)) : (ofList l).keys.length ≤ l.length := by
  induction l using List.reverseRecOn with
  | nil => simp [ofList, empty, keys]
  | append_singleton rest e ih =>
      have hinsert := length_insertEntry_le e.1 e.2 (ofList rest).entries
      rw [keys, List.length_map] at ih ⊢
      rw [ofList_concat, List.length_append, List.length_singleton]
      show (insertEntry e.1 e.2 (ofList rest).entries).length ≤ rest.length + 1
      omega

/-! ### Two maps together -/

/-- Both maps together; where both hold something, that of the second counts. -/
def union (m n : SortedMap α) : SortedMap α := n.toList.foldl (fun m e => m.insert e.1 e.2) m

theorem get?_union (m n : SortedMap α) (key : String) :
    (m.union n).get? key = (n.get? key).or (m.get? key) := by
  obtain ⟨entries, h⟩ := n
  show (entries.foldl (fun m e => m.insert e.1 e.2) m).get? key =
    (entries.lookup key).or (m.get? key)
  induction entries generalizing m with
  | nil => rfl
  | cons entry rest ih =>
      obtain ⟨hfirst, hrest⟩ := List.pairwise_cons.1 h
      rw [List.foldl_cons, ih _ hrest, get?_insert, List.lookup_cons]
      by_cases hkey : key = entry.1
      · have hnone : rest.lookup key = none := by
          by_contra hsome
          obtain ⟨value, hvalue⟩ := Option.ne_none_iff_exists'.1 hsome
          exact String.ne_of_lt (hfirst _ ((mem_iff_lookup hrest).2 hvalue)) hkey.symm
        have hfound : (key == entry.1) = true := by simpa using hkey
        rw [hnone, if_pos hkey, hfound]
        rfl
      · have hne : (key == entry.1) = false := by simpa using hkey
        rw [if_neg hkey, hne]

/-- A map is read off and put together again. -/
theorem ofList_toList (m : SortedMap α) : ofList m.toList = m := by
  refine ext_get? fun key => ?_
  show (empty.union m).get? key = m.get? key
  rw [get?_union]
  exact Option.or_none

/-- Whether two maps hold nothing under a common key. -/
def Disjoint (m n : SortedMap α) : Prop := ∀ key, m.get? key = none ∨ n.get? key = none

theorem disjoint_iff {m n : SortedMap α} :
    m.Disjoint n ↔ ∀ e ∈ m.toList, n.get? e.1 = none := by
  constructor
  · intro h e he
    have hsome : m.get? e.1 = some e.2 := mem_toList_iff.1 he
    exact (h e.1).resolve_left (by simp [hsome])
  · intro h key
    cases hkey : m.get? key with
    | none => exact .inl rfl
    | some value => exact .inr (h (key, value) (mem_toList_iff.2 hkey))

instance (m n : SortedMap α) : Decidable (m.Disjoint n) := decidable_of_iff _ disjoint_iff.symm

theorem Disjoint.symm {m n : SortedMap α} (h : m.Disjoint n) : n.Disjoint m := fun key =>
  (h key).symm

theorem mem_union_iff {m n : SortedMap α} (h : m.Disjoint n) {e : String × α} :
    e ∈ (m.union n).toList ↔ e ∈ m.toList ∨ e ∈ n.toList := by
  rw [show e = (e.1, e.2) from rfl, mem_toList_iff, mem_toList_iff, mem_toList_iff, get?_union]
  rcases h e.1 with hnone | hnone
  · simp [hnone]
  · simp [hnone]

/-- Nothing is held twice, so that it does not matter which map comes first. -/
theorem Disjoint.union_comm {m n : SortedMap α} (h : m.Disjoint n) : m.union n = n.union m :=
  ext_get? fun key => by
    rw [get?_union, get?_union]
    rcases h key with hnone | hnone
    · simp [hnone]
    · simp [hnone]

end SortedMap

end Triage
