/-
What the places of a cache hold.

`Holds` relates a place, with the directory it may use, to the entries of a map: as they
are in memory, as bytes in the table of a bucket, or as bytes in its one partition.  Each
operation on a place is one lemma: it does to the place what is done to the map.
-/
import Triage.Proofs.Cache.Reference
import Triage.Proofs.Cache.Storage

namespace Triage.Cache

open Triage.MessagePack

/-- The entries of a map, by key. -/
abbrev Entries := String → Option Envelope

/-- Whether all entries of a map can be written. -/
def Entries.Encodable (m : Entries) : Prop := ∀ key e, m key = some e → e.Encodable

/-- Whether a place of a kind of cache, opened for a bucket, holds the entries of a map. -/
inductive Place.Holds (bucket : String) : Backend → Place → Storage → Entries → Prop
  | memory {entries : SortedMap Envelope} {storage : Storage} {m : Entries}
      (h : ∀ key, entries.get? key = m key) :
      Holds bucket .memory (.memory entries) storage m
  | table {rows : Table} {storage : Storage} {m : Entries}
      (hname : Storage.isTableName bucket = true) (htable : storage.table? bucket = some rows)
      (h : ∀ key, (rows.get? key).map Row.blob = (m key).map Envelope.encode) :
      Holds bucket .sqlite (.table bucket) storage m
  | partition {number : Nat} {entries : Partition} {storage : Storage} {m : Entries}
      (hlive : storage.InGeneration bucket number entries)
      (h : ∀ key, entries.get? key = (m key).map Envelope.encode) :
      Holds bucket .lsm (.partition bucket number) storage m

namespace Place

variable {bucket : String} {backend : Backend} {place : Place} {storage : Storage} {m : Entries}

/-- What looking up an entry finds. -/
def found (now : Int) : Option Envelope → Finding
  | some e => .ofEnvelope now e
  | none => .absent

theorem ofBytes_encode {e : Envelope} (h : e.Encodable) (now : Int) :
    Finding.ofBytes now e.encode = .ofEnvelope now e := by
  rw [Finding.ofBytes, Envelope.decode?_encode h]

theorem Holds.find (h : Holds bucket backend place storage m) (hm : m.Encodable) (now : Int)
    (key : String) : place.find storage now key = found now (m key) := by
  cases h with
  | memory h =>
      rw [Place.find, h]
      cases m key <;> rfl
  | table hname htable h =>
      have hkey := h key
      simp only [Place.find, htable]
      cases hentry : m key with
      | none =>
          rw [hentry, Option.map_none, Option.map_eq_none_iff] at hkey
          rw [hkey]
          rfl
      | some e =>
          rw [hentry, Option.map_some, Option.map_eq_some_iff] at hkey
          obtain ⟨row, hrow, hblob⟩ := hkey
          simp only [hrow, hblob]
          exact ofBytes_encode (hm key e hentry) now
  | partition hlive h =>
      simp only [Place.find, hlive.live, Option.bind_some, h]
      cases hentry : m key with
      | none => rfl
      | some e => exact ofBytes_encode (hm key e hentry) now

/-! ### Changing one entry

Storing and removing change one entry, each place in its own way.  A changed table or
partition holds the changed map if what it has under each key is what was written there.
-/

/-- What replacing an entry does to the entries as they are stored. -/
theorem map_replace {α : Type} (f : Envelope → α) (m : Entries) (key other : String)
    (entry : Option Envelope) :
    (Reference.replace m key entry other).map f =
      if other = key then entry.map f else (m other).map f := by
  unfold Reference.replace
  split <;> rfl

theorem holds_updateTable {rows : Table} {change : Table → Table} {key : String}
    {entry : Option Envelope} {row : Option Row}
    (hname : Storage.isTableName bucket = true) (htable : storage.table? bucket = some rows)
    (h : ∀ key, (rows.get? key).map Row.blob = (m key).map Envelope.encode)
    (hchange : ∀ other, (change rows).get? other = if other = key then row else rows.get? other)
    (hrow : row.map Row.blob = entry.map Envelope.encode) :
    ∃ place' storage', (storage.updateTable? bucket change).map (Place.table bucket, ·) =
        some (place', storage') ∧
      Holds bucket .sqlite place' storage' (Reference.replace m key entry) := by
  obtain ⟨storage', hupdate, htable'⟩ := Storage.table?_updateTable? htable change
  refine ⟨.table bucket, storage', by rw [hupdate]; rfl, .table hname htable' fun other => ?_⟩
  rw [hchange, map_replace, ← h, ← hrow]
  split <;> rfl

theorem holds_updatePartition {number : Nat} {entries : Partition}
    {change : Partition → Partition} {key : String} {entry : Option Envelope}
    (hlive : storage.InGeneration bucket number entries)
    (h : ∀ key, entries.get? key = (m key).map Envelope.encode)
    (hchange : ∀ other, (change entries).get? other =
      if other = key then entry.map Envelope.encode else entries.get? other) :
    ∃ place' storage', (storage.updatePartition? (Storage.partitionName bucket number) change).map
        (Place.partition bucket number, ·) = some (place', storage') ∧
      Holds bucket .lsm place' storage' (Reference.replace m key entry) := by
  obtain ⟨storage', hupdate, hlive'⟩ := hlive.update change
  refine ⟨.partition bucket number, storage', by rw [hupdate]; rfl,
    .partition hlive' fun other => ?_⟩
  rw [hchange, map_replace, ← h]

theorem Holds.store (h : Holds bucket backend place storage m) (key : String) (e : Envelope) :
    ∃ place' storage', place.store storage key e = some (place', storage') ∧
      Holds bucket backend place' storage' (Reference.replace m key (some e)) := by
  cases h with
  | memory h =>
      refine ⟨_, _, rfl, .memory fun other => ?_⟩
      rw [SortedMap.get?_insert, Reference.replace, h]
  | table hname htable h =>
      exact holds_updateTable hname htable h (fun other => SortedMap.get?_insert ..) rfl
  | partition hlive h =>
      exact holds_updatePartition hlive h fun other => SortedMap.get?_insert ..

theorem Holds.remove (h : Holds bucket backend place storage m) (key : String) :
    ∃ place' storage', place.remove storage key = some (place', storage') ∧
      Holds bucket backend place' storage' (Reference.replace m key none) := by
  cases h with
  | memory h =>
      refine ⟨_, _, rfl, .memory fun other => ?_⟩
      rw [SortedMap.get?_erase, Reference.replace, h]
  | table hname htable h =>
      exact holds_updateTable hname htable h (fun other => SortedMap.get?_erase ..) rfl
  | partition hlive h =>
      exact holds_updatePartition hlive h fun other => SortedMap.get?_erase ..

/-- An entry that has expired is removed, also where it is looked at once more. -/
theorem Holds.evict (h : Holds bucket backend place storage m) {now : Int} {key : String}
    {e : Envelope} (hentry : m key = some e) (hexpired : e.isExpired now = true) :
    ∃ place' storage', place.evict storage now key = some (place', storage') ∧
      Holds bucket backend place' storage' (Reference.replace m key none) := by
  have hremove := h.remove key
  cases h with
  | memory h =>
      rw [Place.evict, h key, hentry, Option.any_some, if_pos hexpired]
      exact hremove
  | table | partition => exact hremove

theorem Holds.empty (h : Holds bucket backend place storage m) :
    Holds bucket backend (place.empty storage).1 (place.empty storage).2 fun _ => none := by
  cases h with
  | memory => exact .memory fun _ => rfl
  | table hname => exact .table hname (Storage.table?_putTable ..) fun _ => rfl
  | partition hlive => exact .partition hlive.nextGeneration fun _ => rfl

end Place

end Triage.Cache
