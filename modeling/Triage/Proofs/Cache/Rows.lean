/-
What is in the tables of a directory.

Whatever is done to any of the caches in a directory changes at most the table of one bucket, and of
the rows that the table holds afterwards each was there before or was written for an envelope.
`TableChange` says so once, for all operations and for opening a cache.  So every row holds an
envelope and a copy of its expiry, and a bucket that was opened keeps its table.
-/
import Triage.Proofs.Cache.Change
import Triage.Proofs.Cache.Expiry
import Triage.Proofs.Cache.Neighbours

namespace Triage.Cache

open Triage.MessagePack Triage.Text

/-! ### Rows -/

/-- Whether the envelope that a row holds has expired. -/
def Row.isExpired (now : Int) (row : Row) : Bool :=
  (Envelope.decode? row.blob).any (·.isExpired now)

/-- Whether a row holds an envelope and a copy of its expiry. -/
def Row.IsFaithful (row : Row) : Prop := ∃ e : Envelope, e.Encodable ∧ row = ⟨e.encode, e.expiresAt⟩

/-- Whether all rows of a table do. -/
def Table.IsFaithful (rows : Table) : Prop := ∀ key row, rows.get? key = some row → row.IsFaithful

/-- Whether all tables of a directory do. -/
def Storage.IsFaithful (s : Storage) : Prop :=
  ∀ name rows, s.tables.get? name = some rows → Table.IsFaithful rows

variable {now : Int} {row : Row} {rows : Table} {bucket : String} {s s' : Storage}

/-- The envelope of a row and the copy tell the same. -/
theorem Row.IsFaithful.exists_envelope (h : row.IsFaithful) :
    ∃ e, Envelope.decode? row.blob = some e ∧ row.expiresAt = e.expiresAt := by
  obtain ⟨e, he, rfl⟩ := h
  exact ⟨e, Envelope.decode?_encode he, rfl⟩

theorem Row.IsFaithful.isPurged_eq (h : row.IsFaithful) (now : Int) :
    Session.isPurged now row = row.isExpired now := by
  obtain ⟨e, hdecode, hexpiry⟩ := h.exists_envelope
  rw [Session.isPurged, hexpiry, isExpired, hdecode]
  rfl

theorem Row.isExpired_mono {later : Int} (hlater : now ≤ later) (h : row.isExpired now = true) :
    row.isExpired later = true := by
  rw [isExpired, Option.any_eq_true] at h ⊢
  obtain ⟨e, hdecode, hexpired⟩ := h
  exact ⟨e, hdecode, Envelope.isExpired_mono hlater hexpired⟩

theorem Row.IsFaithful.ofBytes (h : row.IsFaithful) (now : Int)
    (hexpired : row.isExpired now = true) : Finding.ofBytes now row.blob = .expired := by
  obtain ⟨e, hdecode, -⟩ := h.exists_envelope
  rw [isExpired, hdecode, Option.any_some] at hexpired
  simp only [Finding.ofBytes, hdecode, Finding.ofEnvelope, hexpired, if_true]

/-! ### What changes in the tables -/

/-- What may become of the tables of a directory when something is done to a cache of a bucket. -/
inductive TableChange (bucket : String) (s : Storage) : Storage → Prop
  | kept {s' : Storage} (h : s'.tables = s.tables) : TableChange bucket s s'
  | put {rows : Table} (hrows : ∀ key row, rows.get? key = some row →
      row.IsFaithful ∨ ∃ old, s.table? bucket = some old ∧ old.get? key = some row) :
      TableChange bucket s (s.putTable bucket rows)

namespace TableChange

theorem isFaithful (h : TableChange bucket s s') (hs : s.IsFaithful) : s'.IsFaithful := by
  intro name rows hname key row hrow
  cases h with
  | kept h => exact hs name rows (h ▸ hname) key row hrow
  | put hrows =>
      rw [Storage.putTable, SortedMap.get?_insert] at hname
      split at hname
      · cases hname
        rcases hrows key row hrow with hnew | ⟨old, hold, hkey⟩
        · exact hnew
        · exact hs _ old hold key row hkey
      · exact hs name rows hname key row hrow

/-- No bucket loses its table. -/
theorem isSome_table? (h : TableChange bucket s s') {other : String}
    (hsome : (s.table? other).isSome = true) : (s'.table? other).isSome = true := by
  cases h with
  | kept h => rwa [Storage.table?, h]
  | put =>
      rw [Storage.table?, Storage.putTable, SortedMap.get?_insert]
      split
      · rfl
      · exact hsome

/-- Changing the rows of the table that a bucket has, if it has one. -/
theorem of_updateTable? {change : Table → Table} (h : s.updateTable? bucket change = some s')
    (hchange : ∀ rows, s.table? bucket = some rows → ∀ key row,
      (change rows).get? key = some row → row.IsFaithful ∨ rows.get? key = some row) :
    TableChange bucket s s' := by
  obtain ⟨rows, hrows, rfl⟩ := Option.map_eq_some_iff.1 h
  refine .put fun key row hrow => (hchange rows hrows key row hrow).imp_right fun hold => ?_
  exact ⟨rows, hrows, hold⟩

theorem of_empty (s : Storage) (bucket : String) :
    TableChange bucket s (s.putTable bucket .empty) :=
  .put fun _ _ hrow => absurd hrow (Option.not_mem_none _)

theorem of_ensureTable (s : Storage) (bucket : String) :
    TableChange bucket s (s.ensureTable bucket) := by
  unfold Storage.ensureTable
  split
  · exact .kept rfl
  · exact of_empty s bucket

end TableChange

/-! ### Caches in tables -/

/-- What may become of a cache in a table and of its directory. -/
def Rewrites (bucket : String) (s s' : Session) : Prop :=
  s'.cache.place = .table bucket ∧ TableChange bucket s.storage s'.storage

variable {c : Cache} {storage : Storage}

theorem rewrites_moveTo (hc : c.place = .table bucket) {change : Option (Place × Storage)}
    (h : ∀ place storage', change = some (place, storage') →
      place = .table bucket ∧ TableChange bucket storage storage') :
    Rewrites bucket ⟨c, storage⟩ (Session.moveTo ⟨c, storage⟩ change) := by
  cases change with
  | none =>
      rw [Session.moveTo, Session.record_mk]
      exact ⟨(place_counted c _).trans hc, .kept rfl⟩
  | some moved => exact h moved.1 moved.2 rfl

/-- Removing the row of a key. -/
theorem rewrites_remove (hc : c.place = .table bucket) (key : String) :
    Rewrites bucket ⟨c, storage⟩
      (Session.moveTo ⟨c, storage⟩ (Place.remove (.table bucket) storage key)) := by
  refine rewrites_moveTo hc fun place storage' h => ?_
  obtain ⟨s', hupdate, hs'⟩ := Option.map_eq_some_iff.1 h
  cases hs'
  refine ⟨rfl, .of_updateTable? hupdate fun rows _ other row hrow => .inr ?_⟩
  rw [SortedMap.get?_erase] at hrow
  split at hrow
  · cases hrow
  · exact hrow

/-- Writing a row for an envelope. -/
theorem rewrites_store (hc : c.place = .table bucket) (key : String) {e : Envelope}
    (he : e.Encodable) : Rewrites bucket ⟨c, storage⟩
      (Session.moveTo ⟨c, storage⟩ (Place.store (.table bucket) storage key e)) := by
  refine rewrites_moveTo hc fun place storage' h => ?_
  obtain ⟨s', hupdate, hs'⟩ := Option.map_eq_some_iff.1 h
  cases hs'
  refine ⟨rfl, .of_updateTable? hupdate fun rows _ other row hrow => ?_⟩
  rw [SortedMap.get?_insert] at hrow
  split at hrow
  · cases hrow
    exact .inl ⟨e, he, rfl⟩
  · exact .inr hrow

/-- Whether an operation can be performed: values are short enough to be written. -/
def Operation.IsValid : Operation → Prop
  | .set _ value _ => value.length < UInt32.size
  | _ => True

instance Operation.decidableIsValid : (operation : Operation) → Decidable operation.IsValid
  | .set _ value _ => inferInstanceAs (Decidable (value.length < UInt32.size))
  | .get _ | .delete _ | .clear | .prefetch _ | .purge | .close | .counters => .isTrue trivial

/-- What the operations do to a cache in a table. -/
theorem rewrites_perform (hc : c.place = .table bucket) (hnow : firstTime ≤ now)
    {operation : Operation} (hvalid : operation.IsValid) :
    Rewrites bucket ⟨c, storage⟩ (operation.perform now ⟨c, storage⟩).2 := by
  have hcounted (events : List Event) : (c.counted events).place = .table bucket :=
    (place_counted c events).trans hc
  cases operation with
  | get key =>
      show Rewrites bucket ⟨c, storage⟩ (Session.get ⟨c, storage⟩ now key).2
      rw [Session.get]
      simp only [Session.record_mk]
      split
      · rw [hcounted]
        exact rewrites_remove (hcounted _) key
      · exact ⟨hcounted _, .kept rfl⟩
  | set key value ttl =>
      show Rewrites bucket ⟨c, storage⟩ (Session.set ⟨c, storage⟩ now key value ttl)
      rw [Session.set]
      simp only [Session.record_mk, hcounted]
      exact rewrites_store (hcounted _) key (encodable_wrap hvalid hnow ttl)
  | delete key =>
      show Rewrites bucket ⟨c, storage⟩ (Session.delete ⟨c, storage⟩ key)
      rw [Session.delete]
      simp only [Session.record_mk, hcounted]
      exact rewrites_remove (hcounted _) key
  | clear =>
      show Rewrites bucket ⟨c, storage⟩ (Session.clear ⟨c, storage⟩)
      rw [Session.clear]
      simp only [Session.record_mk, hcounted]
      exact ⟨rfl, .of_empty storage bucket⟩
  | purge =>
      show Rewrites bucket ⟨c, storage⟩ (Session.purge ⟨c, storage⟩ now).2
      simp only [Session.purge, hc]
      cases hrows : storage.table? bucket with
      | none =>
          simp only [Session.record_mk]
          exact ⟨hcounted _, .kept rfl⟩
      | some rows =>
          refine ⟨hc, .put fun key row hrow => .inr ⟨rows, hrows, ?_⟩⟩
          rw [SortedMap.get?_filter, Option.filter_eq_some_iff] at hrow
          exact hrow.1
  | prefetch key =>
      simp only [Operation.perform, Session.prefetch, Session.withQueue_mk]
      exact ⟨(place_counted _ _).trans ((place_counted _ _).trans hc), .kept rfl⟩
  | close =>
      simp only [Operation.perform, Session.close, Session.withQueue_mk]
      exact ⟨(place_counted _ _).trans hc, .kept rfl⟩
  | counters => exact ⟨hc, .kept rfl⟩

end Triage.Cache
