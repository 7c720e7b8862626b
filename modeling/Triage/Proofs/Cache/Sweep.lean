/-
Sweeping expired rows makes no difference to readers.

A directory is swept at a time by taking away all rows that have expired by then.  From that time on
it does not matter whether it was: a row that is gone is not found, and one that is still there is
found to have expired, which is answered and counted in the same way and makes an end of the row.
What an operation does to a directory and to the swept one is therefore alike, and so is what any
sequence of operations does; only how many rows a later sweep removes tells the two apart.
-/
import Triage.Proofs.Cache.Rows

namespace Triage.Cache

open Triage.MessagePack Triage.Text

/-! ### Swept directories -/

/-- The rows of a table that have not expired at a time. -/
def liveRows (time : Int) (rows : Table) : Table :=
  rows.filter fun row => !Session.isPurged time row

/-- A directory without the rows that have expired at a time. -/
def Storage.swept (time : Int) (s : Storage) : Storage :=
  { s with tables := s.tables.map (liveRows time) }

variable {time now : Int} {bucket key : String} {rows : Table} {s : Storage}

theorem get?_liveRows (time : Int) (rows : Table) (key : String) :
    (liveRows time rows).get? key = (rows.get? key).filter fun row => !Session.isPurged time row :=
  SortedMap.get?_filter ..

theorem liveRows_filter (time : Int) (keep : Row → Bool) (rows : Table) :
    liveRows time ((liveRows time rows).filter keep) = liveRows time (rows.filter keep) := by
  refine SortedMap.ext_get? fun key => ?_
  simp only [get?_liveRows, SortedMap.get?_filter, Option.filter_filter]
  congr
  funext row
  cases Session.isPurged time row <;> simp

theorem liveRows_liveRows (time : Int) (rows : Table) :
    liveRows time (liveRows time rows) = liveRows time rows := by
  refine SortedMap.ext_get? fun key => ?_
  simp only [get?_liveRows, Option.filter_filter, Bool.and_self]

/-- A change of what is under one key may be made before or after the table is swept. -/
theorem liveRows_change {change : Table → Table} {row : Option Row}
    (hchange : ∀ rows other, (change rows).get? other = if other = key then row else rows.get? other)
    (time : Int) (rows : Table) :
    liveRows time (change (liveRows time rows)) = liveRows time (change rows) := by
  refine SortedMap.ext_get? fun other => ?_
  rw [get?_liveRows, get?_liveRows, hchange, hchange]
  split
  · rfl
  · simp only [get?_liveRows, Option.filter_filter, Bool.and_self]

namespace Storage

theorem table?_swept (time : Int) (s : Storage) (bucket : String) :
    (s.swept time).table? bucket = (s.table? bucket).map (liveRows time) :=
  SortedMap.get?_map ..

theorem swept_putTable (time : Int) (s : Storage) (bucket : String) (rows : Table) :
    (s.putTable bucket rows).swept time = (s.swept time).putTable bucket (liveRows time rows) := by
  rw [swept, putTable, SortedMap.map_insert]
  rfl

theorem swept_swept (time : Int) (s : Storage) : (s.swept time).swept time = s.swept time := by
  have htables : (s.tables.map (liveRows time)).map (liveRows time) =
      s.tables.map (liveRows time) := by
    refine SortedMap.ext_get? fun name => ?_
    rw [SortedMap.get?_map, SortedMap.get?_map, Option.map_map]
    exact congrArg (Option.map · _) (funext (liveRows_liveRows time))
  rw [swept, swept, htables]

theorem swept_putTable_swept (time : Int) (s : Storage) {rows rows' : Table}
    (h : liveRows time rows = liveRows time rows') :
    ((s.swept time).putTable bucket rows).swept time = (s.putTable bucket rows').swept time := by
  rw [swept_putTable, swept_putTable, swept_swept, h]

theorem swept_ensureTable (time : Int) (s : Storage) (bucket : String) :
    ((s.swept time).ensureTable bucket).swept time = (s.ensureTable bucket).swept time := by
  unfold ensureTable
  rw [table?_swept, Option.isSome_map]
  split
  · exact swept_swept time s
  · exact swept_putTable_swept time s rfl

theorem swept_updateTable? {change : Table → Table}
    (hchange : ∀ rows, liveRows time (change (liveRows time rows)) = liveRows time (change rows))
    (s : Storage) (bucket : String) :
    ((s.swept time).updateTable? bucket change).map (swept time) =
      (s.updateTable? bucket change).map (swept time) := by
  rw [updateTable?, updateTable?, table?_swept]
  cases s.table? bucket with
  | none => rfl
  | some rows => exact congrArg some (swept_putTable_swept time s (hchange rows))

/-- Putting in a table that is the same when it is swept is no change to the swept directory. -/
theorem swept_putTable_of_liveRows {rows' : Table} (hrows : s.table? bucket = some rows)
    (h : liveRows time rows' = liveRows time rows) :
    (s.putTable bucket rows').swept time = s.swept time := by
  have hswept : (s.swept time).table? bucket = some (liveRows time rows) := by
    rw [table?_swept, hrows, Option.map_some]
  rw [swept_putTable, h, putTable, SortedMap.insert_of_get? hswept]

theorem liveRows_erase {row : Row} (hrow : rows.get? key = some row)
    (hpurged : Session.isPurged time row = true) :
    liveRows time (rows.erase key) = liveRows time rows := by
  refine SortedMap.ext_get? fun other => ?_
  rw [get?_liveRows, get?_liveRows, SortedMap.get?_erase]
  split
  · rename_i hother
    rw [hother, hrow, Option.filter_none, Option.filter_some, hpurged]
    rfl
  · rfl

/-! ### What is swept at a location -/

theorem at?_swept (time : Int) (s : Storage) (l : Location) :
    (s.swept time).at? l = (s.at? l).map (Sum.map (liveRows time) id) := by
  cases l with
  | table name =>
      rw [at?, at?, swept, SortedMap.get?_map, Option.map_map, Option.map_map]
      rfl
  | partition name =>
      rw [at?, at?, Option.map_map]
      rfl

/-- Where there are no tables, nothing is swept. -/
theorem agreeOn_swept {r : Set Location} (hr : ∀ name, .table name ∉ r) (time : Int)
    (s : Storage) : AgreeOn r (s.swept time) s := by
  intro l hl
  cases l with
  | table name => exact absurd hl (hr name)
  | partition name => rfl

end Storage

/-- What is confined to locations without tables does not notice that the directory was swept. -/
theorem Storage.Confined.alike_swept {α : Type} {r : Set Location} {P : α → Prop}
    {x : StateM Storage α} (hx : Storage.Confined r P x) (hr : ∀ name, .table name ∉ r) (time : Int)
    (s : Storage) :
    (x.run (s.swept time)).run.1 = (x.run s).run.1 ∧
      (x.run (s.swept time)).run.2.swept time = (x.run s).run.2.swept time := by
  have hagree := Storage.agreeOn_swept hr time s
  refine ⟨hx.yields hagree, Storage.ext_at? fun l => ?_⟩
  rw [Storage.at?_swept, Storage.at?_swept]
  by_cases hl : l ∈ r
  · rw [hx.inside hagree hl]
  · rw [hx.outside _ hl, hx.outside _ hl, ← Storage.at?_swept, Storage.swept_swept,
      Storage.at?_swept]

/-! ### Operations on a table -/

/-- Whether two sessions are alike from a time on: they differ at most in rows that have expired at
that time. -/
structure Session.AlikeFrom (time : Int) (s s' : Session) : Prop where
  cache : s.cache = s'.cache
  storage : s.storage.swept time = s'.storage.swept time

variable {c : Cache} {s : Storage}

theorem alikeFrom_swept (time : Int) (c : Cache) (s : Storage) :
    Session.AlikeFrom time ⟨c, s.swept time⟩ ⟨c, s⟩ :=
  ⟨rfl, s.swept_swept time⟩

theorem alikeFrom_moveTo {change change' : Option (Place × Storage)}
    (h : change.map (Prod.map id (Storage.swept time)) =
      change'.map (Prod.map id (Storage.swept time))) :
    Session.AlikeFrom time (Session.moveTo ⟨c, s.swept time⟩ change)
      (Session.moveTo ⟨c, s⟩ change') := by
  cases change with
  | none =>
      obtain rfl : change' = none := Option.map_eq_none_iff.1 h.symm
      rw [Session.moveTo, Session.record_mk, Session.moveTo, Session.record_mk]
      exact alikeFrom_swept time _ s
  | some moved =>
      obtain ⟨moved', rfl, hmoved⟩ := Option.map_eq_some_iff.1 h.symm
      obtain ⟨hplace, hstorage⟩ := Prod.ext_iff.1 hmoved
      have hplace : moved'.1 = moved.1 := hplace
      exact ⟨by rw [Session.moveTo, Session.moveTo, hplace], hstorage.symm⟩

/-- Changing what is under one key. -/
theorem alikeFrom_update {change : Table → Table} {row : Option Row}
    (hchange : ∀ rows other, (change rows).get? other = if other = key then row else rows.get? other)
    (time : Int) (c : Cache) (s : Storage) (bucket : String) :
    Session.AlikeFrom time
      (Session.moveTo ⟨c, s.swept time⟩
        (((s.swept time).updateTable? bucket change).map (Place.table bucket, ·)))
      (Session.moveTo ⟨c, s⟩ ((s.updateTable? bucket change).map (Place.table bucket, ·))) := by
  refine alikeFrom_moveTo ?_
  have hswept := Storage.swept_updateTable? (liveRows_change hchange time) s bucket
  have hmap := congrArg (Option.map (Place.table bucket, ·)) hswept
  rw [Option.map_map, Option.map_map] at hmap ⊢
  exact hmap

/-- A row is found alike in the swept table unless it has expired; then nothing is. -/
theorem find_swept (hs : s.IsFaithful) (hnow : time ≤ now) (bucket key : String) :
    (Place.table bucket).find (s.swept time) now key = (Place.table bucket).find s now key ∨
      (Place.table bucket).find (s.swept time) now key = .absent ∧
      (Place.table bucket).find s now key = .expired ∧
      ∃ rows row, s.table? bucket = some rows ∧ rows.get? key = some row ∧
        Session.isPurged time row = true := by
  simp only [Place.find, Storage.table?_swept]
  cases hrows : s.table? bucket with
  | none => exact .inl rfl
  | some rows =>
      simp only [Option.map_some, get?_liveRows]
      cases hrow : rows.get? key with
      | none => exact .inl rfl
      | some row =>
          have hfaithful : row.IsFaithful := hs _ rows hrows key row hrow
          by_cases hpurged : Session.isPurged time row = true
          · have hexpired := hpurged
            rw [hfaithful.isPurged_eq] at hexpired
            exact .inr ⟨by simp [Option.filter_some, hpurged],
              hfaithful.ofBytes now (Row.isExpired_mono hnow hexpired), rows, row, rfl, hrow,
              hpurged⟩
          · exact .inl (by simp [Option.filter_some, hpurged])

/-- What is heard, but for how many rows were removed. -/
def Answer.unnumbered : Answer → Answer
  | purged _ => .purged 0
  | answer => answer

/-- An operation on a cache in a table does alike whether or not the directory was swept. -/
theorem alike_perform (hc : c.place = .table bucket) (hs : s.IsFaithful) (hnow : time ≤ now)
    (operation : Operation) :
    (operation.perform now ⟨c, s.swept time⟩).1.unnumbered =
        (operation.perform now ⟨c, s⟩).1.unnumbered ∧
      Session.AlikeFrom time (operation.perform now ⟨c, s.swept time⟩).2
        (operation.perform now ⟨c, s⟩).2 := by
  have hcounted (events : List Event) : (c.counted events).place = .table bucket :=
    (place_counted c events).trans hc
  cases operation with
  | get key =>
      show (Answer.found _).unnumbered = (Answer.found _).unnumbered ∧
        Session.AlikeFrom time (Session.get ⟨c, s.swept time⟩ now key).2
          (Session.get ⟨c, s⟩ now key).2
      simp only [Session.get, Session.record_mk, hc, hcounted]
      rcases find_swept hs hnow bucket key with
        hfind | ⟨hswept, hfind, rows, row, hrows, hrow, hpurged⟩
      · rw [hfind]
        refine ⟨rfl, ?_⟩
        split
        · exact alikeFrom_update (fun rows other => SortedMap.get?_erase rows key other) time _ s
            bucket
        · exact alikeFrom_swept time _ s
      · -- Without the row nothing is found, and with it the row is removed.
        have hremoved : (Place.table bucket).evict s now key =
            some (.table bucket, s.putTable bucket (rows.erase key)) := by
          show (s.updateTable? bucket (·.erase key)).map (Place.table bucket, ·) = _
          rw [Storage.updateTable?, hrows]
          rfl
        have hcache : { c.counted [.get, .miss] with place := .table bucket } =
            c.counted [.get, .miss] := by
          rw [← hcounted [.get, .miss]]
        rw [hswept, hfind]
        simp only [Finding.isStale, Finding.events, if_true, hremoved, Session.moveTo, hcache]
        have herase := Storage.swept_putTable_of_liveRows hrows (Storage.liveRows_erase hrow hpurged)
        exact ⟨rfl, rfl, (s.swept_swept time).trans herase.symm⟩
  | set key value ttl =>
      refine ⟨rfl, ?_⟩
      simp only [Operation.perform, Session.set, Session.record_mk, hcounted, Place.store]
      exact alikeFrom_update (fun rows other => SortedMap.get?_insert rows key other _) time _ s
        bucket
  | delete key =>
      refine ⟨rfl, ?_⟩
      simp only [Operation.perform, Session.delete, Session.record_mk, hcounted, Place.remove]
      exact alikeFrom_update (fun rows other => SortedMap.get?_erase rows key other) time _ s bucket
  | clear =>
      refine ⟨rfl, ?_⟩
      simp only [Operation.perform, Session.clear, Session.record_mk, hcounted, Place.empty]
      exact ⟨rfl, Storage.swept_putTable_swept time s rfl⟩
  | purge =>
      show Answer.unnumbered (.purged _) = Answer.unnumbered (.purged _) ∧
        Session.AlikeFrom time (Session.purge ⟨c, s.swept time⟩ now).2 (Session.purge ⟨c, s⟩ now).2
      refine ⟨rfl, ?_⟩
      simp only [Session.purge, hc, Storage.table?_swept]
      cases s.table? bucket with
      | none =>
          simp only [Option.map_none, Session.record_mk]
          exact alikeFrom_swept time _ s
      | some rows =>
          exact ⟨rfl, Storage.swept_putTable_swept time s (liveRows_filter time _ rows)⟩
  | prefetch key =>
      refine ⟨rfl, ?_⟩
      simp only [Operation.perform, Session.prefetch, Session.withQueue_mk]
      exact alikeFrom_swept time _ s
  | close =>
      refine ⟨rfl, ?_⟩
      simp only [Operation.perform, Session.close, Session.withQueue_mk]
      exact alikeFrom_swept time _ s
  | counters => exact ⟨rfl, alikeFrom_swept time c s⟩

end Triage.Cache
