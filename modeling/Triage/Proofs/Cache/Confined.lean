/-
What a computation may look at and change in a directory.

A location is a table or a partition, by its name.  A computation is confined to some
locations if what it yields and what it leaves there depend only on what is there, and if it
changes nothing anywhere else.  Changing one table or partition is confined to where it is,
and what is made of confined computations is confined again.  So whatever is done to the
entries of a bucket is confined to the locations of the bucket, and different buckets have no
location in common unless they are tables of one name.
-/
import Mathlib.Data.Set.Function
import Triage.Cache.Basic
import Triage.Proofs.Cache.Storage

namespace Triage.Cache

open Triage.Text

/-- Where something may be in a directory. -/
inductive Location
  | table (name : String)
  | partition (name : String)
  deriving Repr, DecidableEq

namespace Storage

/-! ### What is at a location -/

/-- What a directory has at a location. -/
def at? (s : Storage) : Location → Option (Table ⊕ Partition)
  | .table name => (s.tables.get? name).map .inl
  | .partition name => (s.partition? name).map .inr

/-- Whether two directories have the same at some locations. -/
def AgreeOn (r : Set Location) (s s' : Storage) : Prop := Set.EqOn s.at? s'.at? r

variable {r : Set Location} {s s' : Storage} {bucket name : String}

theorem AgreeOn.table? (h : AgreeOn r s s') (hr : .table (asciiLower bucket) ∈ r) :
    s.table? bucket = s'.table? bucket :=
  Option.map_injective Sum.inl_injective (h hr)

theorem AgreeOn.partition? (h : AgreeOn r s s') (hr : .partition name ∈ r) :
    s.partition? name = s'.partition? name :=
  Option.map_injective Sum.inr_injective (h hr)

/-- A directory is determined by what is at its locations. -/
theorem ext_at? (h : ∀ l, s.at? l = s'.at? l) : s = s' := by
  have htables : s.tables = s'.tables := SortedMap.ext_get? fun name =>
    Option.map_injective Sum.inl_injective (h (.table name))
  have hpartitions : s.partitions = s'.partitions := SortedMap.ext_get? fun name =>
    Option.map_injective Sum.inr_injective (h (.partition name))
  cases s
  cases s'
  cases htables
  cases hpartitions
  rfl

/-- What agrees on all tables has the same tables. -/
theorem AgreeOn.tables_eq (h : AgreeOn rᶜ s s') (hr : ∀ name, .table name ∉ r) :
    s.tables = s'.tables :=
  SortedMap.ext_get? fun name => Option.map_injective Sum.inl_injective (h (hr name))

theorem at?_putTable (s : Storage) (bucket : String) (table : Table) (l : Location) :
    (s.putTable bucket table).at? l =
      if l = .table (asciiLower bucket) then some (.inl table) else s.at? l := by
  cases l with
  | table name =>
      rw [at?, putTable, SortedMap.get?_insert]
      by_cases hname : name = asciiLower bucket
      · simp [hname]
      · simp [hname, at?]
  | partition name => simp [at?, putTable, Storage.partition?]

theorem at?_putPartition (s : Storage) (name : String) (partition : Partition) (l : Location) :
    (s.putPartition name partition).at? l =
      if l = .partition name then some (.inr partition) else s.at? l := by
  cases l with
  | table other => simp [at?, putPartition]
  | partition other =>
      rw [at?, partition?_putPartition]
      by_cases hother : other = name
      · simp [hother]
      · simp [hother, at?]

theorem at?_dropPartition (s : Storage) (name : String) (l : Location) :
    (s.dropPartition name).at? l = if l = .partition name then none else s.at? l := by
  cases l with
  | table other => simp [at?, dropPartition]
  | partition other =>
      rw [at?, partition?_dropPartition]
      by_cases hother : other = name
      · simp [hother]
      · simp [hother, at?]

/-! ### Confined computations -/

/-- Whether a computation is confined to some locations, and what it yields has a property. -/
structure Confined {α : Type} (r : Set Location) (P : α → Prop) (x : StateM Storage α) : Prop where
  yields : ∀ {s s'}, AgreeOn r s s' → (x.run s).run.1 = (x.run s').run.1
  holds : ∀ s, P (x.run s).run.1
  inside : ∀ {s s'}, AgreeOn r s s' → AgreeOn r (x.run s).run.2 (x.run s').run.2
  outside : ∀ s, AgreeOn rᶜ (x.run s).run.2 s

namespace Confined

variable {α β : Type} {P : α → Prop} {Q : β → Prop}

theorem pure {a : α} (h : P a) : Confined r P (Pure.pure a) :=
  ⟨fun _ => rfl, fun _ => h, id, fun s => Set.eqOn_refl s.at? rᶜ⟩

theorem pure_some {a : α} (h : P a) : Confined r (fun o => ∀ a ∈ o, P a) (Pure.pure (some a)) :=
  .pure fun _ ha => Option.some.inj ha ▸ h

theorem pure_none : Confined r (fun o => ∀ a ∈ o, P a) (Pure.pure none) :=
  .pure fun _ ha => absurd ha (Option.not_mem_none _)

theorem bind {x : StateM Storage α} {f : α → StateM Storage β} (hx : Confined r P x)
    (hf : ∀ a, P a → Confined r Q (f a)) : Confined r Q (x >>= f) := by
  refine ⟨fun {s s'} h => ?_, fun s => ?_, fun {s s'} h => ?_, fun s => ?_⟩
  · show ((f (x.run s).run.1).run (x.run s).run.2).run.1 = _
    rw [hx.yields h]
    exact (hf _ (hx.holds s')).yields (hx.inside h)
  · exact (hf _ (hx.holds s)).holds _
  · show AgreeOn r ((f (x.run s).run.1).run (x.run s).run.2).run.2 _
    rw [hx.yields h]
    exact (hf _ (hx.holds s')).inside (hx.inside h)
  · exact ((hf _ (hx.holds s)).outside _).trans (hx.outside s)

theorem map {x : StateM Storage α} {f : α → β} (hx : Confined r P x) (hf : ∀ a, P a → Q (f a)) :
    Confined r Q (f <$> x) :=
  hx.bind (f := fun a => Pure.pure (f a)) fun a ha => .pure (hf a ha)

/-- What is at the locations may be looked at. -/
theorem read {look : Storage → α} (h : ∀ {s s'}, AgreeOn r s s' → look s = look s') :
    Confined r (fun _ => True) (look <$> get) :=
  ⟨h, fun _ => trivial, id, fun s => Set.eqOn_refl s.at? rᶜ⟩

/-- What is done may depend on what is found at the locations. -/
theorem of_read {x : StateM Storage β} {look : Storage → α} (f : α → StateM Storage β)
    (h : ∀ {s s'}, AgreeOn r s s' → look s = look s') (hf : ∀ a, Confined r Q (f a))
    (hx : ∀ s, x.run s = (f (look s)).run s) : Confined r Q x := by
  have hprogram : x = look <$> get >>= f := funext hx
  rw [hprogram]
  exact (read h).bind fun a _ => hf a

/-- What is at one of the locations may be changed. -/
theorem write {f : Storage → Storage} {l : Location} {content : Option (Table ⊕ Partition)}
    (hl : l ∈ r) (h : ∀ s other, (f s).at? other = if other = l then content else s.at? other) :
    Confined r (fun _ => True) (modify f) := by
  refine ⟨fun _ => rfl, fun _ => trivial, fun {s s'} hagree other hother => ?_,
    fun s other hother => ?_⟩
  · show (f s).at? other = (f s').at? other
    rw [h, h, hagree hother]
  · show (f s).at? other = s.at? other
    rw [h, if_neg fun heq : other = l => hother (heq ▸ hl)]

/-- Something may be done unless something else is found at the locations. -/
theorem write_unless {found : Storage → Bool} {f : Storage → Storage}
    (hfound : ∀ {s s'}, AgreeOn r s s' → found s = found s')
    (hf : Confined r (fun _ => True) (modify f)) :
    Confined r (fun _ => True) (modify fun s => if found s then s else f s) := by
  refine .of_read (fun b => if b then Pure.pure () else modify f) hfound (fun b => ?_) fun s => ?_
  · cases b with
    | true => exact .pure trivial
    | false => exact hf
  · show ((), if found s then s else f s) = _
    cases found s <;> rfl

end Confined

/-! ### Changing a table or a partition -/

theorem confined_putTable (hr : .table (asciiLower bucket) ∈ r) (table : Table) :
    Confined r (fun _ => True) (modify (putTable · bucket table)) :=
  .write hr fun s => s.at?_putTable bucket table

theorem confined_putPartition (hr : .partition name ∈ r) (partition : Partition) :
    Confined r (fun _ => True) (modify (putPartition · name partition)) :=
  .write hr fun s => s.at?_putPartition name partition

theorem confined_dropPartition (hr : .partition name ∈ r) :
    Confined r (fun _ => True) (modify (dropPartition · name)) :=
  .write hr fun s => s.at?_dropPartition name

theorem confined_ensureTable (hr : .table (asciiLower bucket) ∈ r) :
    Confined r (fun _ => True) (modify (ensureTable · bucket)) :=
  .write_unless (fun h => congrArg Option.isSome (h.table? hr)) (confined_putTable hr .empty)

theorem confined_ensurePartition (hr : .partition name ∈ r) :
    Confined r (fun _ => True) (modify (ensurePartition · name)) :=
  .write_unless (fun h => congrArg Option.isSome (h.partition? hr)) (confined_putPartition hr .empty)

/-! ### Buckets -/

/-- Where the entries of a bucket may be, and what tells their generation. -/
def locations (bucket : String) : Backend → Set Location
  | .null | .memory => ∅
  | .sqlite => {l | l = .table (asciiLower bucket)}
  | .lsm => {l | l = .partition (metaName bucket) ∨ ∃ n, l = .partition (partitionName bucket n)}

theorem metaName_mem (bucket : String) : .partition (metaName bucket) ∈ locations bucket .lsm :=
  .inl rfl

theorem partitionName_mem (bucket : String) (n : Nat) :
    .partition (partitionName bucket n) ∈ locations bucket .lsm :=
  .inr ⟨n, rfl⟩

/-- A character that may be in the name of a bucket. -/
def isNameChar (c : Char) : Bool := c.isAlphanum || c == '_'

/-- The names of all partitions of a bucket start with its own and go on with another character. -/
theorem exists_of_mem_locations_lsm {l : Location} (hname : isBucketName bucket = true)
    (hl : l ∈ locations bucket .lsm) :
    ∃ name, l = .partition name ∧ name.toList.takeWhile isNameChar = bucket.toList := by
  have hall : ∀ c ∈ bucket.toList, isNameChar c = true := by
    simp only [isBucketName, Bool.and_eq_true, List.all_eq_true] at hname
    exact hname.2
  have hfront (more : List Char) (hmore : more.takeWhile isNameChar = []) :
      (bucket.toList ++ more).takeWhile isNameChar = bucket.toList := by
    rw [List.takeWhile_append_of_pos hall, hmore, List.append_nil]
  rcases hl with rfl | ⟨n, rfl⟩
  · refine ⟨_, rfl, ?_⟩
    rw [metaName, String.toList_append]
    exact hfront _ rfl
  · refine ⟨_, rfl, ?_⟩
    unfold partitionName
    split
    · simpa using hfront [] rfl
    · rw [String.append_assoc, String.toList_append, String.toList_append]
      exact hfront _ rfl

theorem table_notMem_locations {backend : Backend} (hbackend : backend ≠ .sqlite) (bucket : String)
    (name : String) : .table name ∉ locations bucket backend := by
  intro hmem
  cases backend with
  | null | memory => exact hmem
  | sqlite => exact hbackend rfl
  | lsm =>
      rcases hmem with h | ⟨_, h⟩
      · cases h
      · cases h

/-- Different buckets have no location in common, unless they are tables of one name. -/
theorem disjoint_locations {bucket' : String} {backend backend' : Backend}
    (hname : isBucketName bucket = true) (hname' : isBucketName bucket' = true)
    (hbucket : bucket ≠ bucket')
    (htable : backend = .sqlite → backend' = .sqlite → asciiLower bucket ≠ asciiLower bucket') :
    ∀ l ∈ locations bucket backend, l ∉ locations bucket' backend' := by
  intro l hl hl'
  cases backend with
  | null | memory => exact hl
  | sqlite =>
      cases backend' with
      | null | memory => exact hl'
      | sqlite =>
          cases hl
          exact htable rfl rfl (Location.table.inj hl')
      | lsm =>
          obtain ⟨name, rfl, -⟩ := exists_of_mem_locations_lsm hname' hl'
          cases hl
  | lsm =>
      obtain ⟨name, rfl, hfront⟩ := exists_of_mem_locations_lsm hname hl
      cases backend' with
      | null | memory => exact hl'
      | sqlite => cases hl'
      | lsm =>
          obtain ⟨name', hsame, hfront'⟩ := exists_of_mem_locations_lsm hname' hl'
          cases hsame
          exact hbucket (String.toList_inj.1 (hfront.symm.trans hfront'))

theorem AgreeOn.generation (h : AgreeOn r s s') (hr : .partition (metaName bucket) ∈ r) :
    s.generation bucket = s'.generation bucket :=
  generation_congr (by rw [h.partition? hr])

theorem confined_openPartitions (hr : locations bucket .lsm ⊆ r) :
    Confined r (fun _ => True) (modifyGet fun s => (s.openPartitions bucket).swap) := by
  have hname (number : Nat) := hr (partitionName_mem bucket number)
  have hmeta := hr (metaName_mem bucket)
  have hdrop (number : Nat) : Confined r (fun _ => True) (modify fun s =>
      if number = 0 then s else s.dropPartition (partitionName bucket (number - 1))) := by
    by_cases hnumber : number = 0
    · simp only [hnumber, if_true]
      exact .pure trivial
    · simp only [hnumber, if_false]
      exact confined_dropPartition (hname (number - 1))
  show Confined r _ (do
    modify (ensurePartition · (metaName bucket))
    let number ← (generation · bucket) <$> get
    modify (ensurePartition · (partitionName bucket number))
    modify fun s => if number = 0 then s else s.dropPartition (partitionName bucket (number - 1))
    return number)
  refine (confined_ensurePartition hmeta).bind fun _ _ => ?_
  refine (Confined.read fun h => h.generation hmeta).bind fun number _ => ?_
  refine (confined_ensurePartition (hname number)).bind fun _ _ => ?_
  exact (hdrop number).bind fun _ _ => .pure trivial

theorem confined_nextGeneration (hr : locations bucket .lsm ⊆ r) (number : Nat) :
    Confined r (fun _ => True) (modifyGet fun s => (s.nextGeneration bucket number).swap) := by
  have hname (number : Nat) := hr (partitionName_mem bucket number)
  have hmeta := hr (metaName_mem bucket)
  let next := (number + 1) % UInt64.size
  show Confined r _ (do
    modify (ensurePartition · (partitionName bucket next))
    let info ← (Storage.partition? · (metaName bucket)) <$> get
    modify (putPartition · (metaName bucket)
      ((info.getD .empty).insert generationKey (MessagePack.bigEndian 8 next)))
    modify (dropPartition · (partitionName bucket number))
    return next)
  refine (confined_ensurePartition (hname next)).bind fun _ _ => ?_
  refine (Confined.read fun h => h.partition? hmeta).bind fun info _ => ?_
  refine (confined_putPartition hmeta _).bind fun _ _ => ?_
  exact (confined_dropPartition (hname number)).bind fun _ _ => .pure trivial

/-! ### Changes that may fail -/

/-- Something that may fail as a computation; where it fails it changes nothing. -/
def attempt {α : Type} (change : Storage → Option (α × Storage)) : StateM Storage (Option α) :=
  modifyGet fun s => (change s).elim (none, s) (Prod.map some id)

theorem run_attempt {α : Type} (change : Storage → Option (α × Storage)) (s : Storage) :
    ((attempt change).run s).run = (change s).elim (none, s) (Prod.map some id) :=
  rfl

/-- A change of what is found, if anything is, yields what it is to yield or nothing. -/
theorem confined_attempt {α β : Type} {P : α → Prop} {look : Storage → Option β}
    {change : Storage → β → Storage} {a : α} (ha : P a)
    (hlook : ∀ {s s'}, AgreeOn r s s' → look s = look s')
    (hchange : ∀ b, Confined r (fun _ => True) (modify (change · b))) :
    Confined r (fun o => ∀ a ∈ o, P a)
      (attempt fun s => ((look s).map fun b => change s b).map (a, ·)) := by
  let after (b : β) : StateM Storage (Option α) := do
    modify (change · b)
    return some a
  refine .of_read (fun found => found.elim (return none) after) hlook (fun found => ?_) fun s => ?_
  · cases found with
    | some b => exact (hchange b).bind fun _ _ => .pure_some ha
    | none => exact .pure_none
  · refine (run_attempt _ s).trans ?_
    cases look s <;> rfl

end Storage

/-! ### Entries -/

namespace Place

open Storage

variable {r : Set Location} {place : Place} {storage storage' : Storage}

/-- Where a place is in a directory. -/
def locations : Place → Set Location
  | nowhere | memory _ => ∅
  | table bucket => Storage.locations bucket .sqlite
  | partition bucket _ => Storage.locations bucket .lsm

theorem find_congr (hr : place.locations ⊆ r) (h : AgreeOn r storage storage') (now : Int)
    (key : String) : place.find storage now key = place.find storage' now key := by
  cases place with
  | nowhere | memory => rfl
  | table bucket => rw [find, find, h.table? (hr rfl)]
  | partition bucket number =>
      rw [find, find, h.partition? (hr (partitionName_mem bucket number))]

theorem confined_updateTable? {bucket : String} (hr : (table bucket).locations ⊆ r)
    (f : Table → Table) : Confined r (fun o => ∀ place ∈ o, place.locations ⊆ r)
      (attempt fun storage => (storage.updateTable? bucket f).map (table bucket, ·)) :=
  confined_attempt hr (fun h => h.table? (hr rfl)) fun rows => confined_putTable (hr rfl) (f rows)

theorem confined_updatePartition? {bucket : String} {number : Nat}
    (hr : (partition bucket number).locations ⊆ r) (f : Partition → Partition) :
    Confined r (fun o => ∀ place ∈ o, place.locations ⊆ r) (attempt fun storage =>
      (storage.updatePartition? (partitionName bucket number) f).map (partition bucket number, ·)) :=
  have hname := hr (partitionName_mem bucket number)
  confined_attempt hr (fun h => h.partition? hname) fun entries =>
    confined_putPartition hname (f entries)

theorem confined_store (hr : place.locations ⊆ r) (key : String) (e : Envelope) :
    Confined r (fun o => ∀ place' ∈ o, place'.locations ⊆ r) (attempt (place.store · key e)) := by
  cases place with
  | nowhere | memory => exact .pure_some hr
  | table bucket => exact confined_updateTable? hr _
  | partition bucket number => exact confined_updatePartition? hr _

theorem confined_remove (hr : place.locations ⊆ r) (key : String) :
    Confined r (fun o => ∀ place' ∈ o, place'.locations ⊆ r) (attempt (place.remove · key)) := by
  cases place with
  | nowhere | memory => exact .pure_some hr
  | table bucket => exact confined_updateTable? hr _
  | partition bucket number => exact confined_updatePartition? hr _

theorem confined_evict (hr : place.locations ⊆ r) (now : Int) (key : String) :
    Confined r (fun o => ∀ place' ∈ o, place'.locations ⊆ r) (attempt (place.evict · now key)) := by
  cases place with
  | memory entries =>
      unfold evict
      simp only
      split
      · exact .pure_some hr
      · exact .pure_some hr
  | nowhere | table | partition => exact confined_remove hr key

theorem confined_empty (hr : place.locations ⊆ r) :
    Confined r (fun o => ∀ place' ∈ o, place'.locations ⊆ r)
      (attempt fun storage => some (place.empty storage)) := by
  cases place with
  | nowhere | memory => exact .pure_some hr
  | table bucket =>
      exact (confined_putTable (hr rfl) .empty).bind fun _ _ => .pure_some (a := table bucket) hr
  | partition bucket number =>
      exact (confined_nextGeneration hr number).bind fun next _ =>
        .pure_some (a := partition bucket next) hr

end Place

end Triage.Cache
