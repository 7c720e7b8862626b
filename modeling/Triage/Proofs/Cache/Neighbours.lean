/-
Caches side by side in one directory.

Several caches are opened in one directory, each with its own settings, and are used in any
order.  They are isolated if each of them answers as it does when nobody uses the others.
What one cache does is confined to the locations of its bucket, so that caches are isolated
if their buckets have none in common.  Different buckets of partitions never do; two buckets
of tables do if their names differ only in ASCII case, and then the caches share a table.
-/
import Triage.Proofs.Cache.Envelope
import Triage.Proofs.Cache.Operation

namespace Triage

open Triage.Cache Triage.Cache.Storage Triage.MessagePack Triage.Text

namespace Cache

/-! ### Several caches -/

/-- What is done to one of several caches. -/
inductive Act
  /-- The cache is opened, for the first time or again. -/
  | start
  | perform (operation : Operation)
  deriving Repr, DecidableEq

/-- Several caches that may be open, with their common directory. -/
structure Neighbours (ι : Type) where
  caches : ι → Option Cache
  storage : Storage

/-- Does something to a cache that may be open. -/
def Act.run (settings : Settings) (now : Int) (c : Option Cache) :
    Act → StateM Storage (Answer × Option Cache)
  | start => (fun c => (.opened c.isSome, c)) <$> opening settings
  | perform operation =>
    match c with
    | some c => (fun x => (x.1, some x.2)) <$> c.operate (operation.perform now)
    | none => pure (.notOpen, none)

theorem confined_run {r : Set Location} {settings : Settings} {c : Option Cache}
    (hr : Storage.locations settings.bucket settings.backend ⊆ r) (hc : ∀ c' ∈ c, c'.Within r)
    (now : Int) (act : Act) :
    Confined r (fun x => ∀ c' ∈ x.2, c'.Within r) (act.run settings now c) := by
  cases act with
  | start => exact (confined_opening hr).map fun _ h => h
  | perform operation =>
      cases c with
      | none => exact .pure fun _ hc' => absurd hc' (Option.not_mem_none _)
      | some c =>
          refine (confined_perform (hc c rfl) now operation).map fun x hx c' hc' => ?_
          cases hc'
          exact hx

namespace Neighbours

/-- Something done to one of several caches at a time. -/
structure Turn (ι : Type) where
  who : ι
  now : Int
  act : Act
  deriving Repr, DecidableEq

variable {ι : Type} [DecidableEq ι]

/-- No cache is open. -/
def closed (storage : Storage) : Neighbours ι := ⟨fun _ => none, storage⟩

/-- What comes of doing something to one of the caches. -/
def outcome (settings : ι → Settings) (w : Neighbours ι) (turn : Turn ι) :
    (Answer × Option Cache) × Storage :=
  ((turn.act.run (settings turn.who) turn.now (w.caches turn.who)).run w.storage).run

/-- Does something to one of the caches. -/
def step (settings : ι → Settings) (w : Neighbours ι) (turn : Turn ι) : Answer × Neighbours ι :=
  let ((answer, c), storage) := w.outcome settings turn
  (answer, ⟨Function.update w.caches turn.who c, storage⟩)

/-- Does one thing after the other, with what is heard each time. -/
def trace (settings : ι → Settings) (w : Neighbours ι) : List (Turn ι) → List (Turn ι × Answer)
  | [] => []
  | turn :: rest =>
    let (answer, w) := w.step settings turn
    (turn, answer) :: trace settings w rest

/-- Whether each cache answers as it does when nobody uses the others, whatever the directory holds
at first. -/
def Isolated (settings : ι → Settings) : Prop :=
  ∀ storage turns who,
    ((closed storage).trace settings turns).filter (fun x => x.1.who = who) =
      (closed storage).trace settings (turns.filter fun turn => turn.who = who)

/-- The locations of a cache. -/
def home (settings : ι → Settings) (who : ι) : Set Location :=
  Storage.locations (settings who).bucket (settings who).backend

/-- Whether every open cache is at its own locations. -/
def AtHome (settings : ι → Settings) (w : Neighbours ι) : Prop :=
  ∀ who, ∀ c ∈ w.caches who, c.Within (home settings who)

/-- Whether there is no difference for one of the caches. -/
structure Alike (settings : ι → Settings) (who : ι) (w w' : Neighbours ι) : Prop where
  cache : w.caches who = w'.caches who
  storage : AgreeOn (home settings who) w.storage w'.storage

variable {settings : ι → Settings} {w w' : Neighbours ι} {turn : Turn ι} {who : ι}

theorem caches_step_self (settings : ι → Settings) (w : Neighbours ι) (turn : Turn ι) :
    (w.step settings turn).2.caches turn.who = (w.outcome settings turn).1.2 :=
  Function.update_self ..

theorem caches_step_of_ne (w : Neighbours ι) (hne : who ≠ turn.who) :
    (w.step settings turn).2.caches who = w.caches who :=
  Function.update_of_ne hne ..

omit [DecidableEq ι] in
theorem AtHome.confined (h : w.AtHome settings) (turn : Turn ι) :
    Confined (home settings turn.who) (fun x => ∀ c ∈ x.2, c.Within (home settings turn.who))
      (turn.act.run (settings turn.who) turn.now (w.caches turn.who)) :=
  confined_run Set.Subset.rfl (h turn.who) turn.now turn.act

theorem AtHome.step (h : w.AtHome settings) (turn : Turn ι) :
    (w.step settings turn).2.AtHome settings := by
  intro other
  by_cases hother : other = turn.who
  · subst hother
    rw [caches_step_self]
    exact (h.confined turn).holds w.storage
  · rw [caches_step_of_ne w hother]
    exact h other

/-- Where there is no difference for a cache, it answers the same and there is none afterwards. -/
theorem Alike.step_own (h : Alike settings turn.who w w') (hw : w.AtHome settings) :
    (w.step settings turn).1 = (w'.step settings turn).1 ∧
      Alike settings turn.who (w.step settings turn).2 (w'.step settings turn).2 := by
  have hyields : (w.outcome settings turn).1 = (w'.outcome settings turn).1 := by
    rw [outcome, outcome, ← h.cache]
    exact (hw.confined turn).yields h.storage
  have hinside : AgreeOn (home settings turn.who) (w.outcome settings turn).2
      (w'.outcome settings turn).2 := by
    rw [outcome, outcome, ← h.cache]
    exact (hw.confined turn).inside h.storage
  refine ⟨?_, ?_, hinside⟩
  · show (w.outcome settings turn).1.1 = (w'.outcome settings turn).1.1
    rw [hyields]
  · rw [caches_step_self, caches_step_self, hyields]

/-- What is done to another cache makes no difference. -/
theorem Alike.step_other (h : Alike settings who w w') (hw : w.AtHome settings)
    (hne : who ≠ turn.who) (hdisjoint : ∀ l ∈ home settings who, l ∉ home settings turn.who) :
    Alike settings who (w.step settings turn).2 w' := by
  refine ⟨(caches_step_of_ne w hne).trans h.cache, fun l hl => ?_⟩
  have houtside := (hw.confined turn).outside w.storage (hdisjoint l hl)
  exact houtside.trans (h.storage hl)

/-- What a cache answers, it answers without the others as well. -/
theorem filter_trace (hdisjoint : ∀ i j, i ≠ j → ∀ l ∈ home settings i, l ∉ home settings j)
    (h : Alike settings who w w') (hw : w.AtHome settings) (turns : List (Turn ι)) :
    (w.trace settings turns).filter (fun x => x.1.who = who) =
      w'.trace settings (turns.filter fun turn => turn.who = who) := by
  induction turns generalizing w w' with
  | nil => rfl
  | cons turn rest ih =>
      by_cases hwho : turn.who = who
      · subst hwho
        obtain ⟨hanswer, halike⟩ := h.step_own hw
        rw [trace, List.filter_cons_of_pos (by simp), List.filter_cons_of_pos (by simp), trace,
          ih halike (hw.step turn), hanswer]
      · have halike := h.step_other hw (Ne.symm hwho) (hdisjoint _ _ (Ne.symm hwho))
        rw [trace, List.filter_cons_of_neg (by simpa using hwho),
          List.filter_cons_of_neg (by simpa using hwho), ih halike (hw.step turn)]

theorem isolated_of_disjoint
    (hdisjoint : ∀ i j, i ≠ j → ∀ l ∈ home settings i, l ∉ home settings j) :
    Isolated settings := by
  intro storage turns who
  have hclosed : (closed storage).AtHome settings := by
    intro who c hc
    cases hc
  exact filter_trace hdisjoint ⟨rfl, Set.eqOn_refl _ _⟩ hclosed turns

/-! ### Isolated buckets -/

/-- What is stored through one of two caches with the same table is found by the other. -/
theorem get_set_of_same_table {c c' : Cache} {storage : Storage} {bucket bucket' : String}
    (hc : c.place = .table bucket) (hc' : c'.place = .table bucket')
    (hlower : asciiLower bucket = asciiLower bucket') {rows : Table}
    (hrows : storage.table? bucket = some rows) (now : Int) (key : String) {value : Bytes}
    (hvalue : value.length < UInt32.size) :
    (Session.get ⟨c', (Session.set ⟨c, storage⟩ now key value none).storage⟩ now key).1 =
      some value := by
  have hset : (Session.set ⟨c, storage⟩ now key value none).storage =
      storage.putTable bucket (rows.insert key ⟨Envelope.encode ⟨value, none⟩, none⟩) := by
    rw [Session.set, Session.record_mk]
    simp [place_counted, hc, Place.store, updateTable?, hrows, Session.moveTo, Envelope.wrap]
  have htable (table : Table) : (storage.putTable bucket table).table? bucket' = some table := by
    rw [Storage.table?, ← hlower]
    exact table?_putTable storage bucket table
  have hdecode : Envelope.decode? (Envelope.encode ⟨value, none⟩) = some ⟨value, none⟩ :=
    Envelope.decode?_encode ⟨hvalue, fun _ h => absurd h (Option.not_mem_none _)⟩
  rw [hset, Session.get]
  simp [Place.find, hc', htable, SortedMap.get?_insert, Finding.ofBytes, hdecode,
    Finding.ofEnvelope, Envelope.isExpired, Finding.value?]

/-- Two caches with the same table are not isolated. -/
theorem not_isolated_of_same_table {i j : ι} (hne : i ≠ j) (hopen : ∀ i, Opens (settings i))
    (hi : (settings i).backend = .sqlite) (hj : (settings j).backend = .sqlite)
    (hlower : asciiLower (settings i).bucket = asciiLower (settings j).bucket) :
    ¬Isolated settings := by
  intro hisolated
  let cache (i : ι) : Cache :=
    ⟨.table (settings i).bucket, {}, .withCapacity (settings i).queueSize⟩
  let both : Storage := (ensureTable {} (settings i).bucket).ensureTable (settings j).bucket
  let read : Turn ι := ⟨j, 0, .perform (.get "k")⟩
  let turns : List (Turn ι) :=
    [⟨i, 0, .start⟩, ⟨j, 0, .start⟩, ⟨i, 0, .perform (.set "k" [1] none)⟩, read]
  have htogether : ((closed {}).trace settings turns).filter (fun x => x.1.who = j) =
      [(⟨j, 0, .start⟩, .opened true), (read, .found (Session.get ⟨cache j,
        (Session.set ⟨cache i, both⟩ 0 "k" [1] none).storage⟩ 0 "k").1)] := by
    simp [turns, read, cache, both, trace, step, outcome, closed, Act.run, Operation.perform,
      run_operate, hne, hne.symm, Function.update, run_opening_of_sqlite hi (hopen i),
      run_opening_of_sqlite hj (hopen j)]
    rfl
  have halone : (closed {}).trace settings (turns.filter fun turn => turn.who = j) =
      [(⟨j, 0, .start⟩, .opened true), (read, .found (Session.get ⟨cache j,
        ensureTable {} (settings j).bucket⟩ 0 "k").1)] := by
    simp [turns, read, cache, trace, step, outcome, closed, Act.run, Operation.perform, run_operate,
      hne, Function.update, run_opening_of_sqlite hj (hopen j)]
    rfl
  have hnone : (Session.get ⟨cache j, ensureTable {} (settings j).bucket⟩ 0 "k").1 = none := by
    simp only [Session.get, Place.find, cache, table?_ensureTable]
    rfl
  have hrows : both.table? (settings i).bucket = both.table? (settings j).bucket :=
    congrArg both.tables.get? hlower
  rw [table?_ensureTable] at hrows
  have hsome : (Session.get ⟨cache j, (Session.set ⟨cache i, both⟩ 0 "k" [1] none).storage⟩
      0 "k").1 = some [1] :=
    get_set_of_same_table rfl rfl hlower hrows 0 "k" (by decide)
  have h := hisolated {} turns j
  rw [htogether, halone, hnone, hsome] at h
  simp at h

/--
**Caches are isolated exactly if no two of them share a table.**  Caches of any kinds are
opened in one directory for different buckets.  Whatever the directory holds at first and
whatever is done to the caches in whatever order, each answers as it does alone, unless two
of them keep tables for names that differ only in ASCII case.
-/
theorem isolated_iff (settings : ι → Settings) (hopen : ∀ i, Opens (settings i))
    (hbucket : ∀ i j, i ≠ j → (settings i).bucket ≠ (settings j).bucket) :
    Isolated settings ↔
      ∀ i j, i ≠ j → (settings i).backend = .sqlite → (settings j).backend = .sqlite →
        asciiLower (settings i).bucket ≠ asciiLower (settings j).bucket := by
  constructor
  · intro hisolated i j hne hi hj hlower
    exact not_isolated_of_same_table hne hopen hi hj hlower hisolated
  · intro htable
    refine isolated_of_disjoint fun i j hne => ?_
    exact disjoint_locations (hopen i).isBucketName (hopen j).isBucketName (hbucket i j hne)
      (htable i j hne)

/-- Partitions are told apart by case, and by what follows the name of the bucket. -/
theorem isolated_iff_partitions :
    let settings (b : Bool) : Settings :=
      { backend := .lsm, bucket := if b then "Alpha" else "alpha" }
    (∀ b, Opens (settings b)) ∧ Isolated settings := by
  intro settings
  have hopen : ∀ b, Opens (settings b) := by decide +kernel
  refine ⟨hopen, (isolated_iff settings hopen (by decide)).2 ?_⟩
  intro i j hne hi
  cases hi

/-- Tables are not: what is stored in one bucket is found in the other, where nothing is found if
nobody uses the first. -/
theorem isolated_iff_tables :
    let settings (b : Bool) : Settings :=
      { backend := .sqlite, bucket := if b then "Alpha" else "alpha" }
    let turns : List (Turn Bool) := [⟨true, 0, .start⟩, ⟨false, 0, .start⟩,
      ⟨true, 0, .perform (.set "k" [1] none)⟩, ⟨false, 0, .perform (.get "k")⟩]
    (∀ b, Opens (settings b)) ∧ (settings true).bucket ≠ (settings false).bucket ∧
      ((closed {}).trace settings turns).map Prod.snd =
        [.opened true, .opened true, .done, .found (some [1])] ∧
      ((closed {}).trace settings (turns.filter fun turn => turn.who = false)).map Prod.snd =
        [.opened true, .found none] ∧
      ¬Isolated settings := by
  intro settings turns
  refine ⟨by decide +kernel, by decide, by decide +kernel, by decide +kernel, fun hisolated => ?_⟩
  have h := hisolated {} turns false
  revert h
  decide +kernel

end Neighbours

end Cache

end Triage
