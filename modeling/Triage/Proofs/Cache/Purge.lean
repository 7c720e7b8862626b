/-
Purging a table is invisible to its readers.

Several caches are used side by side in one directory.  Whatever was done to them, each row of a
table has a copy of the expiry that its envelope tells, so that a purge by the copies removes just
the rows whose envelopes have expired.  Afterwards the directory differs from the one without the
purge in rows that have expired only.  If the clock does not go back behind the purge, no later turn
of any cache tells the two directories apart but by the number of rows that a purge removes.
-/
import Triage.Proofs.Cache.Sweep

namespace Triage.Cache

open Triage.MessagePack Triage.Text

/-! ### Something done to a cache -/

/-- Whether something can be done to a cache. -/
def Act.IsValid : Act → Prop
  | .start => True
  | .perform operation => operation.IsValid

instance Act.decidableIsValid : (act : Act) → Decidable act.IsValid
  | .start => .isTrue trivial
  | .perform operation => inferInstanceAs (Decidable operation.IsValid)

variable {settings : Settings} {c : Option Cache} {now time : Int}

/-- Trying to open a bucket that cannot be one of tables changes nothing. -/
theorem run_opening_of_not_opens (hbackend : settings.backend = .sqlite) (hopen : ¬Opens settings)
    (storage : Storage) : ((opening settings).run storage).run = (none, storage) := by
  have hfails : (ofSettings settings (.ok storage)).toOption = none := by
    cases hvalidate : settings.validate with
    | error fault =>
        rw [ofSettings, hvalidate]
        rfl
    | ok _ =>
        have hname : Storage.isTableName settings.bucket ≠ true := fun hname =>
          hopen (opens_of_isTableName hvalidate hbackend hname)
        rw [toOption_ofSettings hvalidate, hbackend]
        exact if_neg hname
  rw [opening, Storage.run_attempt, hfails]
  rfl

/-- Whether a cache that may be open keeps its entries in the table of its bucket. -/
def Tabled (bucket : String) (c : Option Cache) (storage : Storage) : Prop :=
  ∀ c' ∈ c, c'.place = .table bucket ∧ (storage.table? bucket).isSome = true

theorem tabled_none (bucket : String) (storage : Storage) : Tabled bucket none storage :=
  fun _ hc' => absurd hc' (Option.not_mem_none _)

/-- What becomes of the cache of a bucket of tables and of the tables. -/
theorem tabled_run (hbackend : settings.backend = .sqlite) {storage : Storage}
    (hc : Tabled settings.bucket c storage) (hnow : firstTime ≤ now) {act : Act}
    (hact : act.IsValid) :
    let x := ((act.run settings now c).run storage).run
    Tabled settings.bucket x.1.2 x.2 ∧ TableChange settings.bucket storage x.2 := by
  cases act with
  | start =>
      show Tabled settings.bucket ((opening settings).run storage).run.1
          ((opening settings).run storage).run.2 ∧
        TableChange settings.bucket storage ((opening settings).run storage).run.2
      by_cases hopen : Opens settings
      · rw [run_opening_of_sqlite hbackend hopen]
        refine ⟨fun c' hc' => ?_, .of_ensureTable storage _⟩
        cases hc'
        exact ⟨rfl, by rw [Storage.table?_ensureTable]; rfl⟩
      · rw [run_opening_of_not_opens hbackend hopen]
        exact ⟨tabled_none _ _, .kept rfl⟩
  | perform operation =>
      cases c with
      | none => exact ⟨tabled_none _ _, .kept rfl⟩
      | some c =>
          obtain ⟨hplace, htable⟩ := hc c rfl
          obtain ⟨hplace', hchange⟩ : Rewrites settings.bucket ⟨c, storage⟩
              (operation.perform now ⟨c, storage⟩).2 := rewrites_perform hplace hnow hact
          refine ⟨fun c' hc' => ?_, hchange⟩
          cases hc'
          exact ⟨hplace', hchange.isSome_table? htable⟩

/-- A cache in a table and its directory become alike whether or not the directory was swept. -/
theorem alike_run (hbackend : settings.backend = .sqlite) {storage : Storage}
    (hc : Tabled settings.bucket c storage) (hstorage : storage.IsFaithful) (hnow : time ≤ now)
    (act : Act) :
    let x := ((act.run settings now c).run (storage.swept time)).run
    let y := ((act.run settings now c).run storage).run
    x.1.1.unnumbered = y.1.1.unnumbered ∧ x.1.2 = y.1.2 ∧ x.2.swept time = y.2.swept time := by
  cases act with
  | start =>
      let opened (o : Option Cache) : Answer := .opened o.isSome
      show (opened ((opening settings).run (storage.swept time)).run.1).unnumbered =
          (opened ((opening settings).run storage).run.1).unnumbered ∧
        ((opening settings).run (storage.swept time)).run.1 =
          ((opening settings).run storage).run.1 ∧
        ((opening settings).run (storage.swept time)).run.2.swept time =
          ((opening settings).run storage).run.2.swept time
      by_cases hopen : Opens settings
      · rw [run_opening_of_sqlite hbackend hopen, run_opening_of_sqlite hbackend hopen]
        exact ⟨rfl, rfl, Storage.swept_ensureTable time storage _⟩
      · rw [run_opening_of_not_opens hbackend hopen, run_opening_of_not_opens hbackend hopen]
        exact ⟨rfl, rfl, storage.swept_swept time⟩
  | perform operation =>
      cases c with
      | none => exact ⟨rfl, rfl, storage.swept_swept time⟩
      | some c =>
          obtain ⟨hanswer, halike⟩ := alike_perform (hc c rfl).1 hstorage hnow operation
          exact ⟨hanswer, congrArg some halike.cache, halike.storage⟩

/-- How many rows a purge removes. -/
theorem length_sub_filter {rows : Table} (expired : Row → Bool) :
    rows.toList.length - (rows.filter fun row => !expired row).toList.length =
      rows.toList.countP fun entry => expired entry.2 := by
  have hkept : (rows.filter fun row => !expired row).toList.length =
      rows.toList.countP fun entry => !expired entry.2 :=
    (List.countP_eq_length_filter ..).symm
  have hall := rows.toList.length_eq_countP_add_countP fun entry => expired entry.2
  simp only [Bool.not_eq_true, Bool.decide_eq_false] at hall
  omega

/-- A purge of a table leaves the rows that have not expired by the copies of their expiry. -/
theorem Session.purge_of_table {c : Cache} {bucket : String} {storage : Storage} {rows : Table}
    (hplace : c.place = .table bucket) (hrows : storage.table? bucket = some rows) (time : Int) :
    Session.purge ⟨c, storage⟩ time =
      (rows.toList.countP fun entry => Session.isPurged time entry.2,
        ⟨c, storage.putTable bucket (liveRows time rows)⟩) := by
  simp only [Session.purge, hplace, hrows, length_sub_filter]
  rfl

/-! ### Several caches -/

namespace Neighbours

variable {ι : Type} [DecidableEq ι] {settings : ι → Settings} {w w' : Neighbours ι} {turn : Turn ι}
  {who : ι} {time : Int}

/-- Whether something can be done to one of several caches at the time. -/
def Turn.IsValid (turn : Turn ι) : Prop := IsTime turn.now ∧ turn.act.IsValid

instance Turn.decidableIsValid (turn : Turn ι) : Decidable turn.IsValid :=
  inferInstanceAs (Decidable (IsTime turn.now ∧ turn.act.IsValid))

/-- The caches after one thing was done after the other. -/
def after (settings : ι → Settings) (w : Neighbours ι) (turns : List (Turn ι)) : Neighbours ι :=
  turns.foldl (fun w turn => (w.step settings turn).2) w

/-- What holds of caches and their directory at any time. -/
structure Settled (settings : ι → Settings) (w : Neighbours ι) : Prop where
  atHome : w.AtHome settings
  faithful : w.storage.IsFaithful
  tabled : ∀ who, (settings who).backend = .sqlite →
    Tabled (settings who).bucket (w.caches who) w.storage

omit [DecidableEq ι] in
theorem settled_closed (settings : ι → Settings) : (closed {}).Settled settings where
  atHome := fun _ _ hc => absurd hc (Option.not_mem_none _)
  faithful := nofun
  tabled := fun _ _ => tabled_none _ _

theorem Settled.tableChange (h : w.Settled settings) (hturn : turn.IsValid) :
    TableChange (settings turn.who).bucket w.storage (w.step settings turn).2.storage := by
  by_cases hbackend : (settings turn.who).backend = .sqlite
  · exact (tabled_run hbackend (h.tabled _ hbackend) hturn.1.1 hturn.2).2
  · have houtside := (h.atHome.confined turn).outside w.storage
    exact .kept (houtside.tables_eq (Storage.table_notMem_locations hbackend _))

theorem Settled.step (h : w.Settled settings) (hturn : turn.IsValid) :
    (w.step settings turn).2.Settled settings := by
  have hchange := h.tableChange hturn
  refine ⟨h.atHome.step turn, hchange.isFaithful h.faithful, fun who hbackend => ?_⟩
  by_cases hwho : who = turn.who
  · subst hwho
    rw [caches_step_self]
    exact (tabled_run hbackend (h.tabled _ hbackend) hturn.1.1 hturn.2).1
  · rw [caches_step_of_ne w hwho]
    exact fun c hc => (h.tabled who hbackend c hc).imp_right hchange.isSome_table?

theorem Settled.after (h : w.Settled settings) {turns : List (Turn ι)}
    (hturns : ∀ turn ∈ turns, turn.IsValid) : (w.after settings turns).Settled settings := by
  induction turns generalizing w with
  | nil => exact h
  | cons turn rest ih =>
      obtain ⟨hturn, hrest⟩ := List.forall_mem_cons.1 hturns
      exact ih (h.step hturn) hrest

/-! ### Two runs -/

/-- Whether two directories with their caches are alike from a time on: they differ at most in rows
that have expired at that time. -/
structure AlikeFrom (time : Int) (w w' : Neighbours ι) : Prop where
  caches : w.caches = w'.caches
  storage : w.storage.swept time = w'.storage.swept time

/-- The caches with their directory swept. -/
def swept (time : Int) (w : Neighbours ι) : Neighbours ι := ⟨w.caches, w.storage.swept time⟩

/-- A turn does alike whether or not the directory was swept. -/
theorem Settled.alike_swept (h : w.Settled settings) (hnow : time ≤ turn.now) :
    ((w.swept time).step settings turn).1.unnumbered = (w.step settings turn).1.unnumbered ∧
      AlikeFrom time ((w.swept time).step settings turn).2 (w.step settings turn).2 := by
  have houtcome : ((w.swept time).outcome settings turn).1.1.unnumbered =
        (w.outcome settings turn).1.1.unnumbered ∧
      ((w.swept time).outcome settings turn).1.2 = (w.outcome settings turn).1.2 ∧
      ((w.swept time).outcome settings turn).2.swept time =
        (w.outcome settings turn).2.swept time := by
    by_cases hbackend : (settings turn.who).backend = .sqlite
    · exact alike_run hbackend (h.tabled _ hbackend) h.faithful hnow turn.act
    · obtain ⟨hyields, hstorage⟩ := (h.atHome.confined turn).alike_swept
        (Storage.table_notMem_locations hbackend _) time w.storage
      exact ⟨congrArg (Answer.unnumbered ·.1) hyields, congrArg Prod.snd hyields, hstorage⟩
  obtain ⟨hanswer, hcache, hstorage⟩ := houtcome
  exact ⟨hanswer, congrArg (Function.update w.caches turn.who) hcache, hstorage⟩

omit [DecidableEq ι] in
/-- What is alike is swept to the same. -/
theorem AlikeFrom.swept_eq (h : AlikeFrom time w w') : w.swept time = w'.swept time := by
  rw [swept, swept, h.caches, h.storage]

/-- A turn keeps two directories alike and tells them apart by the number of purged rows at most. -/
theorem AlikeFrom.step (h : AlikeFrom time w w') (hw : w.Settled settings)
    (hw' : w'.Settled settings) (hnow : time ≤ turn.now) :
    (w.step settings turn).1.unnumbered = (w'.step settings turn).1.unnumbered ∧
      AlikeFrom time (w.step settings turn).2 (w'.step settings turn).2 := by
  obtain ⟨hanswer, halike⟩ := hw.alike_swept hnow
  obtain ⟨hanswer', halike'⟩ := hw'.alike_swept hnow
  rw [h.swept_eq] at hanswer halike
  exact ⟨hanswer.symm.trans hanswer', halike.caches.symm.trans halike'.caches,
    halike.storage.symm.trans halike'.storage⟩

/-- What is heard of several caches, but for how many rows were removed. -/
def unnumberedTrace (settings : ι → Settings) (w : Neighbours ι) (turns : List (Turn ι)) :
    List (Turn ι × Answer) :=
  (w.trace settings turns).map (Prod.map id Answer.unnumbered)

theorem AlikeFrom.run (h : AlikeFrom time w w') (hw : w.Settled settings)
    (hw' : w'.Settled settings) {turns : List (Turn ι)}
    (hturns : ∀ turn ∈ turns, turn.IsValid ∧ time ≤ turn.now) :
    w.unnumberedTrace settings turns = w'.unnumberedTrace settings turns ∧
      AlikeFrom time (w.after settings turns) (w'.after settings turns) := by
  induction turns generalizing w w' with
  | nil => exact ⟨rfl, h⟩
  | cons turn rest ih =>
      obtain ⟨⟨hturn, hnow⟩, hrest⟩ := List.forall_mem_cons.1 hturns
      obtain ⟨hanswer, halike⟩ := h.step hw hw' hnow
      obtain ⟨hanswers, hafter⟩ := ih halike (hw.step hturn) (hw'.step hturn) hrest
      refine ⟨?_, hafter⟩
      rw [unnumberedTrace, trace, List.map_cons, unnumberedTrace, trace, List.map_cons]
      exact congrArg₂ List.cons (congrArg (Prod.mk turn) hanswer) hanswers

/-! ### Purging -/

/-- A purge removes the rows that have expired by the copies of their expiry. -/
theorem step_purge {c : Cache} {bucket : String} {rows : Table} (hc : w.caches who = some c)
    (hplace : c.place = .table bucket) (hrows : w.storage.table? bucket = some rows) (time : Int) :
    w.step settings ⟨who, time, .perform .purge⟩ =
      (.purged (rows.toList.countP fun entry => Session.isPurged time entry.2),
        ⟨w.caches, w.storage.putTable bucket (liveRows time rows)⟩) := by
  have houtcome : w.outcome settings ⟨who, time, .perform .purge⟩ =
      ((.purged (rows.toList.countP fun entry => Session.isPurged time entry.2), some c),
        w.storage.putTable bucket (liveRows time rows)) := by
    rw [outcome, hc]
    show ((Answer.purged (Session.purge ⟨c, w.storage⟩ time).1,
      some (Session.purge ⟨c, w.storage⟩ time).2.cache),
      (Session.purge ⟨c, w.storage⟩ time).2.storage) = _
    rw [Session.purge_of_table hplace hrows]
  have hcaches : Function.update w.caches who (some c) = w.caches := by
    rw [← hc, Function.update_eq_self]
  rw [step, houtcome]
  show (_, Neighbours.mk (Function.update w.caches who (some c)) _) = _
  rw [hcaches]

omit [DecidableEq ι] in
/-- Purging one table takes away rows that have expired only. -/
theorem alikeFrom_purge {bucket : String} {rows : Table}
    (hrows : w.storage.table? bucket = some rows) (time : Int) :
    AlikeFrom time ⟨w.caches, w.storage.putTable bucket (liveRows time rows)⟩ w :=
  ⟨rfl, Storage.swept_putTable_of_liveRows hrows (liveRows_liveRows time rows)⟩

/--
**Purging a table is invisible to its readers.**  Caches of any kinds are used in any order in a
directory that is empty at first.  Then every row of a table holds an envelope and a copy of its
expiry; a purge removes the rows whose envelopes have expired, leaves everything else as it was and
answers how many rows these were; and as long as the clock does not go back behind the purge, all
that is done later is answered and counted as if there had been none, but for how many rows another
purge removes.
-/
theorem purge_invisible (settings : ι → Settings) (before : List (Turn ι))
    (hbefore : ∀ turn ∈ before, turn.IsValid) (who : ι)
    (hbackend : (settings who).backend = .sqlite)
    (hopen : (((closed {}).after settings before).caches who).isSome = true)
    {time : Int} (htime : IsTime time) :
    let w := (closed {}).after settings before
    let (answer, w') := w.step settings ⟨who, time, .perform .purge⟩
    ∃ rows, w.storage.table? (settings who).bucket = some rows ∧
      (∀ key row, rows.get? key = some row →
        ∃ e, Envelope.decode? row.blob = some e ∧ row.expiresAt = e.expiresAt) ∧
      w' = ⟨w.caches, w.storage.putTable (settings who).bucket
        (rows.filter fun row => !row.isExpired time)⟩ ∧
      answer = .purged (rows.toList.countP fun entry => entry.2.isExpired time) ∧
      ∀ later : List (Turn ι), (∀ turn ∈ later, turn.IsValid ∧ time ≤ turn.now) →
        w'.unnumberedTrace settings later = w.unnumberedTrace settings later ∧
          (w'.after settings later).caches = (w.after settings later).caches := by
  intro w
  have hw : w.Settled settings := (settled_closed settings).after hbefore
  obtain ⟨c, hc⟩ := Option.isSome_iff_exists.1 hopen
  obtain ⟨hplace, htable⟩ := hw.tabled who hbackend c hc
  obtain ⟨rows, hrows⟩ := Option.isSome_iff_exists.1 htable
  have hfaithful (key : String) (row : Row) (hrow : rows.get? key = some row) : row.IsFaithful :=
    hw.faithful _ rows hrows key row hrow
  have hexpired : ∀ entry ∈ rows.toList,
      Session.isPurged time entry.2 = entry.2.isExpired time := fun entry hentry =>
    (hfaithful entry.1 entry.2 (SortedMap.mem_toList_iff.1 hentry)).isPurged_eq time
  have hlive : liveRows time rows = rows.filter fun row => !row.isExpired time :=
    SortedMap.filter_congr fun entry hentry => congrArg (!·) (hexpired entry hentry)
  have hcount : (rows.toList.countP fun entry => Session.isPurged time entry.2) =
      rows.toList.countP fun entry => entry.2.isExpired time :=
    List.countP_congr fun entry hentry => by rw [hexpired entry hentry]
  have hstep : w.step settings ⟨who, time, .perform .purge⟩ = _ :=
    step_purge hc hplace hrows time
  have hw' : Settled settings (w.step settings ⟨who, time, .perform .purge⟩).2 :=
    hw.step ⟨htime, trivial⟩
  rw [hstep] at hw'
  rw [hstep, hcount]
  refine ⟨rows, hrows, fun key row hrow => (hfaithful key row hrow).exists_envelope,
    by rw [← hlive], rfl, fun later hlater => ?_⟩
  obtain ⟨hanswers, hafter⟩ := (alikeFrom_purge hrows time).run hw' hw hlater
  exact ⟨hanswers, hafter.caches⟩

/-- Of the rows that are due at 10, at 11 and never, a purge at 10 removes the first; later reads at
10 and at 11, and what is counted, are as without it. -/
theorem purge_invisible_boundary :
    let settings (_ : Unit) : Settings := { backend := .sqlite }
    let act (now : Int) (operation : Operation) : Turn Unit := ⟨(), now, .perform operation⟩
    let before : List (Turn Unit) := [⟨(), 0, .start⟩, act 0 (.set "due" [1] (some 10)),
      act 1 (.set "later" [2] (some 10)), act 2 (.set "never" [3] none)]
    let later : List (Turn Unit) := [act 10 (.get "due"), act 10 (.get "later"),
      act 11 (.get "later"), act 11 (.get "never"), act 11 .counters]
    let w := (closed {}).after settings before
    let w' := (w.step settings ⟨(), 10, .perform .purge⟩).2
    (w.step settings ⟨(), 10, .perform .purge⟩).1 = .purged 1 ∧
      w'.unnumberedTrace settings later = w.unnumberedTrace settings later ∧
      (w.unnumberedTrace settings later).map Prod.snd =
        [.found none, .found (some [2]), .found none, .found (some [3]),
          .counted { gets := 4, sets := 3, hits := 2, misses := 2 }] := by
  intro settings act before later w w'
  obtain ⟨-, -, -, -, -, hlater⟩ := purge_invisible settings before
    (by decide +kernel) () rfl (by decide +kernel) (by decide : IsTime 10)
  exact ⟨by decide +kernel, (hlater later (by decide +kernel)).1, by decide +kernel⟩

end Neighbours

end Triage.Cache
