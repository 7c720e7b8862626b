/-
Scores of a collection, whichever way they come about.

Every notification yields an entry, and of the entries with one identifier the last one to come in
is kept.  Inline and with one worker they come in the order of the collection, so that the last
notification counts.  Several workers may be done in any order, so that the score is that of some
notification with the identifier; where no identifier occurs twice, there is only one.  The program
runs one of these schedules.
-/
import Triage.Proofs.Deadline
import Triage.Proofs.Pool.Schedule
import Triage.Proofs.SortedMap
import Triage.Scorer

namespace Triage.Scorer

open Calendar

/-! ### One after the other -/

theorem mapM_some {α β : Type} {m : Type → Type} [Monad m] [LawfulMonad m] (f : α → m β)
    (items : List α) :
    items.mapM (fun a => do return some (← f a)) = List.map some <$> items.mapM f := by
  induction items with
  | nil => simp
  | cons a rest ih =>
      rw [List.mapM_cons, List.mapM_cons, ih]
      simp

/-- The scores of notifications one after the other, by way of the cache if there is one. -/
def scoresOf (s : Scorer) (session : Option Cache.Session)
    (entries : List (Notification × Instant)) : Scores :=
  .ofList ((entries.mapM s.scoreEntry).run session).1

/-- The entries come with the identifiers in order. -/
theorem map_entries (s : Scorer) (session : Option Cache.Session)
    (entries : List (Notification × Instant)) :
    ((entries.mapM s.scoreEntry).run session).1.map (·.1) = entries.map (·.1.id) := by
  induction entries generalizing session with
  | nil => rfl
  | cons entry rest ih =>
      rw [List.mapM_cons, StateT.run_bind]
      exact congrArg (entry.1.id :: ·) (ih _)

/-- Every notification has a score under its identifier. -/
theorem exists_get?_scoresOf (s : Scorer) (session : Option Cache.Session)
    {entries : List (Notification × Instant)} {entry : Notification × Instant}
    (h : entry ∈ entries) : ∃ score, (s.scoresOf session entries).get? entry.1.id = some score := by
  have hid : entry.1.id ∈ ((entries.mapM s.scoreEntry).run session).1.map (·.1) := by
    rw [map_entries]
    exact List.mem_map.2 ⟨entry, h, rfl⟩
  obtain ⟨e, he, heq⟩ := List.mem_map.1 hid
  exact SortedMap.mem_keys_iff.1 (SortedMap.mem_keys_ofList.2 ⟨e, he, heq⟩)

/-- Scoring works on the notifications before the deadline. -/
theorem scoreAllAt_eq (s : Scorer) (timing : Timing) (entries : List (Notification × Instant)) :
    let k := reached (timing.stops s.settings.timeoutMs s.settings.batchSize entries.length) 0
      entries.length
    s.scoreAllAt timing entries =
      (fun pairs => if k < entries.length then .error ⟨.ofList pairs, k, entries.length⟩
        else .ok (.ofList pairs)) <$> (entries.take k).mapM s.scoreEntry := by
  intro k
  have hsome (pairs : List (String × Score)) :
      (pairs.map some).flatMap Option.toList = pairs := by
    rw [List.flatMap_map]
    exact List.flatMap_singleton' pairs
  rw [scoreAllAt, workUnder, workThrough_eq, mapM_some]
  simp only [map_eq_pure_bind, bind_assoc, pure_bind, hsome, Nat.zero_add, answer,
    decide_eq_true_eq]
  rfl

/-- A clock that stands still shows one time for all notifications. -/
theorem scoreAll_eq (s : Scorer) (timing : Timing) (now : Instant) (list : List Notification) :
    s.scoreAll timing now list = s.scoreAllAt timing (list.map fun n => (n, now)) := by
  rw [scoreAll, scoreAllAt, workUnder, workUnder, workThrough_map, List.length_map]
  simp only [scoreEntry, answer, pure_bind, bind_assoc]

/-- Without a cache each score is computed. -/
theorem scoresOf_none (s : Scorer) (entries : List (Notification × Instant)) :
    s.scoresOf none entries =
      .ofList (entries.map fun entry => (entry.1.id, s.compute entry.1 entry.2)) := by
  have hentries : (entries.mapM s.scoreEntry).run none =
      (entries.map fun entry => (entry.1.id, s.compute entry.1 entry.2), none) := by
    induction entries with
    | nil => rfl
    | cons entry rest ih =>
        rw [List.mapM_cons, StateT.run_bind]
        show ((rest.mapM s.scoreEntry >>= _).run none) = _
        rw [StateT.run_bind, ih]
        rfl
  rw [scoresOf, hentries]

/-! ### Entries -/

/-- What the notifications of a collection yield: their identifiers and scores. -/
def entriesOf (factors : Factors) (now : Instant) (list : List Notification) :
    List (String × Score) :=
  list.map fun n => (n.id, Score.compute factors n now)

/-- The score of the last notification with an identifier, if there is one. -/
def lastScore? (factors : Factors) (now : Instant) (list : List Notification) (id : String) :
    Option Score :=
  (list.reverse.find? fun n => n.id == id).map fun n => Score.compute factors n now

/-- Whether there are scores for the identifiers of a collection and for no others. -/
def HasIds (list : List Notification) (scores : Scores) : Prop :=
  ∀ id, id ∈ scores.keys ↔ ∃ n ∈ list, n.id = id

/-- Whether each score is that of some notification with the identifier. -/
def Own (factors : Factors) (now : Instant) (list : List Notification) (scores : Scores) : Prop :=
  ∀ id score, scores.get? id = some score →
    ∃ n ∈ list, n.id = id ∧ score = Score.compute factors n now

section

variable {factors : Factors} {now : Instant} {list : List Notification}
  {entries : List (String × Score)} {scores : Scores}

theorem lookup_entriesOf (id : String) :
    (entriesOf factors now list).lookup id =
      (list.find? fun n => n.id == id).map fun n => Score.compute factors n now := by
  induction list with
  | nil => rfl
  | cons n rest ih =>
      have hrest : ((rest.map fun n => (n.id, Score.compute factors n now)).lookup id) = _ := ih
      rw [entriesOf, List.map_cons, List.lookup_cons, List.find?_cons]
      by_cases hid : n.id = id
      · simp [hid]
      · have hne : (id == n.id) = false := by simpa using fun h => hid h.symm
        have hne' : (n.id == id) = false := by simpa using hid
        rw [hne, hne', hrest]

/-- In the order of the collection the last notification counts. -/
theorem get?_ofList_entriesOf (id : String) :
    (SortedMap.ofList (entriesOf factors now list)).get? id = lastScore? factors now list id := by
  rw [SortedMap.get?_ofList, entriesOf, ← List.map_reverse]
  exact lookup_entriesOf id

theorem exists_of_mem_entriesOf {e : String × Score} (h : e ∈ entriesOf factors now list) :
    ∃ n ∈ list, n.id = e.1 ∧ e.2 = Score.compute factors n now := by
  obtain ⟨n, hn, rfl⟩ := List.mem_map.1 h
  exact ⟨n, hn, rfl, rfl⟩

/-- Entries of a collection make scores of its own, however many of them came through. -/
theorem own_ofList (h : entries ⊆ entriesOf factors now list) :
    Own factors now list (.ofList entries) := by
  intro id score hget
  exact exists_of_mem_entriesOf (h (SortedMap.mem_of_get?_ofList hget))

/-- All entries make all identifiers, in whatever order they came. -/
theorem hasIds_ofList (h : entries.Perm (entriesOf factors now list)) :
    HasIds list (.ofList entries) := by
  intro id
  rw [SortedMap.mem_keys_ofList]
  constructor
  · rintro ⟨e, he, rfl⟩
    obtain ⟨n, hn, hid, -⟩ := exists_of_mem_entriesOf (h.mem_iff.1 he)
    exact ⟨n, hn, hid⟩
  · rintro ⟨n, hn, rfl⟩
    exact ⟨_, h.mem_iff.2 (List.mem_map.2 ⟨n, hn, rfl⟩), rfl⟩

/-- Where no identifier occurs twice, the scores of a collection are determined. -/
theorem eq_of_own (hids : (list.map (·.id)).Nodup) {scores' : Scores}
    (hkeys : HasIds list scores) (hown : Own factors now list scores)
    (hkeys' : HasIds list scores') (hown' : Own factors now list scores') : scores = scores' := by
  refine SortedMap.ext_get? fun id => ?_
  cases hget : scores.get? id with
  | none =>
      have hnone : scores'.get? id = none := by
        by_contra hsome
        have hmem := SortedMap.mem_keys_iff.2 (Option.ne_none_iff_exists'.1 hsome)
        obtain ⟨score, hscore⟩ := SortedMap.mem_keys_iff.1 ((hkeys id).2 ((hkeys' id).1 hmem))
        rw [hget] at hscore
        cases hscore
      rw [hnone]
  | some score =>
      have hmem := SortedMap.mem_keys_iff.2 ⟨score, hget⟩
      obtain ⟨score', hget'⟩ := SortedMap.mem_keys_iff.1 ((hkeys' id).2 ((hkeys id).1 hmem))
      obtain ⟨n, hn, hid, rfl⟩ := hown id score hget
      obtain ⟨n', hn', hid', rfl⟩ := hown' id score' hget'
      have heq : n = n' := List.inj_on_of_nodup_map hids hn hn' (hid.trans hid'.symm)
      rw [hget', heq]

end

/-! ### Inline and with workers -/

variable {s : Scorer} {now : Instant} {list : List Notification}

/-- A run that is not stopped scores the whole collection, whatever is in the cache. -/
theorem run_scoreAll_of_not_stopped {timing : Timing}
    (htime : ∀ k < list.length,
      timing.stops s.settings.timeoutMs s.settings.batchSize list.length k = false)
    (session : Option Cache.Session) : ((s.scoreAll timing now list).run session).1 =
      .ok (s.scoresOf session (list.map fun n => (n, now))) := by
  rw [scoreAll_eq, scoreAllAt_eq, List.length_map, reached_of_not_stopped htime,
    List.take_of_length_le (by simp)]
  simp only [Nat.lt_irrefl, if_false]
  rfl

/-- Without a cache the scores are those of the notifications in order. -/
theorem scoreAll_of_not_stopped {timing : Timing}
    (htime : ∀ k < list.length,
      timing.stops s.settings.timeoutMs s.settings.batchSize list.length k = false) :
    ((s.scoreAll timing now list).run none).1 = .ok (.ofList (entriesOf s.factors now list)) := by
  rw [run_scoreAll_of_not_stopped htime, scoresOf_none, List.map_map]
  rfl

/-- Without a cache a run scores the notifications before the deadline. -/
theorem scoreAll_none (s : Scorer) (timing : Timing) (now : Instant) (list : List Notification) :
    let k := reached (timing.stops s.settings.timeoutMs s.settings.batchSize list.length) 0
      list.length
    ((s.scoreAll timing now list).run none).1 =
      if k < list.length then
        .error ⟨.ofList (entriesOf s.factors now (list.take k)), k, list.length⟩
      else .ok (.ofList (entriesOf s.factors now (list.take k))) := by
  intro k
  have hentries : s.scoresOf none ((list.map fun n => (n, now)).take k) =
      .ofList (entriesOf s.factors now (list.take k)) := by
    rw [scoresOf_none, ← List.map_take, List.map_map]
    rfl
  rw [scoreAll_eq, scoreAllAt_eq, List.length_map, ← hentries]
  rfl

/-- The first slots of the pool yield the entries of the first notifications. -/
theorem filterMap_work_take (s : Scorer) (now : Instant) {list : List Notification} {k : Nat}
    (h : k ≤ list.length) :
    (List.range k).filterMap (s.pool now list).work = entriesOf s.factors now (list.take k) := by
  have hwork : (s.pool now list).work =
      fun slot => list[slot]?.bind fun n => some (n.id, s.compute n now) := by
    funext slot
    show list[slot]?.map _ = _
    cases list[slot]? <;> rfl
  rw [hwork, Pool.filterMap_range_take h]
  exact congrFun List.filterMap_eq_map _

/-- The slots of the pool yield the entries of the collection. -/
theorem yields_pool (s : Scorer) (now : Instant) (list : List Notification) :
    (s.pool now list).yields = entriesOf s.factors now list := by
  have hall := filterMap_work_take s now (Nat.le_refl list.length)
  rw [List.take_length] at hall
  exact hall

/-- **The run of the program is one schedule of the pool.**  Wherever the deadline falls, there are
turns of the workers, however many there are, after which the pool answers what the run does. -/
theorem exists_run_eq_scoreAll (s : Scorer) (timing : Timing) (now : Instant)
    (list : List Notification) :
    ∃ turns state o, (s.pool now list).run turns = some state ∧ state.outcome? = some o ∧
      answer list.length o = ((s.scoreAll timing now list).run none).1 := by
  let k := reached (timing.stops s.settings.timeoutMs s.settings.batchSize list.length) 0 list.length
  have hk : k ≤ list.length := reached_le _ _ _
  obtain ⟨turns, state, hrun, houtcome⟩ :=
    Pool.exists_run_as_loop (p := s.pool now list) (k := k) hk
  rw [filterMap_work_take s now hk] at houtcome
  have hscores := scoreAll_none s timing now list
  refine ⟨turns, state, _, hrun, houtcome, ?_⟩
  rw [hscores]
  show (if decide (k < list.length) = true then _ else _) = if k < list.length then _ else _
  by_cases hcut : k < list.length <;> simp [hcut, k]

/-- **A pool with one worker answers what the run of the program does**, in time and whatever turns
the worker and the consumer take. -/
theorem inevitable_scoreAll {timing : Timing} (hone : s.settings.concurrency = 1)
    (htime : ∀ k < list.length,
      timing.stops s.settings.timeoutMs s.settings.batchSize list.length k = false) :
    let p := s.pool now list
    Inevitable p.Quiet (fun state => ∃ o, state.outcome? = some o ∧
      answer list.length o = ((s.scoreAll timing now list).run none).1) p.start := by
  intro p
  refine (Pool.inevitable_complete p).imp ?_
  rintro state ⟨o, h⟩
  refine ⟨o, h.returned, ?_⟩
  rw [scoreAll_of_not_stopped htime, answer, h.inTime, h.inOrder (Pool.crew_of_one hone)]
  exact congrArg (fun entries => Except.ok (SortedMap.ofList entries)) (yields_pool s now list)

/-- What comes of a pool that is in time. -/
theorem answer_of_complete {state : Pool.State (String × Score)} {o : Outcome (String × Score)}
    (h : Pool.Complete (s.pool now list) state o) :
    answer list.length o = .ok (.ofList o.results) ∧
      HasIds list (.ofList o.results) ∧ Own s.factors now list (.ofList o.results) ∧
      (s.settings.concurrency = 1 →
        SortedMap.ofList o.results = .ofList (entriesOf s.factors now list)) ∧
      ((list.map (·.id)).Nodup →
        SortedMap.ofList o.results = .ofList (entriesOf s.factors now list)) := by
  have hperm : o.results.Perm (entriesOf s.factors now list) :=
    yields_pool s now list ▸ h.results
  have hkeys := hasIds_ofList hperm
  have hown := own_ofList hperm.subset
  refine ⟨?_, hkeys, hown, fun hone => ?_, fun hids => ?_⟩
  · rw [answer, h.inTime]
    rfl
  · rw [h.inOrder (Pool.crew_of_one hone)]
    exact congrArg SortedMap.ofList (yields_pool s now list)
  · exact eq_of_own hids hkeys hown (hasIds_ofList (.refl _)) (own_ofList (List.Subset.refl _))

/-- What comes of a pool at the deadline. -/
theorem answer_of_late {state : Pool.State (String × Score)} {o : Outcome (String × Score)}
    (h : Pool.Accounted (s.pool now list) state) (ho : state.outcome? = some o)
    (hlate : o.timedOut = true) :
    answer list.length o = .error ⟨.ofList o.results, o.processed, list.length⟩ ∧
      Own s.factors now list (.ofList o.results) ∧
      (SortedMap.ofList o.results).keys.length ≤ o.processed := by
  obtain ⟨-, hresults⟩ := Pool.consumer_of_outcome ho
  have hpart : o.results ⊆ entriesOf s.factors now list := by
    rw [hresults, ← yields_pool]
    exact h.subperm_results.subset
  refine ⟨?_, own_ofList hpart, ?_⟩
  · rw [answer, hlate]
    rfl
  · exact Nat.le_trans (SortedMap.length_keys_ofList_le _) (h.processed_le ho).1

/--
**Scoring a collection agrees with scoring its notifications.**  For each identifier in the
collection and for no other there is a score.  A run that no deadline stops gives that of the last
notification with the identifier; so does a pool of one worker.  Several workers may take turns in
any order, and each score is that of some notification with the identifier, so that all ways and all
orders give the same where no identifier occurs twice.  A pool at the deadline gives scores of this
kind too, not more of them than it has counted notifications.  The settings decide which way is
taken, and every pool returns.
-/
theorem scoreAll_agrees (factors : Factors) (now : Instant) (list : List Notification) :
    ∃ scores : Scores, HasIds list scores ∧
      (∀ id, scores.get? id = lastScore? factors now list id) ∧
      ∀ s : Scorer, s.factors = factors →
        (∀ n, ((s.score now n).run none).1 = Score.compute factors n now) ∧
        (∀ timing, (∀ k < list.length,
            timing.stops s.settings.timeoutMs s.settings.batchSize list.length k = false) →
          ((s.scoreAll timing now list).run none).1 = .ok scores) ∧
        (s.settings.batchSize ≤ list.length →
          let p := s.pool now list
          Inevitable p.Quiet (fun state => ∃ o, state.outcome? = some o ∧ o.timedOut = false)
              p.start ∧
            ∀ turns state, p.run turns = some state →
              Inevitable (fun a b => ∃ t, p.step a t = some b)
                  (fun a => ∃ o, a.outcome? = some o) state ∧
                (∀ o, state.outcome? = some o → o.timedOut = false →
                  ∃ pooled, answer list.length o = .ok pooled ∧
                    HasIds list pooled ∧ Own factors now list pooled ∧
                    (s.settings.concurrency = 1 → pooled = scores) ∧
                    ((list.map (·.id)).Nodup → pooled = scores)) ∧
                (∀ o, state.outcome? = some o → o.timedOut = true →
                  ∃ kept, answer list.length o = .error ⟨kept, o.processed, list.length⟩ ∧
                    Own factors now list kept ∧ kept.keys.length ≤ o.processed)) := by
  refine ⟨.ofList (entriesOf factors now list), hasIds_ofList (.refl _),
    get?_ofList_entriesOf, ?_⟩
  rintro s rfl
  refine ⟨fun n => rfl, fun timing htime => scoreAll_of_not_stopped htime, fun _ => ?_⟩
  constructor
  · refine (Pool.inevitable_complete (s.pool now list)).imp ?_
    rintro state ⟨o, h⟩
    exact ⟨o, h.returned, h.inTime⟩
  · intro turns state hrun
    have haccounted := Pool.accounted_of_run hrun
    refine ⟨Pool.inevitable_outcome _ state, fun o ho htime => ?_, fun o ho hlate => ?_⟩
    · have hone (hcrew : (s.pool now list).crew = 1) := Pool.inOrder_of_run hcrew hrun
      exact ⟨_, answer_of_complete (haccounted.complete hone ho htime)⟩
    · exact ⟨_, answer_of_late haccounted ho hlate⟩

/-- Two notifications with one identifier: inline the second one counts, and of two workers the one
that sends last, which here has the first notification. -/
theorem scoreAll_agrees_overtaken :
    let item (type : SubjectType) : Notification :=
      .build "1" "octo/hello" type "" .mention true ⟨0, 0⟩
    let list := [item .issue, item .pullRequest]
    let now : Instant := ⟨60, 0⟩
    let few : Scorer := {}
    let many : Scorer := { settings := { concurrency := 2, batchSize := 2 } }
    let sending : List Pool.Turn := [.worker 0, .worker 0, .worker 1, .worker 1, .worker 1,
      .worker 1, .worker 0, .worker 0]
    let leaving : List Pool.Turn := [.worker 0, .worker 0, .worker 1, .worker 1, .consumer,
      .consumer, .consumer, .consumer]
    (∃ scores, ((few.scoreAll .still now list).run none).1 = .ok scores ∧
        scores.get? "1" = some (few.compute (item .pullRequest) now)) ∧
      ∃ state o pooled, (many.pool now list).run (sending ++ leaving) = some state ∧
        state.outcome? = some o ∧ answer list.length o = .ok pooled ∧ HasIds list pooled ∧
        Own many.factors now list pooled ∧
        pooled.get? "1" = some (many.compute (item .issue) now) := by
  intro item list now few many sending leaving
  obtain ⟨scores, -, hlast, hways⟩ := scoreAll_agrees .initial now list
  constructor
  · obtain ⟨-, hinline, -⟩ := hways few rfl
    refine ⟨scores, hinline .still fun k _ => ?_, ?_⟩
    · simp [Timing.stops, Timing.stopsInline, Timing.still, list, few]
    · rw [hlast]
      rfl
  · obtain ⟨-, -, hpool⟩ := hways many rfl
    obtain ⟨-, hruns⟩ := hpool (by decide)
    -- the turns are taken whatever the scores are, which nobody has to compute for that
    have hturns (score : Notification → Score) (a b : Notification) :
        let p : Pool (String × Score) :=
          { slots := 2, workers := 2, capacity := 2
            work := fun slot => [a, b][slot]?.map fun n => (n.id, score n) }
        ∃ state, p.run (sending ++ leaving) = some state ∧
          state.outcome? = some ⟨[(b.id, score b), (a.id, score a)], 2, false⟩ := by
      intro p
      let sent : Pool.State (String × Score) :=
        { cursor := 2, processed := 2, channel := [(b.id, score b), (a.id, score a)],
          worked := [1, 0], workers := [.looking, .looking] }
      have hsent : sending.foldlM p.step p.start = some sent := rfl
      rw [Pool.run, List.foldlM_append, hsent]
      exact ⟨_, rfl, rfl⟩
    obtain ⟨state, hrun, ho⟩ := hturns (fun n => many.compute n now) (item .issue)
      (item .pullRequest)
    obtain ⟨-, htime, -⟩ := hruns _ state hrun
    obtain ⟨pooled, hanswer, hkeys, hown, -⟩ := htime _ ho rfl
    refine ⟨state, _, pooled, hrun, ho, hanswer, hkeys, hown, ?_⟩
    rw [← Except.ok.inj hanswer, SortedMap.get?_ofList]
    rfl

end Triage.Scorer
