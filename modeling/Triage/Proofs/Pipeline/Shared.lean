/-
Pipelines that share a cache.

The key of a result names the query and not what it means: saved filters are not in it, and neither
are the weights of the scores.  It does name the criteria, but not how many they are.  Pipelines may
differ in all their settings and still share a cache unseen, as long as a query that several of them
are asked means the same to all of them, and no notification looks like a criterion.  After a saved
filter was redefined the result of the old one is served, and so is that of another list of
notifications if the first of them does look like a criterion.
-/
import Triage.Proofs.Pipeline.Agreement
import Triage.Proofs.Pipeline.Kept
import Triage.Proofs.Query.Resolution

namespace Triage

open Calendar Cache Text

/--
**A cache that pipelines share does not show as long as queries keep their meaning.**  Pipelines
with any settings run over a new cache of any kind, on notifications that are told by what the keys
tell of them, in time and at one time.  Their hashes may be any that tell these runs apart by what
is hashed, and distinguish weights that are different.  If a query that is asked twice stands for
the same filter both times, with the same weights where it asks for scores, and runs with other
criteria are over notifications that are not taken for criteria, then every answer is the one
without a cache.
-/
theorem runAll_shared (settings : Settings) (session : Session)
    (hopen : ofSettings settings (.ok {}) = .ok session) (calls : List Call) (start : Instant)
    (hproper : ∀ c ∈ calls, ∀ n ∈ c.list, n.Proper)
    (hseconds : IdentifiedBy Instant.seconds calls)
    (hmillis : IdentifiedBy Instant.toMillis calls) (htime : ∀ c ∈ calls, c.InTime)
    (hclock : ∀ c ∈ calls, c.now = start) (happart : HashedApart calls)
    (hweights : ∀ c ∈ calls, ∀ c' ∈ calls,
      c.pipeline.scorer.fingerprint = c'.pipeline.scorer.fingerprint →
        c.pipeline.scorer.factors = c'.pipeline.scorer.factors)
    (hcriteria : CriteriaTold calls)
    (hmeans : ∀ c ∈ calls, ∀ c' ∈ calls, trim c.query = trim c'.query → c.MeansAlike c') :
    ((runAll calls).run (some session)).1 = calls.map Call.answer ∧
      ((runAll calls).run none).1 = calls.map Call.answer := by
  have hagree : Agree calls := agree_of_meansAlike hproper htime hseconds hmillis
    (fun c hc => .inl (hclock c hc)) happart hcriteria hmeans hweights
  exact hagree.answers hopen

/-- A query without names means the same to pipelines with the same weights. -/
theorem meansAlike_unread {calls : List Call} {factors : Factors}
    (hquery : ∀ c ∈ calls, c.query = "is:unread")
    (hfactors : ∀ c ∈ calls, c.pipeline.scorer.factors = factors) :
    ∀ c ∈ calls, ∀ c' ∈ calls, trim c.query = trim c'.query → c.MeansAlike c' := by
  intro c hc c' hc' _
  refine ⟨fun now => ?_, fun _ => (hfactors c hc).trans (hfactors c' hc').symm⟩
  rw [hquery c hc, Pipeline.filterOf_unread, Pipeline.filterOf_unread]

/-- Two pipelines with different saved filters and criteria share the cache, and one of the queries,
which refers to no saved filter. -/
theorem runAll_shared_plain_query :
    let p := Pipeline.initial (some (.ofList [("mine", "is:unread")]))
    let p' : Pipeline := { Pipeline.initial none with
      engine := { useIndexes := false }, sorter := { criteria := [⟨.title, .ascending⟩] } }
    let record (id : String) (unread : Bool) : Notification :=
      .build id "octo/hello" (.ofText "Issue") "" .mention unread ⟨0, 0⟩
    let list := [record "1" true, record "2" false]
    let calls : List Call :=
      [⟨p, .still, ⟨0, 0⟩, "is:unread", list⟩, ⟨p', .still, ⟨0, 0⟩, "is:unread", list⟩]
    ofSettings {} (.ok {}) = .ok .initial ∧ (∀ c ∈ calls, ∀ n ∈ c.list, n.Proper) ∧
      IdentifiedBy Instant.seconds calls ∧ IdentifiedBy Instant.toMillis calls ∧
      (∀ c ∈ calls, c.InTime) ∧ (∀ c ∈ calls, c.now = ⟨0, 0⟩) ∧ HashedApart calls ∧
      CriteriaTold calls ∧
      (∀ c ∈ calls, ∀ c' ∈ calls, trim c.query = trim c'.query → c.MeansAlike c') ∧
      (∀ c ∈ calls, ∀ c' ∈ calls, c.pipeline.scorer.factors = c'.pipeline.scorer.factors) ∧
      ((runAll calls).run (some .initial)).1 = [.ok [record "1" true], .ok [record "1" true]] := by
  intro p p' record list calls
  have hproper : ∀ c ∈ calls, ∀ n ∈ c.list, n.Proper := by decide +kernel
  have hlist : ∀ c ∈ calls, c.list = list := by simp [calls]
  have hidentified := identifiedBy_of_list_eq hlist (by decide +kernel)
  have hstill : ∀ c ∈ calls, c.timing = .still ∧ 0 < c.pipeline.engine.timeoutMs := by
    simp [calls, p, p', Pipeline.initial]
  have htime : ∀ c ∈ calls, c.InTime := Call.inTime_of_still hstill
  have hclock : ∀ c ∈ calls, c.now = ⟨0, 0⟩ := by simp [calls]
  have happart : HashedApart calls := by decide +kernel
  have hcriteria : CriteriaTold calls := by
    intro c hc c' hc'
    have hdelimited : Pipeline.Delimited list := by
      rintro n ⟨⟩ ⟨field, direction⟩
      cases field <;> cases direction <;> decide
    rw [hlist c hc, hlist c' hc']
    exact .inr ⟨hdelimited, hdelimited⟩
  have hquery : ∀ c ∈ calls, c.query = "is:unread" := by simp [calls]
  have hfactors : ∀ c ∈ calls, c.pipeline.scorer.factors = .initial := by
    simp [calls, p, p', Pipeline.initial]
  have hmeans := meansAlike_unread hquery hfactors
  have hsame : ∀ c ∈ calls, ∀ c' ∈ calls,
      c.pipeline.scorer.factors = c'.pipeline.scorer.factors :=
    fun c hc c' hc' => (hfactors c hc).trans (hfactors c' hc').symm
  have hanswers : calls.map Call.answer = [.ok [record "1" true], .ok [record "1" true]] := by
    rw [List.map_cons, List.map_cons, List.map_nil, Call.answer, Call.answer,
      Pipeline.answer_of_ok (p.filterOf_unread _), Pipeline.answer_of_ok (p'.filterOf_unread _)]
    rfl
  have hshared := (runAll_shared {} .initial ofSettings_initial calls ⟨0, 0⟩ hproper
    (hidentified _) (hidentified _) htime hclock happart (fun c hc c' hc' _ => hsame c hc c' hc')
    hcriteria hmeans).1
  exact ⟨ofSettings_initial, hproper, hidentified _, hidentified _, htime, hclock, happart,
    hcriteria, hmeans, hsame, hshared.trans hanswers⟩

/-- The saved filter is redefined, and the result of the old one is served. -/
theorem runAll_shared_redefined :
    let p := Pipeline.initial (some (.ofList [("mine", "is:unread")]))
    let p' := Pipeline.initial (some (.ofList [("mine", "is:read")]))
    let record (id : String) (unread : Bool) : Notification :=
      .build id "octo/hello" (.ofText "Issue") "" .mention unread ⟨0, 0⟩
    let list := [record "1" true, record "2" false]
    let calls : List Call :=
      [⟨p, .still, ⟨0, 0⟩, "@mine", list⟩, ⟨p', .still, ⟨0, 0⟩, "@mine", list⟩]
    ofSettings {} (.ok {}) = .ok .initial ∧ (∀ c ∈ calls, ∀ n ∈ c.list, n.Proper) ∧
      IdentifiedBy Instant.seconds calls ∧ IdentifiedBy Instant.toMillis calls ∧
      (∀ c ∈ calls, c.InTime) ∧ (∀ c ∈ calls, c.now = ⟨0, 0⟩) ∧
      calls.map Call.answer = [.ok [record "1" true], .ok [record "2" false]] ∧
      ((runAll calls).run (some .initial)).1 = [.ok [record "1" true], .ok [record "1" true]] ∧
      record "1" true ≠ record "2" false := by
  intro p p' record list calls
  have hproper : ∀ c ∈ calls, ∀ n ∈ c.list, n.Proper := by decide +kernel
  have hlist : ∀ c ∈ calls, c.list = list := by simp [calls]
  have hidentified := identifiedBy_of_list_eq hlist (by decide +kernel)
  have hstill : ∀ c ∈ calls, c.timing = .still ∧ 0 < c.pipeline.engine.timeoutMs := by
    simp [calls, p, p', Pipeline.initial]
  have htime : ∀ c ∈ calls, c.InTime := Call.inTime_of_still hstill
  -- with one saved filter no more than two texts are read inside one another
  have hmine (expression : String) :
      (Pipeline.initial (some (.ofList [("mine", expression)]))).filterOf ⟨0, 0⟩ "@mine" =
        Query.filterUpTo ⟨⟨0, 0⟩, some (.ofList [("mine", expression)])⟩ (.deadline 0 0) 2 []
          "@mine" :=
    (Query.filterUpTo_eq _ (Nat.lt_succ_of_le List.countP_le_length) _).symm
  have hbefore : p.filterOf ⟨0, 0⟩ "@mine" = .ok (.atom (.unread true)) := by
    rw [hmine]
    rfl
  have hafter : p'.filterOf ⟨0, 0⟩ "@mine" = .ok (.atom (.unread false)) := by
    rw [hmine]
    rfl
  have hfirst : (Call.mk p .still ⟨0, 0⟩ "@mine" list).answer = .ok [record "1" true] :=
    Pipeline.answer_of_ok hbefore
  have hsecond : (Call.mk p' .still ⟨0, 0⟩ "@mine" list).answer = .ok [record "2" false] :=
    Pipeline.answer_of_ok hafter
  refine ⟨ofSettings_initial, hproper, hidentified _, hidentified _, htime, by simp [calls],
    by rw [List.map_cons, List.map_cons, hfirst, hsecond, List.map_nil], ?_, by decide +kernel⟩
  exact runAll_initial_of_key_eq (htime _ List.mem_cons_self) (hproper _ List.mem_cons_self)
    ((hidentified _).of_subset (by simp [calls])) hfirst (by decide) (by decide)
    (by decide +kernel) rfl

/-- The last criterion of one run is spelled like the first identifier of the other, and the rest of
what is hashed is the same.  The first result is served though it is of another list. -/
theorem runAll_shared_criteria :
    let newest : SortCriterion := ⟨.time, .descending⟩
    let p : Pipeline :=
      { Pipeline.initial none with sorter := { criteria := [newest, ⟨.title, .ascending⟩] } }
    let p' : Pipeline := { Pipeline.initial none with sorter := { criteria := [newest] } }
    let record (id : String) (second : Int) : Notification :=
      .build id "octo/hello" (.ofText "Issue") "" .mention true ⟨second, 0⟩
    -- six seconds are hashed as the bytes of the first eight characters
    let joined := record "p\x17\x00\x00\x00\x00\x00\x002" 1
    let apart := [record "title:asc" 6, record "2" 1]
    let calls : List Call :=
      [⟨p, .still, ⟨0, 0⟩, "is:unread", [joined]⟩, ⟨p', .still, ⟨0, 0⟩, "is:unread", apart⟩]
    ofSettings {} (.ok {}) = .ok .initial ∧ (∀ c ∈ calls, ∀ n ∈ c.list, n.Proper) ∧
      IdentifiedBy Instant.seconds calls ∧ (∀ c ∈ calls, c.InTime) ∧
      (∀ c ∈ calls, c.now = ⟨0, 0⟩) ∧ HashedApart calls ∧
      (∀ c ∈ calls, ∀ c' ∈ calls, trim c.query = trim c'.query → c.MeansAlike c') ∧
      calls.map Call.answer = [.ok [joined], .ok apart] ∧
      ((runAll calls).run (some .initial)).1 = [.ok [joined], .ok [joined]] := by
  intro newest p p' record joined apart calls
  have hproper : ∀ c ∈ calls, ∀ n ∈ c.list, n.Proper := by decide +kernel
  have hseconds : IdentifiedBy Instant.seconds calls := by
    have hids : ∀ c ∈ calls, ∀ c' ∈ calls, ∀ n ∈ c.list, ∀ n' ∈ c'.list, n.id = n'.id → n = n' := by
      decide +kernel
    exact fun c hc c' hc' n hn n' hn' hid _ => hids c hc c' hc' n hn n' hn' hid
  have hstill : ∀ c ∈ calls, c.timing = .still ∧ 0 < c.pipeline.engine.timeoutMs := by
    simp [calls, p, p', Pipeline.initial]
  have htime : ∀ c ∈ calls, c.InTime := Call.inTime_of_still hstill
  have hsame : (Call.mk p .still ⟨0, 0⟩ "is:unread" [joined]).hashedBytes =
      (Call.mk p' .still ⟨0, 0⟩ "is:unread" apart).hashedBytes := by decide +kernel
  have happart : HashedApart calls := by
    have hbytes : ∀ c ∈ calls, c.hashedBytes = p'.hashedBytes "is:unread" apart := by
      simpa [calls] using ⟨hsame, rfl⟩
    exact fun c hc c' hc' _ => (hbytes c hc).trans (hbytes c' hc').symm
  have hquery : ∀ c ∈ calls, c.query = "is:unread" := by simp [calls]
  have hfactors : ∀ c ∈ calls, c.pipeline.scorer.factors = .initial := by
    simp [calls, p, p', Pipeline.initial]
  have hmeans := meansAlike_unread hquery hfactors
  have hfirst : (Call.mk p .still ⟨0, 0⟩ "is:unread" [joined]).answer = .ok [joined] :=
    Pipeline.answer_of_ok (p.filterOf_unread _)
  have hsecond : (Call.mk p' .still ⟨0, 0⟩ "is:unread" apart).answer = .ok apart := by
    rw [Call.answer, Pipeline.answer_of_ok (p'.filterOf_unread _)]
    exact congrArg Except.ok <|
      (p'.sorter.isStableSort_sort _).eq (.self (List.pairwise_pair.2 (by decide)))
  refine ⟨ofSettings_initial, hproper, hseconds, htime, by simp [calls], happart, hmeans,
    by rw [List.map_cons, List.map_cons, hfirst, hsecond, List.map_nil], ?_⟩
  have hkey : (Call.mk p' .still ⟨0, 0⟩ "is:unread" apart).key =
      (Call.mk p .still ⟨0, 0⟩ "is:unread" [joined]).key :=
    congrArg (fun bytes => "results:" ++ fingerprintText (Hash.standard bytes)) hsame.symm
  exact runAll_initial_of_key_eq (htime _ List.mem_cons_self) (hproper _ List.mem_cons_self)
    (hseconds.of_subset (by simp [calls])) hfirst (by decide) (by decide) hkey rfl

end Triage
