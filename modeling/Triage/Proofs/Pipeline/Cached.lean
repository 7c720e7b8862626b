/-
The cache of a pipeline does not show.

One pipeline asks its queries one after the other, at one time or at several, and each is answered
as if there were no cache: entries expire, scores and results share the cache, blanks around a query
do not count.  What it takes is that notifications are told by what the keys tell of them, and that
the hash in the keys tells the runs apart.  The second alone does not tell notifications, because the
milliseconds of a leap second are those of the second after it.
-/
import Triage.Proofs.Pipeline.Agreement
import Triage.Proofs.Pipeline.Kept

namespace Triage

open Calendar Cache Triage.Order

/--
**The cache of a pipeline does not show.**  A pipeline runs over a new cache of any kind, on
notifications that are told by their identifier and the second of their last change as well as by
its millisecond, in time, at one time or for queries that mean the same at all times.  Its hash may
be any that makes different fingerprints of these runs where what is hashed is different.  Every
answer is the one without a cache: the fault of the query, or the one stable sort of what its filter
accepts.  No run that fails, in time or not, leaves a result that was not there before.
-/
theorem runAll_cached (p : Pipeline) (settings : Settings) (session : Session)
    (hopen : ofSettings settings (.ok {}) = .ok session) (calls : List Call) (start : Instant)
    (hone : ∀ c ∈ calls, c.pipeline = p) (hproper : ∀ c ∈ calls, ∀ n ∈ c.list, n.Proper)
    (hseconds : IdentifiedBy Instant.seconds calls)
    (hmillis : IdentifiedBy Instant.toMillis calls) (htime : ∀ c ∈ calls, c.InTime)
    (hclock : ∀ c ∈ calls, c.now = start ∨ c.Timeless) (happart : HashedApart calls) :
    ((runAll calls).run (some session)).1 = calls.map Call.answer ∧
    ((runAll calls).run none).1 = calls.map Call.answer ∧
    (∀ c ∈ calls,
      (∀ fault, p.filterOf c.now c.query = .error fault → c.answer = .error fault) ∧
      ∀ filter, p.filterOf c.now c.query = .ok filter → ∃ sorted, c.answer = .ok sorted ∧
        IsStableSort p.sorter.compare (c.list.filter (filter.accepts (p.totalOf c.now))) sorted) ∧
    ∀ (c : Call) (before after : Session) (fault : Error),
      c.run.run (some before) = (.error fault, some after) → ∀ time key v,
        after.find time ("results:" ++ key) = .live v →
          before.find time ("results:" ++ key) = .live v := by
  have hagree : Agree calls := by
    refine agree_of_meansAlike hproper htime hseconds hmillis hclock happart
      (fun c hc c' hc' => .inl (by rw [hone c hc, hone c' hc'])) (fun c hc c' hc' _ => ?_)
      fun c hc c' hc' _ => by rw [hone c hc, hone c' hc']
    exact ⟨fun now => by rw [hone c hc, hone c' hc'], fun _ => by rw [hone c hc, hone c' hc']⟩
  obtain ⟨hcached, hplain⟩ := hagree.answers hopen
  refine ⟨hcached, hplain, fun c hc => ⟨fun fault hfault => ?_, fun filter hfilter => ?_⟩, ?_⟩
  · rw [← hone c hc] at hfault
    exact Pipeline.answer_of_error hfault
  · rw [← hone c hc] at hfilter ⊢
    exact ⟨_, Pipeline.answer_of_ok hfilter, Sorter.isStableSort_sort _ _⟩
  · intro c before after fault hrun time key v hlive
    exact Pipeline.find_of_run_error hrun (fun n => Scorer.cacheKey_ne_results _ n key) hlive

/-- A result in a table expires and is computed again, a query with a fault fails in between. -/
theorem runAll_cached_expired :
    let p := Pipeline.initial none
    let settings : Settings := { backend := .sqlite }
    let session : Session :=
      ⟨{ place := .table "notifications", queue := .withCapacity 100 },
        Storage.ensureTable {} "notifications"⟩
    let record (id : String) (unread : Bool) : Notification :=
      .build id "octo/hello" (.ofText "Issue") "" .mention unread ⟨0, 0⟩
    let list := [record "1" true, record "2" false]
    let calls : List Call := [⟨p, .still, ⟨0, 0⟩, "is:unread", list⟩,
      ⟨p, .still, ⟨0, 0⟩, "is:maybe", list⟩, ⟨p, .still, ⟨600, 0⟩, " is:unread ", list⟩]
    ofSettings settings (.ok {}) = .ok session ∧ (∀ c ∈ calls, c.pipeline = p) ∧
      (∀ c ∈ calls, ∀ n ∈ c.list, n.Proper) ∧ IdentifiedBy Instant.seconds calls ∧
      IdentifiedBy Instant.toMillis calls ∧ (∀ c ∈ calls, c.InTime) ∧
      (∀ c ∈ calls, c.now = ⟨0, 0⟩ ∨ c.Timeless) ∧ HashedApart calls ∧
      ((runAll calls).run (some session)).1 = [.ok [record "1" true],
        .error (.query "is:maybe" .unknownStatus), .ok [record "1" true]] := by
  have hopen : ofSettings { backend := .sqlite } (.ok {}) =
      .ok (⟨{ place := .table "notifications", queue := .withCapacity 100 },
        Storage.ensureTable {} "notifications"⟩ : Session) := by rfl
  intro p settings session record list calls
  have hproper : ∀ c ∈ calls, ∀ n ∈ c.list, n.Proper := by decide +kernel
  have hlist : ∀ c ∈ calls, c.list = list := by simp [calls]
  have hidentified := identifiedBy_of_list_eq hlist (by decide +kernel)
  have hstill : ∀ c ∈ calls, c.timing = .still ∧ 0 < c.pipeline.engine.timeoutMs := by
    simp [calls, p, Pipeline.initial]
  have htime : ∀ c ∈ calls, c.InTime := Call.inTime_of_still hstill
  have hclock : ∀ c ∈ calls, c.now = ⟨0, 0⟩ ∨ c.Timeless := by
    simp only [calls, List.forall_mem_cons, List.not_mem_nil, false_imp_iff, implies_true, and_true,
      true_or, true_and]
    have htokens : Query.tokens (Text.trim " is:unread ") =
        .ok [.term (.field "is" "unread")] := by rfl
    refine .inr (Query.timeless_of_tokens htokens (by decide +kernel) fun t ht => ?_)
    cases List.mem_singleton.1 ht
    decide +kernel
  have hunread (now : Instant) (query : String) (hquery : Text.trim query = "is:unread") :
      p.filterOf now query = .ok (.atom (.unread true)) := by
    have htrim : Text.trim query = Text.trim "is:unread" := hquery.trans (by decide +kernel)
    rw [Pipeline.filterOf, Query.filterOf_of_trim_eq htrim]
    exact p.filterOf_unread now
  have hmaybe : p.filterOf ⟨0, 0⟩ "is:maybe" = .error (.query "is:maybe" .unknownStatus) := by
    rw [Pipeline.filterOf, Query.filterOf, Query.filterWithin]
    rfl
  have hone : ∀ c ∈ calls, c.pipeline = p := by simp [calls]
  have hanswers : calls.map Call.answer = [.ok [record "1" true],
      .error (.query "is:maybe" .unknownStatus), .ok [record "1" true]] := by
    rw [List.map_cons, List.map_cons, List.map_cons, List.map_nil, Call.answer, Call.answer,
      Call.answer, Pipeline.answer_of_ok (hunread _ _ (by decide +kernel)),
      Pipeline.answer_of_error hmaybe, Pipeline.answer_of_ok (hunread _ _ (by decide +kernel))]
    rfl
  have happart : HashedApart calls := by decide +kernel
  have hcached := (runAll_cached p settings session hopen calls ⟨0, 0⟩ hone hproper
    (hidentified _) (hidentified _) htime hclock happart).1
  exact ⟨hopen, hone, hproper, hidentified _, hidentified _, htime, hclock, happart,
    hcached.trans hanswers⟩

/-- Half a second into a leap second and half a second after it are one millisecond, so that the
answer about the first notification is given about the second one as well. -/
theorem runAll_cached_leap_second :
    let p := Pipeline.initial none
    let record (title : String) (updatedAt : Instant) : Notification :=
      .build "1" "octo/hello" (.ofText "Issue") title .mention true updatedAt
    let leap := record "before" ⟨1483228799, 1500000000⟩
    let later := record "after" ⟨1483228800, 500000000⟩
    let calls : List Call := [⟨p, .still, ⟨0, 0⟩, "", [leap]⟩, ⟨p, .still, ⟨0, 0⟩, "", [later]⟩]
    Pipeline.ofConfig {} none = .ok p ∧ ofSettings {} (.ok {}) = .ok Session.initial ∧
      (∀ c ∈ calls, ∀ n ∈ c.list, n.Proper) ∧ IdentifiedBy Instant.seconds calls ∧
      (∀ c ∈ calls, c.InTime) ∧ (∀ c ∈ calls, c.now = ⟨0, 0⟩) ∧
      calls.map Call.answer = [.ok [leap], .ok [later]] ∧
      ((runAll calls).run (some .initial)).1 = [.ok [leap], .ok [leap]] ∧ leap ≠ later := by
  intro p record leap later calls
  have hproper : ∀ c ∈ calls, ∀ n ∈ c.list, n.Proper := by decide +kernel
  have hseconds : IdentifiedBy Instant.seconds calls := by
    rw [IdentifiedBy]
    decide +kernel
  have hstill : ∀ c ∈ calls, c.timing = .still ∧ 0 < c.pipeline.engine.timeoutMs := by
    simp [calls, p, Pipeline.initial]
  have htime : ∀ c ∈ calls, c.InTime := Call.inTime_of_still hstill
  have hall : p.filterOf ⟨0, 0⟩ "" = .ok (.atom .anything) := by
    rw [Pipeline.filterOf, Query.filterOf, Query.filterWithin, Query.filterWith]
    rfl
  have hanswer (n : Notification) :
      (Call.mk p .still ⟨0, 0⟩ "" [n]).answer = .ok [n] := Pipeline.answer_of_ok hall
  refine ⟨Pipeline.ofConfig_initial none, ofSettings_initial, hproper, hseconds, htime, by simp [calls],
    by rw [List.map_cons, List.map_cons, hanswer, hanswer, List.map_nil], ?_, by decide +kernel⟩
  -- the key of the second run tells of the same millisecond, so that it finds what the first kept
  exact runAll_initial_of_key_eq (htime _ List.mem_cons_self) (hproper _ List.mem_cons_self)
    (hseconds.of_subset (by simp [calls])) (hanswer leap) (by decide) (by decide)
    (by decide +kernel) rfl

end Triage
