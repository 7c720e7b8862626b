/-
What tuning and scheduling can change about an answer.

Few candidates are filtered inline and come out in their order; many are filtered by a pool, and
come out as its workers finish.  Sorting keeps the order of what the criteria find equal, whichever
order that is.  So the answer is settled up to the order of such ties: inline, with one worker, or
where nothing ties, it is the stable sort of the list itself, and otherwise that of some completion
order.
-/
import Triage.Proofs.Engine
import Triage.Proofs.Order.Ties
import Triage.Proofs.Pipeline.Kept
import Triage.Proofs.Pool.Schedule

namespace Triage.Pipeline

open Calendar Triage.Order

variable {p : Pipeline} {now : Instant} {query : String} {list : List Notification}
  {filter : Filter} {result : Except Error (List Notification)}

/-! ### Runs by any schedule -/

/-- A pipeline with other settings for filtering, and another way to sort by its criteria. -/
def tuned (p : Pipeline) (engine : EngineSettings) (parallel : Bool) (batchSize : Nat) : Pipeline :=
  { p with engine, sorter := { p.sorter with parallel, batchSize } }

/-- The notifications that a filter is asked of. -/
def candidates (p : Pipeline) (filter : Filter) (list : List Notification) : List Notification :=
  Engine.candidates p.engine filter.key? list

/-- The pool that filters by a filter. -/
def pool (p : Pipeline) (now : Instant) (filter : Filter) (list : List Notification) :
    Pool Notification :=
  Engine.pool p.engine (filter.accepts (p.totalOf now)) (p.candidates filter list)

/-- What a run without a cache can answer in time: what comes of it inline if there are few
candidates, and else what comes of the pool after any turns of its workers and its consumer. -/
inductive Answers (p : Pipeline) (now : Instant) (query : String) (list : List Notification) :
    Except Error (List Notification) → Prop
  | inline {filter : Filter} {timing : Timing} (hfilter : p.filterOf now query = .ok filter)
      (hfew : (p.candidates filter list).length < p.engine.batchSize)
      (htime : p.InTime timing now query list) :
      Answers p now query list ((p.run timing now query list).run none).1
  | pooled {filter : Filter} {turns : List Pool.Turn} {s : Pool.State Notification}
      {o : Outcome Notification} (hfilter : p.filterOf now query = .ok filter)
      (hmany : p.engine.batchSize ≤ (p.candidates filter list).length)
      (hrun : (p.pool now filter list).run turns = some s) (houtcome : s.outcome? = some o)
      (htime : o.timedOut = false) :
      Answers p now query list (p.conclude (Engine.answer (p.candidates filter list) o))

/-- The notifications that are filtered come out one after the other. -/
def OneByOne (p : Pipeline) (filter : Filter) (list : List Notification) : Prop :=
  (p.candidates filter list).length < p.engine.batchSize ∨ p.engine.concurrency = 1

/-- An answer is the sort of what the filter accepts, in the order in which it came out. -/
theorem Answers.exists_finished (h : p.Answers now query list result)
    (hfilter : p.filterOf now query = .ok filter) :
    ∃ finished, finished.Perm (list.filter (filter.accepts (p.totalOf now))) ∧
      result = .ok (p.sorter.sort finished) ∧
      (p.OneByOne filter list → finished = list.filter (filter.accepts (p.totalOf now))) := by
  cases h with
  | inline _ _ htime =>
      refine ⟨_, .refl _, ?_, fun _ => rfl⟩
      rw [run_none, plainResult_eq_answer htime, answer_of_ok hfilter]
  | pooled hfilter' hmany hrun houtcome htime =>
      cases hfilter.symm.trans hfilter'
      have hcomplete := (Pool.accounted_of_run hrun).complete
        (fun hcrew => Pool.inOrder_of_run hcrew hrun) houtcome htime
      obtain ⟨kept, hkept, hperm, hone⟩ := Engine.answer_of_complete
        (Query.covers_of_filterOf hfilter (p.totalOf now) list) hcomplete
      refine ⟨kept, hperm, ?_, ?_⟩
      · show p.conclude (Engine.answer (Engine.candidates _ _ _) _) = _
        rw [hkept]
        rfl
      · rintro (hfew | hconcurrency)
        · exact absurd hmany (Nat.not_le.2 hfew)
        · exact hone hconcurrency

/--
**Answers are settled up to the order of ties.**  However a pipeline is tuned, what a run without a
cache answers in time is the stable sort of what the query accepts in the order in which it came
out of the filter.  Two such answers have the same notifications, and at each position such as the
criteria find equal.  Inline, with one worker, or if the criteria tell all that is accepted apart,
the answer is the stable sort of the list itself.  So it is for the run of the program, which has
the notifications out in the order of the list however many workers are asked for: that is one
schedule of theirs, and nothing is said by it of the others.  And there is an answer, whatever turns
the workers take.
-/
theorem answers_settled_up_to_ties (p : Pipeline) (now : Instant) (query : String)
    (list : List Notification) (filter : Filter) (hfilter : p.filterOf now query = .ok filter)
    (engine : EngineSettings) (parallel : Bool) (batchSize : Nat) :
    let tuned := p.tuned engine parallel batchSize
    let accepted := list.filter (filter.accepts (p.totalOf now))
    let stable := p.sorter.sort accepted
    IsStableSort p.sorter.compare accepted stable ∧
    (∀ result, tuned.Answers now query list result →
      ∃ finished sorted, finished.Perm accepted ∧ result = .ok sorted ∧
        IsStableSort p.sorter.compare finished sorted ∧
        List.Forall₂ (p.sorter.compare · · = .eq) sorted stable ∧
        (tuned.OneByOne filter list ∨
          (∀ n ∈ accepted, ∀ n' ∈ accepted, p.sorter.compare n n' = .eq → n = n') →
          sorted = stable)) ∧
    (∀ timing, tuned.InTime timing now query list →
      ((tuned.run timing now query list).run none).1 = .ok stable) ∧
    Inevitable (tuned.pool now filter list).Quiet
      (fun s => ∃ o, s.outcome? = some o ∧ o.timedOut = false) (tuned.pool now filter list).start := by
  intro tuned accepted stable
  have hcriteria : tuned.sorter.criteria = p.sorter.criteria := rfl
  have hsame (l : List Notification) : tuned.sorter.sort l = p.sorter.sort l :=
    Sorter.sort_congr hcriteria l
  have hstable := p.sorter.isStableSort_sort accepted
  refine ⟨hstable, fun result h => ?_, fun timing htime => ?_, ?_⟩
  · obtain ⟨finished, hperm, rfl, hone⟩ := h.exists_finished hfilter
    have hsorted := p.sorter.isStableSort_sort finished
    have hsortedPerm : (p.sorter.sort finished).Perm stable :=
      hsorted.perm.trans (hperm.trans hstable.perm.symm)
    refine ⟨finished, p.sorter.sort finished, hperm, by rw [hsame], hsorted,
      forall₂_of_perm hsortedPerm hsorted.ordered hstable.ordered, ?_⟩
    rintro (hfirst | hties)
    · rw [hone hfirst]
      rfl
    · have hmem {n : Notification} (hn : n ∈ p.sorter.sort finished) : n ∈ accepted :=
        (hsorted.perm.trans hperm).mem_iff.1 hn
      exact eq_of_perm_of_no_ties hsortedPerm hsorted.ordered hstable.ordered
        fun n hn n' hn' => hties n (hmem hn) n' (hmem hn')
  · rw [run_none, plainResult_eq_answer htime, answer_of_ok (p := tuned) hfilter, hsame]
    rfl
  · exact (Pool.inevitable_complete _).imp fun s ⟨o, ho⟩ => ⟨o, ho.returned, ho.inTime⟩

/-! ### Two workers -/

/-- A pool of two workers on two slots may return the result of the later one first. -/
theorem exists_swapped {β : Type} (a b : β) : ∃ turns s,
    (⟨2, 2, 2, ([a, b][·]?)⟩ : Pool β).run turns = some s ∧
      s.outcome? = some ⟨[b, a], 2, false⟩ := by
  let p : Pool β := ⟨2, 2, 2, ([a, b][·]?)⟩
  -- the worker that claimed first is overtaken, then both leave
  let overtaken : Pool.State β :=
    { cursor := 2, processed := 1, channel := [b], worked := [1], workers := [.working 0, .looking] }
  let left : Pool.State β :=
    { cursor := 4, processed := 2, channel := [b, a], worked := [1, 0], workers := [.gone, .gone] }
  have hfirst : p.Leads p.start overtaken :=
    ⟨[.worker 0, .worker 0, .worker 1, .worker 1, .worker 1, .worker 1], rfl⟩
  have hthen : p.Leads overtaken left :=
    ⟨[.worker 0, .worker 0, .worker 0, .worker 0, .worker 1, .worker 1], rfl⟩
  have hlast : p.Leads left
      { left with channel := [], results := [b, a], consumer := .returned 2 false } :=
    ⟨[.consumer, .consumer, .consumer, .consumer], rfl⟩
  obtain ⟨turns, hturns⟩ := (hfirst.trans hthen).trans hlast
  exact ⟨turns, _, hturns, rfl⟩

/-- Two notifications that are accepted may come out of the filter the other way round. -/
theorem answers_swapped {n n' : Notification}
    (hengine : p.engine = { concurrency := 2, batchSize := 2, useIndexes := false })
    (hfilter : p.filterOf now query = .ok filter)
    (hn : filter.accepts (p.totalOf now) n = true)
    (hn' : filter.accepts (p.totalOf now) n' = true) :
    p.Answers now query [n, n'] (.ok (p.sorter.sort [n', n])) := by
  have hcandidates : p.candidates filter [n, n'] = [n, n'] := by
    rw [candidates, Engine.candidates, hengine]
    rfl
  have hpool : p.pool now filter [n, n'] = ⟨2, 2, 2, ([n, n'][·]?)⟩ := by
    rw [pool, hcandidates, Engine.pool, hengine]
    congr 1
    funext slot
    rcases slot with _ | _ | _
    · simp [Option.filter, hn]
    · simp [Option.filter, hn']
    · rfl
  obtain ⟨turns, s, hrun, houtcome⟩ := exists_swapped n n'
  have hanswer := Answers.pooled hfilter (by rw [hcandidates, hengine]; exact Nat.le_refl _)
    (hpool ▸ hrun) houtcome rfl
  exact hanswer

/-- The records differ in their times, so that nothing ties and the turns make no difference. -/
theorem answers_settled_up_to_ties_apart :
    let engine : EngineSettings := { concurrency := 2, batchSize := 2, useIndexes := false }
    let p := Pipeline.initial none
    let older : Notification := .build "1" "octo/hello" .issue "" .mention true ⟨0, 0⟩
    let newer : Notification := .build "2" "octo/hello" .issue "" .mention true ⟨9, 0⟩
    let accepted := [older, newer].filter (Filter.accepts (.atom (.unread true)) (p.totalOf ⟨10, 0⟩))
    p.filterOf ⟨10, 0⟩ "is:unread" = .ok (.atom (.unread true)) ∧
    (∃ result, (p.tuned engine true 1).Answers ⟨10, 0⟩ "is:unread" [older, newer] result) ∧
    ∀ result, (p.tuned engine true 1).Answers ⟨10, 0⟩ "is:unread" [older, newer] result →
      result = .ok (p.sorter.sort accepted) := by
  intro engine p older newer accepted
  have hfilter := p.filterOf_unread ⟨10, 0⟩
  refine ⟨hfilter, ⟨_, answers_swapped rfl hfilter rfl rfl⟩, fun result hresult => ?_⟩
  obtain ⟨-, hall, -⟩ := answers_settled_up_to_ties p ⟨10, 0⟩ "is:unread" [older, newer] _
    hfilter engine true 1
  obtain ⟨finished, sorted, -, hsorted, -, -, hsame⟩ := hall result hresult
  have hapart : ∀ n ∈ accepted, ∀ n' ∈ accepted, p.sorter.compare n n' = .eq → n = n' := by
    have haccepted : accepted = [older, newer] := rfl
    rw [haccepted]
    simp only [List.mem_cons, List.not_mem_nil, or_false]
    rintro n (rfl | rfl) n' (rfl | rfl) heq
    · rfl
    · cases heq
    · cases heq
    · rfl
  rw [hsorted, hsame (.inr hapart)]

/-- Records that tie come in the order in which they came out of the filter, and with two workers
that need not be the order of the list. -/
theorem answer_depends_on_turns :
    let engine : EngineSettings := { concurrency := 2, batchSize := 2, useIndexes := false }
    let p := (Pipeline.initial none).tuned engine true 1000
    let item (id : String) : Notification := .build id "octo/hello" .issue "" .mention true ⟨0, 0⟩
    p.answer ⟨10, 0⟩ "is:unread" [item "1", item "2"] = .ok [item "1", item "2"] ∧
    p.Answers ⟨10, 0⟩ "is:unread" [item "1", item "2"] (.ok [item "2", item "1"]) ∧
    item "1" ≠ item "2" := by
  intro engine p item
  have hfilter := p.filterOf_unread ⟨10, 0⟩
  have hties (id id' : String) : p.sorter.sort [item id, item id'] = [item id, item id'] := by
    refine (p.sorter.isStableSort_sort _).eq (.self (List.pairwise_pair.2 ?_))
    exact nofun
  refine ⟨?_, ?_, ?_⟩
  · rw [answer_of_ok hfilter]
    exact congrArg Except.ok (hties "1" "2")
  · rw [← hties "2" "1"]
    exact answers_swapped rfl hfilter rfl rfl
  · simp [item, Notification.build]

end Triage.Pipeline
