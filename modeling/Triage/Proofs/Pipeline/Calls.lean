/-
Runs that share a cache.

Several pipelines may run one after the other on one cache, at any times.  If whatever can be stored
for a key is what each run with that key would compute, the cache does not show: every entry that is
found is such a result or score, however it came there, and every run gives its own answer.
-/
import Triage.Proofs.Notification
import Triage.Proofs.Pipeline.Run
import Triage.Proofs.Score

namespace Triage

open Calendar Cache Text

/-- One run of a pipeline. -/
structure Call where
  pipeline : Pipeline
  timing : Timing
  now : Instant
  query : String
  list : List Notification

namespace Call

/-- What is hashed for the key of the result. -/
def hashedBytes (c : Call) : MessagePack.Bytes := c.pipeline.hashedBytes c.query c.list

/-- The fingerprint in the key of the result. -/
def fingerprint (c : Call) : UInt64 := c.pipeline.scorer.hash c.hashedBytes

/-- The key of the result. -/
def key (c : Call) : String := c.pipeline.cacheKey c.query c.list

/-- What the run has to answer. -/
def answer (c : Call) : Except Error (List Notification) :=
  c.pipeline.answer c.now c.query c.list

/-- The run, by way of the cache if there is one. -/
def run (c : Call) : WithCache (Except Error (List Notification)) :=
  c.pipeline.run c.timing c.now c.query c.list

/-- The deadline of the run is not reached. -/
def InTime (c : Call) : Prop := c.pipeline.InTime c.timing c.now c.query c.list

/-- The query has a condition on scores. -/
def AsksScores (c : Call) : Prop := c.pipeline.AsksScores c.now c.query

/-- The query means the same at all times. -/
def Timeless (c : Call) : Prop := Query.Timeless ⟨c.now, c.pipeline.saved⟩ c.query

end Call

/-- Where the stopwatch stands still all runs are in time. -/
theorem Call.inTime_of_still {calls : List Call}
    (h : ∀ c ∈ calls, c.timing = .still ∧ 0 < c.pipeline.engine.timeoutMs) :
    ∀ c ∈ calls, c.InTime := by
  intro c hc
  obtain ⟨hstill, htimeout⟩ := h c hc
  rw [InTime, hstill]
  exact c.pipeline.inTime_still htimeout _ _ _

/-- The answers of several runs, one after the other. -/
def runAll (calls : List Call) : WithCache (List (Except Error (List Notification))) :=
  calls.mapM Call.run

/-- Each run goes on with the cache that the one before it left. -/
theorem runAll_cons (c : Call) (rest : List Call) (s : Option Session) :
    (runAll (c :: rest)).run s =
      ((c.run.run s).1 :: ((runAll rest).run (c.run.run s).2).1,
        ((runAll rest).run (c.run.run s).2).2) := by
  rw [runAll, List.mapM_cons]
  rfl

/-! ### Runs that agree on their keys -/

/-- The runs are in time and over proper notifications, and those that share a key share what can be
stored for it. -/
structure Agree (calls : List Call) : Prop where
  inTime : ∀ c ∈ calls, c.InTime
  proper : ∀ c ∈ calls, ∀ n ∈ c.list, n.Proper
  results : ∀ c ∈ calls, ∀ c' ∈ calls, c.key = c'.key → c.answer = c'.answer
  scores : ∀ c ∈ calls, ∀ c' ∈ calls, c.AsksScores → c'.AsksScores →
    ∀ n ∈ c.list, ∀ n' ∈ c'.list,
      c.pipeline.scorer.cacheKey n = c'.pipeline.scorer.cacheKey n' →
        c.pipeline.totalOf c.now n = c'.pipeline.totalOf c'.now n'

/-- What the runs may store for a key: the result of one of them, or a score that one of them asks
for. -/
inductive Stores (calls : List Call) : String → Json → Prop
  | result {c : Call} {list : List Notification} (hc : c ∈ calls) (h : c.answer = .ok list) :
      Stores calls c.key (Notification.listToJson list)
  | score {c : Call} {n : Notification} (hc : c ∈ calls) (hasks : c.AsksScores)
      (hn : n ∈ c.list) : Stores calls (c.pipeline.scorer.cacheKey n)
        (c.pipeline.scorer.compute n c.now).toJson

namespace Agree

variable {calls : List Call} {c : Call}

/-- What a run answers with is proper again. -/
theorem proper_of_answer (h : Agree calls) (hc : c ∈ calls) {list : List Notification}
    (hlist : c.answer = .ok list) : ∀ n ∈ list, n.Proper := by
  obtain ⟨filter, -, hsorted⟩ := bind_ok_iff.1 hlist
  cases hsorted
  intro n hn
  have hn := (c.pipeline.sorter.isStableSort_sort _).perm.mem_iff.1 hn
  exact h.proper c hc n (List.mem_of_mem_filter hn)

/-- A result that is read under the key of a run is its answer. -/
theorem eq_answer_of_stores (h : Agree calls) (hc : c ∈ calls) {json : Json}
    (hjson : Stores calls c.key json) {list : List Notification}
    (hlist : Notification.listOfJson json = some list) : c.answer = .ok list := by
  generalize hkey : c.key = key at hjson
  cases hjson with
  | @result c' stored hc' hanswer =>
      rw [Notification.listOfJson_listToJson (h.proper_of_answer hc' hanswer)] at hlist
      cases hlist
      exact (h.results c hc c' hc' hkey).trans hanswer
  | score => exact absurd hkey.symm (Scorer.cacheKey_ne_results _ _ _)

/-- A score that is read under the key of a notification has its total. -/
theorem eq_total_of_stores (h : Agree calls) (hc : c ∈ calls) (hasks : c.AsksScores)
    {n : Notification} (hn : n ∈ c.list) {json : Json}
    (hjson : Stores calls (c.pipeline.scorer.cacheKey n) json) {score : Score}
    (hscore : Score.ofJson json = some score) : score.total = c.pipeline.totalOf c.now n := by
  generalize hkey : c.pipeline.scorer.cacheKey n = key at hjson
  cases hjson with
  | result => exact absurd hkey (Scorer.cacheKey_ne_results _ _ _)
  | @score c' n' hc' hasks' hn' =>
      rw [Score.total_of_ofJson hscore]
      exact (h.scores c hc c' hc' hasks hasks' n hn n' hn' hkey).symm

/-- Each run keeps the cache in order and gives its answer. -/
theorem yields_run (h : Agree calls) (hc : c ∈ calls) :
    Yields (Holding (Session.FrontOf (Stores calls))) True c.run c.answer := by
  have hscores : c.AsksScores → ∀ n ∈ c.list,
      Yields (Holding (Session.FrontOf (Stores calls))) True (c.pipeline.total c.now n)
        (c.pipeline.totalOf c.now n) := fun hasks n hn =>
    Pipeline.yields_total
      (fun _ v hv => ⟨_, .score hc hasks hn, Score.writable_toJson _, Score.isBracketed_toJson _, hv⟩)
      fun _ _ v score hv hscore => by
        obtain ⟨json, hjson, hread⟩ := hv.decode hscore
        exact h.eq_total_of_stores hc hasks hn hjson hread
  have hcompute : Yields (Holding (Session.FrontOf (Stores calls))) True
      (c.pipeline.compute c.timing c.now c.query c.list) c.answer :=
    (Pipeline.yields_compute hscores).of_eq fun _ => Pipeline.plainResult_eq_answer (h.inTime c hc)
  intro s hs
  rcases hlookup : (Pipeline.lookup c.key c.now).run s with ⟨found, s'⟩
  obtain ⟨hs', hfound⟩ := Pipeline.holding_lookup hs hlookup
  -- what is found was stored for this key, and what is computed may be stored for it
  cases found with
  | some result =>
      rw [Call.run, Pipeline.run_of_found hlookup]
      obtain ⟨v, hv, hdecode⟩ := hfound result rfl
      obtain ⟨json, hjson, hread⟩ := hv.decode hdecode
      exact ⟨hs', fun _ => (h.eq_answer_of_stores hc hjson hread).symm⟩
  | none =>
      obtain ⟨hs'', hresult⟩ := hcompute s' hs'
      rcases hrun : (c.pipeline.compute c.timing c.now c.query c.list).run s' with ⟨result, s''⟩
      rw [hrun] at hs'' hresult
      have hanswer : result = c.answer := hresult trivial
      cases result with
      | error fault =>
          rw [Call.run, Pipeline.run_of_error hlookup hrun]
          exact ⟨hs'', fun _ => hanswer⟩
      | ok list =>
          rw [Call.run, Pipeline.run_of_ok hlookup hrun]
          refine ⟨Pipeline.holding_keep hs'' fun _ v hv => ?_, fun _ => hanswer⟩
          exact ⟨_, .result hc hanswer.symm, Notification.writable_listToJson _,
            Notification.isBracketed_listToJson _, hv⟩

/-- Several runs keep the cache in order and give their answers. -/
theorem yields_runAll (h : Agree calls) {l : List Call} (hl : ∀ c ∈ l, c ∈ calls) :
    Yields (Holding (Session.FrontOf (Stores calls))) True (runAll l) (l.map Call.answer) :=
  Yields.mapM fun c hc => h.yields_run (hl c hc)

/-- **Runs that agree on their keys do not show the cache**: over a new cache of any kind they give
the answers that they give without one. -/
theorem answers (h : Agree calls) {settings : Settings} {session : Session}
    (hopen : ofSettings settings (.ok {}) = .ok session) :
    ((runAll calls).run (some session)).1 = calls.map Call.answer ∧
      ((runAll calls).run none).1 = calls.map Call.answer := by
  have hyields := h.yields_runAll fun c hc => hc
  have hnew : Holding (Session.FrontOf (Stores calls)) (some session) :=
    holding_some.2 (sound_ofSettings hopen _)
  exact ⟨(hyields _ hnew).2 trivial, (hyields _ holding_none).2 trivial⟩

end Agree

end Triage
