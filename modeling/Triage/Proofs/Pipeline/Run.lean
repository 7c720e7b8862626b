/-
What a run amounts to.

A query stands for a filter or a fault.  A run in time answers with the fault, or with what the
filter accepts in the order of the pipeline; the index, the workers and the cached scores do not
show.  Whatever else it does, a run that fails leaves no new result in the cache.
-/
import Triage.Pipeline
import Triage.Proofs.Cache.Typed
import Triage.Proofs.Order.Sorter
import Triage.Proofs.Pipeline.Key
import Triage.Proofs.Query.Bucket
import Triage.Proofs.WithCache

namespace Triage

open Calendar Cache

/-- Whatever is found in the cache, if there is one, has a property. -/
def Holding (Good : Int → String → MessagePack.Bytes → Prop) : Option Session → Prop :=
  fun s => ∀ session, s = some session → session.Sound Good

section

variable {Good : Int → String → MessagePack.Bytes → Prop} {session : Session}

theorem holding_none : Holding Good none := nofun

theorem holding_some : Holding Good (some session) ↔ session.Sound Good :=
  ⟨fun h => h session rfl, fun h _ hsession => Option.some.inj hsession ▸ h⟩

end

namespace Pipeline

variable {p : Pipeline} {timing : Timing} {now : Instant} {query : String}
  {list : List Notification} {Good : Int → String → MessagePack.Bytes → Prop} {trusted : Prop}
  {Keeps : Option Session → Prop}

/-- The total score of a notification as it is computed. -/
def totalOf (p : Pipeline) (now : Instant) (n : Notification) : UInt8 :=
  (p.scorer.compute n now).total

/-- The answer to a query: what its filter accepts, sorted, or why it stands for no filter. -/
def answer (p : Pipeline) (now : Instant) (query : String) (list : List Notification) :
    Except Error (List Notification) := do
  let filter ← p.filterOf now query
  return p.sorter.sort (list.filter (filter.accepts (p.totalOf now)))

/-- The deadline is not reached before any of the candidates. -/
def InTime (p : Pipeline) (timing : Timing) (now : Instant) (query : String)
    (list : List Notification) : Prop :=
  ∀ filter, p.filterOf now query = .ok filter →
    ∀ k < (Engine.candidates p.engine filter.key? list).length,
      timing.stops p.engine.timeoutMs p.engine.batchSize
        (Engine.candidates p.engine filter.key? list).length k = false

/-- Where no time passes every run is in time. -/
theorem inTime_still (h : 0 < p.engine.timeoutMs) (now : Instant) (query : String)
    (list : List Notification) : p.InTime .still now query list := by
  intro filter _ k _
  rw [Timing.stops]
  split
  · exact decide_eq_false (by
      show ¬0 + p.engine.timeoutMs ≤ 0
      omega)
  · rfl

/-- The query has a condition on scores. -/
def AsksScores (p : Pipeline) (now : Instant) (query : String) : Prop :=
  ∃ filter, p.filterOf now query = .ok filter ∧ ¬filter.Scoreless

theorem answer_of_ok {filter : Filter} (h : p.filterOf now query = .ok filter) :
    p.answer now query list = .ok (p.sorter.sort (list.filter (filter.accepts (p.totalOf now)))) := by
  rw [answer, h]
  rfl

theorem answer_of_error {fault : Error} (h : p.filterOf now query = .error fault) :
    p.answer now query list = .error fault := by
  rw [answer, h]
  rfl

/-! ### Scores -/

/-- A cached score is one that was found, or it was computed and is kept. -/
theorem sound_scoreIn {s : Scorer} {n : Notification} {session : Session}
    (h : session.Sound Good) (hkept : ∀ time v, (Envelope.wrap now.toMillis (some s.cacheTime)
      (bytesOfText (s.compute n now).toJson.compact)).Shows time v → Good time (s.cacheKey n) v) :
    (s.scoreIn now n session).2.Sound Good ∧
      ((s.scoreIn now n session).1 = s.compute n now ∨ ∃ v, Good now.toMillis (s.cacheKey n) v ∧
        (jsonOfBytes? v).bind Score.ofJson = some (s.scoreIn now n session).1) := by
  obtain ⟨hsound, hfound⟩ := h.getJson now.toMillis (s.cacheKey n) Score.ofJson
  unfold Scorer.scoreIn
  rcases hget : session.getJson now.toMillis (s.cacheKey n) Score.ofJson with ⟨found, after⟩
  rw [hget] at hsound hfound
  cases found with
  | none => exact ⟨hsound.set _ hkept, .inl rfl⟩
  | some score => exact ⟨hsound, .inr (hfound score rfl)⟩

/-- Scores come out right where those that are found have the right totals. -/
theorem yields_scorerTotal {s : Scorer} {n : Notification}
    (hkept : ∀ time v, v <+: bytesOfText (s.compute n now).toJson.compact →
      Good time (s.cacheKey n) v)
    (hfound : trusted → ∀ time v score, Good time (s.cacheKey n) v →
      (jsonOfBytes? v).bind Score.ofJson = some score → score.total = (s.compute n now).total) :
    Yields (Holding Good) trusted (s.total now n) (s.compute n now).total := by
  intro state hstate
  cases state with
  | none => exact ⟨holding_none, fun _ => rfl⟩
  | some session =>
      obtain ⟨hsound, hscore⟩ := sound_scoreIn (holding_some.1 hstate) fun time v hshows =>
        hkept time v hshows.1
      refine ⟨holding_some.2 hsound, fun htrusted => ?_⟩
      show (s.scoreIn now n session).1.total = (s.compute n now).total
      rcases hscore with hscore | ⟨v, hgood, hscore⟩
      · rw [hscore]
      · exact hfound htrusted _ v _ hgood hscore

theorem yields_total {n : Notification}
    (hkept : ∀ time v, v <+: bytesOfText (p.scorer.compute n now).toJson.compact →
      Good time (p.scorer.cacheKey n) v)
    (hfound : trusted → ∀ time v score, Good time (p.scorer.cacheKey n) v →
      (jsonOfBytes? v).bind Score.ofJson = some score → score.total = p.totalOf now n) :
    Yields (Holding Good) trusted (p.total now n) (p.totalOf now n) := by
  rw [total]
  split
  · exact yields_scorerTotal hkept hfound
  · exact .pure _

/-! ### Computing a result -/

/-- What becomes of the notifications that were filtered. -/
def conclude (p : Pipeline) :
    Except (Interrupted (List Notification)) (List Notification) →
      Except Error (List Notification)
  | .error interrupted => .error interrupted.toError
  | .ok matched => .ok (p.sorter.sort matched)

/-- The result of a query as it comes out without a cache, in time or not. -/
def plainResult (p : Pipeline) (timing : Timing) (now : Instant) (query : String)
    (list : List Notification) : Except Error (List Notification) := do
  let filter ← p.filterOf now query
  p.conclude (Engine.select (m := Id) p.engine timing filter.key?
    (fun n => pure (filter.accepts (p.totalOf now) n)) list)

theorem yields_compute (hscores : p.AsksScores now query → ∀ n ∈ list,
      Yields Keeps trusted (p.total now n) (p.totalOf now n)) :
    Yields Keeps trusted (p.compute timing now query list)
      (p.plainResult timing now query list) := by
  unfold compute plainResult
  cases hfilter : p.filterOf now query with
  | error fault => exact .pure _
  | ok filter =>
      have haccepts : ∀ n ∈ list, Yields Keeps trusted (filter.acceptsM (p.total now) n)
          (filter.accepts (p.totalOf now) n) := fun n hn =>
        Filter.yields_acceptsM fun hscoreless => hscores ⟨filter, hfilter, hscoreless⟩ n hn
      have hselect : Yields Keeps trusted
          (Engine.run p.engine timing (p.total now) filter list) _ := Engine.yields_select haccepts
      refine hselect.bind fun result hresult => ?_
      cases result with
      | error interrupted =>
          exact (Yields.pure _).of_eq fun htrusted => congrArg p.conclude (hresult htrusted)
      | ok matched =>
          exact (Yields.pure _).of_eq fun htrusted => congrArg p.conclude (hresult htrusted)

/-- In time, what comes out without a cache is the answer. -/
theorem plainResult_eq_answer (h : p.InTime timing now query list) :
    p.plainResult timing now query list = p.answer now query list := by
  unfold plainResult
  cases hfilter : p.filterOf now query with
  | error fault => exact (answer_of_error hfilter).symm
  | ok filter =>
      have hselect := Engine.select_of_not_stopped
        (Query.covers_of_filterOf hfilter (p.totalOf now) list) (h filter hfilter)
      rw [answer_of_ok hfilter]
      exact congrArg p.conclude hselect

/-! ### Runs -/

section steps

variable {s s' s'' : Option Session} {result : List Notification} {fault : Error}

/-- A result that is found is the answer of the run. -/
theorem run_of_found (hlookup : (lookup (p.cacheKey query list) now).run s = (some result, s')) :
    (p.run timing now query list).run s = (.ok result, s') := by
  rw [run, StateT.run_bind, hlookup]
  rfl

/-- A run that fails keeps nothing. -/
theorem run_of_error (hlookup : (lookup (p.cacheKey query list) now).run s = (none, s'))
    (hcompute : (p.compute timing now query list).run s' = (.error fault, s'')) :
    (p.run timing now query list).run s = (.error fault, s'') := by
  rw [run, StateT.run_bind, hlookup]
  show ((p.compute timing now query list >>= _).run s') = _
  rw [StateT.run_bind, hcompute]
  rfl

/-- A result that was computed is kept. -/
theorem run_of_ok (hlookup : (lookup (p.cacheKey query list) now).run s = (none, s'))
    (hcompute : (p.compute timing now query list).run s' = (.ok result, s'')) :
    (p.run timing now query list).run s =
      (.ok result, ((p.keep (p.cacheKey query list) now result).run s'').2) := by
  rw [run, StateT.run_bind, hlookup]
  show ((p.compute timing now query list >>= _).run s') = _
  rw [StateT.run_bind, hcompute]
  rfl

end steps

/-- What is looked up was found, and nothing new is to be found afterwards. -/
theorem holding_lookup {s s' : Option Session} {key : String} {found : Option (List Notification)}
    (hs : Holding Good s) (h : (lookup key now).run s = (found, s')) :
    Holding Good s' ∧ ∀ result, found = some result → ∃ v, Good now.toMillis key v ∧
      (jsonOfBytes? v).bind Notification.listOfJson = some result := by
  cases s with
  | none =>
      cases h
      exact ⟨holding_none, nofun⟩
  | some session =>
      cases h
      obtain ⟨hsound, hfound⟩ :=
        (holding_some.1 hs).getJson now.toMillis key Notification.listOfJson
      exact ⟨holding_some.2 hsound, hfound⟩

/-- Keeping a result keeps a property that all bytes of the result have. -/
theorem holding_keep {s : Option Session} {key : String} {result : List Notification}
    (hs : Holding Good s) (hresult : ∀ time v,
      v <+: bytesOfText (Notification.listToJson result).compact → Good time key v) :
    Holding Good ((p.keep key now result).run s).2 := by
  cases s with
  | none => exact holding_none
  | some session =>
      exact holding_some.2 ((holding_some.1 hs).set _ fun time v hshows => hresult time v hshows.1)

/-- A run without a cache only computes. -/
theorem run_none : (p.run timing now query list).run none =
    (p.plainResult timing now query list, none) := by
  have htotal (n : Notification) : Yields (· = none) True (p.total now n) (p.totalOf now n) := by
    rintro s rfl
    rw [total]
    split <;> exact ⟨rfl, fun _ => rfl⟩
  have hcompute : Yields (· = none) True (p.compute timing now query list)
      (p.plainResult timing now query list) := yields_compute fun _ n _ => htotal n
  rcases h : (p.compute timing now query list).run none with ⟨result, s⟩
  obtain ⟨hnone, hresult⟩ := hcompute none rfl
  rw [h] at hnone hresult
  obtain rfl : s = none := hnone
  rw [← hresult trivial]
  cases result with
  | error fault => exact run_of_error rfl h
  | ok result => exact run_of_ok rfl h

/-- **A run that fails stores no result**, whatever is in the cache and however it fails. -/
theorem find_of_run_error {session after : Session} {fault : Error}
    (h : (p.run timing now query list).run (some session) = (.error fault, some after))
    {time : Int} {key : String} {v : MessagePack.Bytes} (hkey : ∀ n, p.scorer.cacheKey n ≠ key)
    (hlive : after.find time key = .live v) : session.find time key = .live v := by
  -- nothing is kept but scores, and what was there before
  let Good (time : Int) (key : String) (v : MessagePack.Bytes) : Prop :=
    (∃ n, p.scorer.cacheKey n = key) ∨ session.find time key = .live v
  have hbefore : Holding Good (some session) := holding_some.2 fun _ _ _ hlive => .inr hlive
  have hcompute : Yields (Holding Good) False (p.compute timing now query list)
      (p.plainResult timing now query list) :=
    yields_compute fun _ n _ => yields_total (fun _ _ _ => .inl ⟨n, rfl⟩) False.elim
  rcases hlookup : (lookup (p.cacheKey query list) now).run (some session) with ⟨found, s⟩
  obtain ⟨hs, -⟩ := holding_lookup hbefore hlookup
  cases found with
  | some result =>
      rw [run_of_found hlookup] at h
      cases h
  | none =>
      obtain ⟨hs', -⟩ := hcompute s hs
      rcases hrest : (p.compute timing now query list).run s with ⟨result, s'⟩
      rw [hrest] at hs'
      cases result with
      | ok result =>
          rw [run_of_ok hlookup hrest] at h
          cases h
      | error fault' =>
          rw [run_of_error hlookup hrest] at h
          cases h
          rcases holding_some.1 hs' time key v hlive with ⟨n, hn⟩ | hlive
          · exact absurd hn (hkey n)
          · exact hlive

end Pipeline

end Triage
