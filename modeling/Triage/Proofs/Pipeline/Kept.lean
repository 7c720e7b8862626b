/-
A result that was kept is served to every run with its key.

The key is all that a later run is told by: as long as an entry in memory has not expired, another
pipeline gets it as well, and other notifications too if they are marked alike.
-/
import Triage.Proofs.Pipeline.Agreement

namespace Triage

open Calendar Cache

namespace Cache.Session

variable {s : Session} {now : Int} {key : String} {value : MessagePack.Bytes}

/-- The entries of the cache are in memory. -/
def InMemory (s : Session) : Prop := ∃ entries, s.cache.place = .memory entries

theorem place_record (s : Session) (events : List Event) :
    (s.record events).cache.place = s.cache.place := by
  unfold record
  split <;> rfl

theorem InMemory.get (h : s.InMemory) (now : Int) (key : String) : (s.get now key).2.InMemory := by
  obtain ⟨entries, hentries⟩ := h
  have hplace := (s.place_record (.get :: (s.cache.place.find s.storage now key).events)).trans
    hentries
  unfold Session.get
  simp only
  split
  · rw [InMemory, hplace, Place.evict]
    split <;> exact ⟨_, rfl⟩
  · exact ⟨entries, hplace⟩

theorem InMemory.set (h : s.InMemory) (now : Int) (key : String) (value : MessagePack.Bytes)
    (ttl : Option Nat) : (s.set now key value ttl).InMemory := by
  obtain ⟨entries, hentries⟩ := h
  unfold Session.set
  simp only
  rw [place_record, hentries]
  exact ⟨_, rfl⟩

/-- A live entry stays where it is when it is read. -/
theorem find_get_of_live (h : s.find now key = .live value) :
    (s.get now key).2.find now key = .live value := by
  rw [find] at h
  unfold Session.get
  simp only [h, Finding.isStale, Bool.false_eq_true, if_false]
  rw [find_record]
  exact h

/-- In memory a value is found as long as it has not expired. -/
theorem find_set_of_inMemory (h : s.InMemory) {ttl : Nat} (httl : 0 < ttl) (hnow : now < lastTime)
    (value : MessagePack.Bytes) : (s.set now key value (some ttl)).find now key = .live value := by
  obtain ⟨entries, hentries⟩ := h
  have hfresh : (Envelope.wrap now (some ttl) value).isExpired now = false := by
    rw [lastTime] at hnow
    simp only [Envelope.wrap, Envelope.isExpired, Option.map_some, Option.any_some, lastTime,
      decide_eq_false_iff_not]
    omega
  unfold Session.set
  simp only
  rw [place_record, hentries, Place.store, moveTo, find, Place.find, SortedMap.get?_insert,
    if_pos rfl]
  simp only [Finding.ofEnvelope, hfresh, Bool.false_eq_true, if_false]
  rfl

end Cache.Session

namespace Pipeline

variable {p : Pipeline} {timing : Timing} {now : Instant} {query : String}
  {list : List Notification}

theorem lookup_some (s : Session) (key : String) : (lookup key now).run (some s) =
    (((s.get now.toMillis key).1.bind jsonOfBytes?).bind Notification.listOfJson,
      some (s.get now.toMillis key).2) := rfl

theorem lookup_of_live {s : Session} {key : String} {v : MessagePack.Bytes}
    (h : s.find now.toMillis key = .live v)
    (hv : (jsonOfBytes? v).bind Notification.listOfJson = some list) :
    (lookup key now).run (some s) = (some list, some (s.get now.toMillis key).2) := by
  have hget : (s.get now.toMillis key).1 = some v := by
    show (s.find now.toMillis key).value? = some v
    rw [h]
    rfl
  rw [lookup_some, hget, Option.bind_some, hv]

theorem inMemory_scoreIn {s : Session} (h : s.InMemory) (scorer : Scorer) (now : Instant)
    (n : Notification) : (scorer.scoreIn now n s).2.InMemory := by
  have hget : (s.getJson now.toMillis (scorer.cacheKey n) Score.ofJson).2.InMemory :=
    h.get now.toMillis (scorer.cacheKey n)
  unfold Scorer.scoreIn
  rcases hfound : s.getJson now.toMillis (scorer.cacheKey n) Score.ofJson with ⟨found, after⟩
  rw [hfound] at hget
  cases found with
  | none => exact hget.set _ _ _ _
  | some score => exact hget

/-- Computing a result leaves a cache in memory. -/
theorem inMemory_compute {s : Session} (h : s.InMemory) {s' : Option Session}
    {result : Except Error (List Notification)}
    (hrun : (p.compute timing now query list).run (some s) = (result, s')) :
    ∃ after, s' = some after ∧ after.InMemory := by
  let Keeps (s : Option Session) : Prop := ∃ session, s = some session ∧ session.InMemory
  have htotal (n : Notification) : Yields Keeps False (p.total now n) (p.totalOf now n) := by
    rintro _ ⟨session, rfl, hsession⟩
    rw [total]
    split
    · exact ⟨⟨_, rfl, inMemory_scoreIn hsession p.scorer now n⟩, False.elim⟩
    · exact ⟨⟨_, rfl, hsession⟩, False.elim⟩
  have hcompute : Yields Keeps False (p.compute timing now query list)
      (p.plainResult timing now query list) := yields_compute fun _ n _ => htotal n
  have hafter := (hcompute (some s) ⟨s, rfl, h⟩).1
  rwa [hrun] at hafter

end Pipeline

/-- **A result is served to every run with its key**, whichever pipeline computed it and over
whichever notifications. -/
theorem Call.run_of_key_eq {c c' : Call} {s : Session} {s' : Option Session}
    {list : List Notification} (hmemory : s.InMemory)
    (hrun : c.run.run (some s) = (.ok list, s')) (hproper : ∀ n ∈ list, n.Proper)
    (hkept : 0 < c.pipeline.resultTime) (hlast : c.now.toMillis < lastTime)
    (hkey : c'.key = c.key) (hnow : c'.now = c.now) : (c'.run.run s').1 = .ok list := by
  -- whether it was found or computed, the result is there after the first run
  have hthere : ∃ after v, s' = some after ∧ after.find c.now.toMillis c.key = .live v ∧
      (jsonOfBytes? v).bind Notification.listOfJson = some list := by
    rcases hlookup : (Pipeline.lookup c.key c.now).run (some s) with ⟨found, s₁⟩
    obtain ⟨hfound, rfl⟩ := Prod.mk.inj (hlookup.symm.trans (Pipeline.lookup_some s c.key))
    cases found with
    | some result =>
        rw [Call.run, Pipeline.run_of_found hlookup] at hrun
        cases hrun
        obtain ⟨json, hjson, hread⟩ := Option.bind_eq_some_iff.1 hfound.symm
        obtain ⟨v, hv, hjson⟩ := Option.bind_eq_some_iff.1 hjson
        exact ⟨_, v, rfl, Session.find_get_of_live (Session.find_of_get_eq_some hv),
          Option.bind_eq_some_iff.2 ⟨json, hjson, hread⟩⟩
    | none =>
        rcases hcompute : (c.pipeline.compute c.timing c.now c.query c.list).run
          (some (s.get c.now.toMillis c.key).2) with ⟨result, s₂⟩
        obtain ⟨after, rfl, hinside⟩ := Pipeline.inMemory_compute (hmemory.get _ _) hcompute
        cases result with
        | error fault =>
            rw [Call.run, Pipeline.run_of_error hlookup hcompute] at hrun
            cases hrun
        | ok result =>
            rw [Call.run, Pipeline.run_of_ok hlookup hcompute] at hrun
            cases hrun
            refine ⟨_, _, rfl, Session.find_set_of_inMemory hinside hkept hlast _, ?_⟩
            rw [jsonOfBytes?_compact (Notification.writable_listToJson _), Option.bind_some,
              Notification.listOfJson_listToJson hproper]
  obtain ⟨after, v, rfl, hlive, hv⟩ := hthere
  rw [← hkey, ← hnow] at hlive
  rw [Call.run, Pipeline.run_of_found (Pipeline.lookup_of_live hlive hv)]

/-- Of two runs with one key the second one answers with the answer of the first. -/
theorem runAll_of_key_eq {c c' : Call} {s : Session} {list : List Notification}
    (hagree : Agree [c]) (hsound : s.Sound (Session.FrontOf (Stores [c]))) (hmemory : s.InMemory)
    (hanswer : c.answer = .ok list) (hkept : 0 < c.pipeline.resultTime)
    (hlast : c.now.toMillis < lastTime) (hkey : c'.key = c.key) (hnow : c'.now = c.now) :
    ((runAll [c, c']).run (some s)).1 = [.ok list, .ok list] := by
  have hfirst := (hagree.yields_run List.mem_cons_self (some s) (holding_some.2 hsound)).2 trivial
  rcases hrun : c.run.run (some s) with ⟨result, s'⟩
  rw [hrun] at hfirst
  obtain rfl : result = .ok list := hfirst.trans hanswer
  have hsecond := Call.run_of_key_eq hmemory hrun
    (hagree.proper_of_answer List.mem_cons_self hanswer) hkept hlast hkey hnow
  rw [runAll_cons, runAll_cons, hrun]
  exact congrArg (Except.ok list :: [·]) hsecond

/-! ### Initial settings -/

/-- The pipeline that the initial settings ask for. -/
def Pipeline.initial (saved : Option (SortedMap String)) : Pipeline :=
  { scorer := {}, cachesScores := true, saved, engine := {}, sorter := .newestFirst
    resultTime := 300000 }

theorem Pipeline.ofConfig_initial (saved : Option (SortedMap String)) :
    ofConfig {} saved = .ok (initial saved) := rfl

/-- A query without names stands for its filter in every pipeline. -/
theorem Pipeline.filterOf_unread (p : Pipeline) (now : Instant) :
    p.filterOf now "is:unread" = .ok (.atom (.unread true)) := by
  rw [filterOf, Query.filterOf, Query.filterWithin]
  rfl

/-- The cache that the initial settings ask for, in memory. -/
def Cache.Session.initial : Session :=
  ⟨{ place := .memory .empty, queue := .withCapacity 100 }, {}⟩

theorem Cache.ofSettings_initial : ofSettings {} (.ok {}) = .ok Session.initial := rfl

/-- Over a new cache in memory the second of two runs with one key answers with the answer of the
first. -/
theorem runAll_initial_of_key_eq {c c' : Call} {list : List Notification} (htime : c.InTime)
    (hproper : ∀ n ∈ c.list, n.Proper) (hseconds : IdentifiedBy Instant.seconds [c])
    (hanswer : c.answer = .ok list) (hkept : 0 < c.pipeline.resultTime)
    (hlast : c.now.toMillis < lastTime) (hkey : c'.key = c.key) (hnow : c'.now = c.now) :
    ((runAll [c, c']).run (some .initial)).1 = [.ok list, .ok list] :=
  runAll_of_key_eq (agree_singleton htime hproper hseconds)
    (sound_ofSettings Cache.ofSettings_initial _) ⟨_, rfl⟩ hanswer hkept hlast hkey hnow

end Triage
