/-
Scores of notifications that were updated.

The key of a score tells the identifier and the second of the last change, and nothing else of the
notification.  So notifications never get each other's scores from a new cache as long as there is
nothing that the key should have told: those that share an identifier and a second share a total.
Of two that do not, changed within one second, the later one is served the score of the earlier one
by every cache that keeps it.
-/
import Triage.Proofs.Cache.Session
import Triage.Proofs.Pipeline.Kept
import Triage.Proofs.Scorer

namespace Triage

open Calendar Cache

namespace Scorer

variable {s : Scorer} {now : Instant} {records list : List Notification} {n a b : Notification}
  {settings : Settings} {session : Session}

/-- The total score of a notification without a cache. -/
def ownTotal (s : Scorer) (now : Instant) (n : Notification) : UInt8 := (s.compute n now).total

/-- The total scores of several notifications, one after the other. -/
def totals (s : Scorer) (now : Instant) (list : List Notification) : WithCache (List UInt8) :=
  list.mapM (s.total now)

/-! ### Notifications that the key tells apart -/

/-- Of notifications with one identifier and one second of the last change, all have one total. -/
def ToldApart (s : Scorer) (now : Instant) (records : List Notification) : Prop :=
  ∀ a ∈ records, ∀ b ∈ records, a.id = b.id → a.updatedAt.seconds = b.updatedAt.seconds →
    s.ownTotal now a = s.ownTotal now b

/-- What may be kept under a key: the score of one of the notifications. -/
def Kept (s : Scorer) (now : Instant) (records : List Notification) (key : String) (json : Json) :
    Prop :=
  ∃ n ∈ records, s.cacheKey n = key ∧ json = (s.compute n now).toJson

/-- Among notifications that are told apart each gets its own total, and the scores that are kept
stay those of the notifications. -/
theorem ToldApart.yields_total (h : s.ToldApart now records) (hn : n ∈ records) :
    Yields (Holding (Session.FrontOf (s.Kept now records))) True (s.total now n)
      (s.ownTotal now n) := by
  refine Pipeline.yields_scorerTotal (fun _ v hv => ?_) fun _ _ v score hv hscore => ?_
  · exact ⟨_, ⟨n, hn, rfl, rfl⟩, Score.writable_toJson _, Score.isBracketed_toJson _, hv⟩
  · obtain ⟨json, ⟨m, hm, hkey, rfl⟩, hread⟩ := hv.decode hscore
    obtain ⟨-, hid, hsecond⟩ := cacheKey_inj hkey
    exact (Score.total_of_ofJson hread).trans (h m hm n hn hid hsecond)

/-- Notifications that are told apart get their own totals, in any order and any number of times. -/
theorem ToldApart.totals_eq (h : s.ToldApart now records)
    (hopen : ofSettings settings (.ok {}) = .ok session) (hlist : ∀ n ∈ list, n ∈ records) :
    ((s.totals now list).run (some session)).1 = list.map (s.ownTotal now) :=
  (Yields.mapM (fun n hn => h.yields_total (hlist n hn)) _
    (holding_some.2 (sound_ofSettings hopen _))).2 trivial

/-! ### Caches that keep nothing -/

/-- A cache that keeps nothing computes every score. -/
theorem yields_total_of_nowhere :
    Yields (fun state => ∃ session, state = some session ∧ session.cache.place = .nowhere) True
      (s.total now n) (s.ownTotal now n) := by
  rintro _ ⟨session, rfl, hplace⟩
  have hget : session.getJson now.toMillis (s.cacheKey n) Score.ofJson = (none, session) := by
    simp [Session.getJson, Session.get, hplace, Place.find, Finding.value?, Finding.isStale,
      Session.record]
  have hscore : s.scoreIn now n session = (s.compute n now, session.setJson now.toMillis
      (s.cacheKey n) (s.compute n now).toJson (some s.cacheTime)) := by
    rw [scoreIn, hget]
  show (∃ after, some (s.scoreIn now n session).2 = some after ∧ _) ∧ _
  rw [hscore]
  refine ⟨⟨_, rfl, ?_⟩, fun _ => ?_⟩
  · simp [Session.setJson, Session.set, Session.record, hplace, Place.store, Session.moveTo]
  · show (s.scoreIn now n session).1.total = _
    rw [hscore]
    rfl

theorem totals_eq_of_null (hopen : ofSettings settings (.ok {}) = .ok session)
    (hnull : settings.backend = .null) :
    ((s.totals now list).run (some session)).1 = list.map (s.ownTotal now) := by
  have hplace : session.cache.place = .nowhere := by
    have hsession := openIn_of_ofSettings hopen
    rw [hnull, openIn] at hsession
    cases hsession
    rfl
  exact (Yields.mapM (fun n _ => yields_total_of_nowhere) _ ⟨session, rfl, hplace⟩).2 trivial

/-! ### Notifications that the key does not tell apart -/

/-- A cache can keep a value as it is: in memory any, in a store one that is not too long. -/
def Fits (backend : Backend) (value : MessagePack.Bytes) : Prop :=
  backend = .memory ∨ backend ≠ .null ∧ value.length < UInt32.size

/-- In a new cache a value is found at the time that it is stored at. -/
theorem get_set_of_new (hopen : ofSettings settings (.ok {}) = .ok session) {time : Int} {ttl : Nat}
    {value : MessagePack.Bytes} (htime : IsTime time) (hlast : time < lastTime) (httl : 0 < ttl)
    (hfits : Fits settings.backend value) (key : String) :
    (((session.get time key).2.set time key value (some ttl)).get time key).1 = some value := by
  have hsession := openIn_of_ofSettings hopen
  rcases hfits with hmemory | ⟨hstoring, hlength⟩
  · have hinside : session.InMemory := by
      rw [hmemory, openIn] at hsession
      cases hsession
      exact ⟨_, rfl⟩
    have hfound : ((session.get time key).2.set time key value (some ttl)).find time key =
        .live value :=
      Session.find_set_of_inMemory (hinside.get time key) httl hlast value
    show (Session.find _ time key).value? = _
    rw [hfound]
    rfl
  · have hagrees := agrees_openIn htime hstoring hsession
    have hset := (hagrees.get key).2.set key hlength (some ttl)
    have hlive : Reference.isLive time ⟨value, Reference.expiry time (some ttl)⟩ = true := by
      rw [lastTime] at hlast
      simp only [Reference.isLive, Reference.expiry, Option.map_some, Reference.saturate, firstTime,
        lastTime, decide_eq_true_eq]
      have hfirst : firstTime ≤ time := htime.1
      rw [firstTime] at hfirst
      omega
    refine (hset.get key).1.trans ?_
    rw [Reference.step_get_of_live (if_pos rfl) hlive]

/-- Nothing is found in a new cache. -/
theorem scoreIn_of_new (hopen : ofSettings settings (.ok {}) = .ok session) :
    s.scoreIn now n session = (s.compute n now,
      (session.get now.toMillis (s.cacheKey n)).2.setJson now.toMillis (s.cacheKey n)
        (s.compute n now).toJson (some s.cacheTime)) := by
  have hnothing := sound_ofSettings hopen fun _ _ _ => False
  obtain ⟨-, hfound⟩ := hnothing.getJson now.toMillis (s.cacheKey n) Score.ofJson
  have hnone : (session.getJson now.toMillis (s.cacheKey n) Score.ofJson).1 = none := by
    rw [Option.eq_none_iff_forall_ne_some]
    intro score hscore
    obtain ⟨v, hfalse, -⟩ := hfound score hscore
    exact hfalse
  rw [scoreIn]
  rcases hget : session.getJson now.toMillis (s.cacheKey n) Score.ofJson with ⟨found, after⟩
  rw [hget] at hnone
  cases hnone
  have hafter : (session.get now.toMillis (s.cacheKey n)).2 = after := congrArg Prod.snd hget
  rw [hafter]

/-- Of two notifications with one key the second one is served the score of the first one, if that
can be read back. -/
theorem totals_of_cacheKey_eq (hopen : ofSettings settings (.ok {}) = .ok session)
    (hkey : s.cacheKey b = s.cacheKey a) (hnow : now.Shown) (hlast : now.toMillis < lastTime)
    (hkept : 0 < s.cacheTime)
    (hfits : Fits settings.backend (bytesOfText (s.compute a now).toJson.compact)) :
    ((s.totals now [a, b]).run (some session)).1 =
      [s.ownTotal now a, if (Score.ofJson (s.compute a now).toJson).isSome then s.ownTotal now a
        else s.ownTotal now b] := by
  let after := (s.scoreIn now a session).2
  have hvalue : (after.getJson now.toMillis (s.cacheKey b) Score.ofJson).1 =
      Score.ofJson (s.compute a now).toJson := by
    have hget := get_set_of_new hopen (Instant.isTime_toMillis hnow.valid) hlast hkept hfits (s.cacheKey a)
    have hafter : after = _ := congrArg Prod.snd (scoreIn_of_new (s := s) (n := a) hopen)
    show (((after.get now.toMillis (s.cacheKey b)).1.bind jsonOfBytes?).bind Score.ofJson) = _
    rw [hkey, hafter]
    show (((Session.get (Session.set _ _ _ _ _) now.toMillis (s.cacheKey a)).1.bind
      jsonOfBytes?).bind Score.ofJson) = _
    rw [hget, Option.bind_some, jsonOfBytes?_compact (Score.writable_toJson _), Option.bind_some]
  have hfirst : (s.scoreIn now a session).1.total = s.ownTotal now a := by
    rw [scoreIn_of_new hopen]
    rfl
  have hsecond : (s.scoreIn now b after).1.total =
      if (Score.ofJson (s.compute a now).toJson).isSome then s.ownTotal now a
        else s.ownTotal now b := by
    rw [scoreIn]
    rcases hget : after.getJson now.toMillis (s.cacheKey b) Score.ofJson with ⟨found, final⟩
    rw [hget] at hvalue
    rw [← hvalue]
    cases found with
    | none => rfl
    | some score => exact Score.total_of_ofJson hvalue.symm
  show [(s.scoreIn now a session).1.total, (s.scoreIn now b after).1.total] = _
  rw [hfirst, hsecond]

/-! ### Updates -/

/-- Two notifications that were changed in different seconds are told apart. -/
theorem toldApart_of_seconds_ne (hsecond : a.updatedAt.seconds ≠ b.updatedAt.seconds)
    (hlist : ∀ n ∈ list, n = a ∨ n = b) : s.ToldApart now list := by
  intro m hm n hn _ hsame
  rcases hlist m hm with rfl | rfl <;> rcases hlist n hn with rfl | rfl
  · rfl
  · exact absurd hsame hsecond
  · exact absurd hsame.symm hsecond
  · rfl

/--
**An update is told by its second.**  On a clock that stands still, over a new cache of any kind,
notifications get the totals that are computed for them, in any order and any number of times, if
those that share an identifier and a second share a total, or if the cache keeps nothing.  So two
notifications with one identifier get their own totals if they were changed in different seconds.
If they were changed within one second, the second one is served the total of the first one,
wherever that can be kept and read back.
-/
theorem totals_tell_seconds (settings : Settings) (session : Session)
    (hopen : ofSettings settings (.ok {}) = .ok session) (s : Scorer) (now : Instant) :
    (∀ list, s.ToldApart now list ∨ settings.backend = .null →
      ((s.totals now list).run (some session)).1 = list.map (s.ownTotal now)) ∧
    ∀ a b : Notification, a.id = b.id →
      (a.updatedAt.seconds ≠ b.updatedAt.seconds → ∀ list, (∀ n ∈ list, n = a ∨ n = b) →
        ((s.totals now list).run (some session)).1 = list.map (s.ownTotal now)) ∧
      (a.updatedAt.seconds = b.updatedAt.seconds → now.Shown → now.toMillis < lastTime →
        0 < s.cacheTime → Fits settings.backend (bytesOfText (s.compute a now).toJson.compact) →
          ((s.totals now [a, b]).run (some session)).1 =
            [s.ownTotal now a, if (Score.ofJson (s.compute a now).toJson).isSome
              then s.ownTotal now a else s.ownTotal now b]) := by
  refine ⟨fun list h => ?_, fun a b hid => ⟨fun hsecond list hlist => ?_, ?_⟩⟩
  · rcases h with h | hnull
    · exact h.totals_eq hopen fun n hn => hn
    · exact totals_eq_of_null hopen hnull
  · exact (toldApart_of_seconds_ne hsecond hlist).totals_eq hopen fun n hn => hn
  · intro hsecond hnow hlast hkept hfits
    have hkey : s.cacheKey b = s.cacheKey a := by rw [cacheKey, cacheKey, hid, hsecond]
    exact totals_of_cacheKey_eq hopen hkey hnow hlast hkept hfits

/-- An issue that became a pull request a second later, and a commit half a second later. -/
theorem totals_tell_seconds_half :
    let s : Scorer := {}
    let now : Instant := ⟨60, 0⟩
    let record (type : SubjectType) (updatedAt : Instant) : Notification :=
      .build "1" "octo/hello" type "" .mention true updatedAt
    let issue := record .issue ⟨0, 0⟩
    let later := record .pullRequest ⟨1, 0⟩
    let soon := record .commit ⟨0, 500000000⟩
    ofSettings {} (.ok {}) = .ok Session.initial ∧
      ((s.totals now [issue, later, later, issue]).run (some .initial)).1 =
        [s.ownTotal now issue, s.ownTotal now later, s.ownTotal now later,
          s.ownTotal now issue] ∧
      ((s.totals now [issue, soon]).run (some .initial)).1 =
        [s.ownTotal now issue, if (Score.ofJson (s.compute issue now).toJson).isSome
          then s.ownTotal now issue else s.ownTotal now soon] := by
  intro s now record issue later soon
  obtain ⟨-, hpairs⟩ := totals_tell_seconds {} .initial ofSettings_initial s now
  obtain ⟨hlater, -⟩ := hpairs issue later rfl
  obtain ⟨-, hsoon⟩ := hpairs issue soon rfl
  refine ⟨ofSettings_initial, ?_, ?_⟩
  · exact hlater (by decide) [issue, later, later, issue] (by simp)
  · exact hsoon rfl (by decide) (by decide) (by decide) (.inl rfl)

end Scorer

end Triage
