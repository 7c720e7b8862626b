/-
A cached score is a score that was computed a short time ago.

Scorers with any weights may share a cache.  What is found under the key of a score was kept there
by a scorer with the same weights for the same notification, it can be read only as a whole, and
only as long as it has not expired.  So what a scorer answers from the cache it has computed itself,
or another one for it, less than the time before that scores are kept.
-/
import Triage.Proofs.Calendar.Clock
import Triage.Proofs.Cache.Session
import Triage.Proofs.Pipeline.Kept
import Triage.Proofs.Score

namespace Triage

open Calendar Cache

/-! ### Scores that cannot be read back -/

theorem mapM_eq_none {α β : Type} {f : α → Option β} {l : List α} {a : α} (ha : a ∈ l)
    (h : f a = none) : l.mapM f = none := by
  induction l with
  | nil => cases ha
  | cons b rest ih =>
      rw [List.mapM_cons]
      rcases List.mem_cons.1 ha with rfl | ha
      · rw [h]
        rfl
      · cases f b with
        | none => rfl
        | some c =>
            rw [ih ha]
            rfl

namespace Score

/-- All components are finite numbers. -/
def IsFinite (s : Score) : Prop :=
  ∀ entry ∈ s.components.toList, ∃ b, Decimal.Double.ofFloat entry.2 = .finite b

/-- What is no finite number is written as `null`. -/
theorem ofFloat_eq_null {x : Float} (h : ∀ b, Decimal.Double.ofFloat x ≠ .finite b) :
    Json.ofFloat x = .null := by
  have hnone : Decimal.json? x = none := by
    unfold Decimal.json?
    split
    · rfl
    · rfl
    · rename_i b hb
      exact absurd hb (h b)
  rw [Json.ofFloat, hnone]

/-- A score with a component that is no finite number cannot be read back. -/
theorem isFinite_of_ofJson {s found : Score} (h : ofJson s.toJson = some found) : s.IsFinite := by
  intro entry hentry
  by_contra hbroken
  have hnull := ofFloat_eq_null (not_exists.1 hbroken)
  have hcomponents : Factors.numbersOfJson (Factors.numbersToJson s.components) = none := by
    have hmember : (some entry.1, Json.ofFloat entry.2) ∈
        (s.components.toList.map fun component => (component.1, Json.ofFloat component.2)).map
          fun member => (some member.1, member.2) := by
      simp only [List.map_map, List.mem_map, Function.comp_apply]
      exact ⟨entry, hentry, rfl⟩
    rw [Factors.numbersOfJson, Factors.numbersToJson, Json.obj, Json.asMembers]
    refine congrArg (Option.map SortedMap.ofList) (mapM_eq_none hmember ?_)
    rw [hnull]
    rfl
  rw [ofJson, toJson, Json.asRecord_obj (by simp)] at h
  simp only [Option.bind_eq_bind, Option.bind_some, Json.Record.required, List.lookup_cons,
    String.reduceBEq, hcomponents, Option.bind_none] at h
  obtain ⟨_, -, h⟩ := Option.bind_eq_some_iff.1 h
  cases h

end Score

/-- The bytes that are hashed come character by character, without the text as a whole. -/
theorem Factors.fingerprint_eq (f : Factors) (hash : Hash) : f.fingerprint hash =
    hash (f.toJson.compactChars.flatMap String.utf8EncodeChar ++ [0xff]) := by
  rw [fingerprint, textPart, bytesOfText_eq_flatMap, Json.compact, String.toList_ofList]

/-! ### Asking for scores -/

/-- A scorer is asked for the score of a notification. -/
structure Ask where
  scorer : Scorer
  now : Instant
  record : Notification

namespace Ask

variable {a b : Ask} {asks done : List Ask} {session : Session} {score : Score}

/-- The key of the score. -/
def key (a : Ask) : String := a.scorer.cacheKey a.record

/-- The score as the scorer computes it at a time. -/
def scoreAt (a : Ask) (time : Instant) : Score := a.scorer.compute a.record time

/-- The answer, by way of the cache if there is one. -/
def run (a : Ask) : WithCache Score := a.scorer.score a.now a.record

/-- The answers to several, one after the other. -/
def runAll (asks : List Ask) : WithCache (List Score) := asks.mapM Ask.run

theorem runAll_cons (a : Ask) (rest : List Ask) (s : Option Session) :
    ((runAll (a :: rest)).run s).1 =
      (a.run.run s).1 :: ((runAll rest).run (a.run.run s).2).1 := by
  rw [runAll, List.mapM_cons]
  rfl

/-- Two scorers may share a cache: they keep scores for one time, their weights are told by the
fingerprint, and their notifications by the identifier and the second of the last change. -/
structure Agrees (a b : Ask) : Prop where
  time : a.scorer.cacheTime = b.scorer.cacheTime
  weights : a.scorer.fingerprint = b.scorer.fingerprint → a.scorer.factors = b.scorer.factors
  record : a.record.id = b.record.id → a.record.updatedAt.seconds = b.record.updatedAt.seconds →
    a.record = b.record

/-- What was asked for is the same where the keys are. -/
theorem Agrees.scoreAt_eq (h : a.Agrees b) (hkey : a.key = b.key) (time : Instant) :
    a.scoreAt time = b.scoreAt time := by
  obtain ⟨hweights, hid, hsecond⟩ := Scorer.cacheKey_inj hkey
  rw [scoreAt, scoreAt, Scorer.compute, Scorer.compute, h.weights hweights, h.record hid hsecond]

/-- What may be found in the cache: what one of the asks has kept there. -/
def Kept (done : List Ask) (time : Int) (key : String) (v : MessagePack.Bytes) : Prop :=
  ∃ b ∈ done, b.key = key ∧ (Envelope.wrap b.now.toMillis (some b.scorer.cacheTime)
    (bytesOfText (b.scoreAt b.now).toJson.compact)).Shows time v

/-- The score is computed now, or it has the total that was computed at the time of another ask,
less than the time before that scores are kept. -/
def Recent (asks : List Ask) (a : Ask) (score : Score) : Prop :=
  score = a.scoreAt a.now ∨ ∃ b ∈ asks, a.now.before b.now = false ∧
    b.now.nanosBetween a.now < a.scorer.cacheTime * 1000000 ∧ (a.scoreAt b.now).IsFinite ∧
    score.total = (a.scoreAt b.now).total

theorem Recent.mono (h : a.Recent done score) (hdone : ∀ b ∈ done, b ∈ asks) :
    Recent asks a score :=
  h.imp_right fun ⟨b, hb, hrest⟩ => ⟨b, hdone b hb, hrest⟩

/-- What is read of an entry that was found is the score that was kept, and that less than the time
before that scores are kept. -/
theorem recent_of_kept {v : MessagePack.Bytes}
    (hdone : ∀ b ∈ done, a.Agrees b ∧ b.now.Shown ∧ b.now.Forward a.now)
    (hkept : Kept done a.now.toMillis a.key v)
    (hscore : (jsonOfBytes? v).bind Score.ofJson = some score) : a.Recent done score := by
  obtain ⟨b, hb, hkey, hfront, hfresh⟩ := hkept
  obtain ⟨hagrees, hshown, hforward⟩ := hdone b hb
  obtain ⟨found, hfound, hdecode⟩ := Option.bind_eq_some_iff.1 hscore
  obtain ⟨rfl, hwhole⟩ := eq_of_jsonOfBytes? (Score.writable_toJson _)
    (Score.isBracketed_toJson _) hfront hfound
  have hnow : a.now.toMillis < b.now.toMillis + a.scorer.cacheTime := by
    have hexpiry : ∀ time ∈ (Envelope.wrap b.now.toMillis (some b.scorer.cacheTime)
        (bytesOfText (b.scoreAt b.now).toJson.compact)).expiresAt, IsTime time := by
      rw [wrap_eq (Instant.isTime_toMillis hshown.valid)]
      exact fun time => @isTime_of_mem_expiry b.now.toMillis time (some b.scorer.cacheTime)
    have hlive := hfresh hexpiry hwhole
    rw [hagrees.time]
    simp only [Envelope.wrap, Envelope.isExpired, Option.map_some, Option.any_some,
      decide_eq_false_iff_not] at hlive
    omega
  rw [← hagrees.scoreAt_eq hkey.symm] at hdecode
  exact .inr ⟨b, hb, hforward.notBefore, Instant.nanosBetween_lt hshown hforward.shown hnow,
    Score.isFinite_of_ofJson hdecode, Score.total_of_ofJson hdecode⟩

theorem agrees_refl (a : Ask) : a.Agrees a := ⟨rfl, fun _ => rfl, fun _ _ => rfl⟩

/-- An answer is recent, and all that can be found afterwards was kept by this ask or another. -/
theorem recent_run {s : Option Session} (hs : Holding (Kept done) s) (hshown : a.now.Shown)
    (hdone : ∀ b ∈ done, a.Agrees b ∧ b.now.Shown ∧ b.now.Forward a.now) :
    a.Recent (done ++ [a]) (a.run.run s).1 ∧ Holding (Kept (done ++ [a])) (a.run.run s).2 := by
  cases s with
  | none => exact ⟨.inl rfl, holding_none⟩
  | some session =>
      have hall : ∀ b ∈ done ++ [a], a.Agrees b ∧ b.now.Shown ∧ b.now.Forward a.now := by
        intro b hb
        rcases List.mem_append.1 hb with hb | hb
        · exact hdone b hb
        · rw [List.mem_singleton.1 hb]
          exact ⟨a.agrees_refl, hshown, hshown.forward⟩
      have hbefore : session.Sound (Kept (done ++ [a])) := by
        intro time key v hlive
        obtain ⟨b, hb, hrest⟩ := holding_some.1 hs time key v hlive
        exact ⟨b, List.mem_append_left _ hb, hrest⟩
      obtain ⟨hafter, hscore⟩ := Pipeline.sound_scoreIn hbefore fun time v hshows =>
        ⟨a, List.mem_append_right _ (List.mem_singleton_self a), rfl, hshows⟩
      refine ⟨?_, holding_some.2 hafter⟩
      rcases hscore with hscore | ⟨v, hkept, hscore⟩
      · exact .inl hscore
      · exact recent_of_kept hall hkept hscore

/-- All answers are recent, whatever was asked before. -/
theorem recent_runAll {start : Instant} {s : Option Session} (hs : Holding (Kept done) s)
    (hclock : (start :: asks.map Ask.now).IsChain Instant.Forward)
    (hdone : ∀ b ∈ done, b.now.Shown ∧ b.now.Forward start)
    (hagree : ∀ a ∈ asks, ∀ b ∈ done ++ asks, a.Agrees b) :
    List.Forall₂ (Recent (done ++ asks)) asks ((runAll asks).run s).1 := by
  induction asks generalizing done start s with
  | nil => exact .nil
  | cons a rest ih =>
      obtain ⟨hfirst, hrest⟩ := List.isChain_cons_cons.1 hclock
      have hbefore : ∀ b ∈ done, a.Agrees b ∧ b.now.Shown ∧ b.now.Forward a.now := by
        intro b hb
        obtain ⟨hshown, hstart⟩ := hdone b hb
        exact ⟨hagree a List.mem_cons_self b (List.mem_append_left _ hb), hshown,
          hstart.trans hfirst⟩
      obtain ⟨hrecent, hafter⟩ := recent_run hs hfirst.shown hbefore
      have hdone' : ∀ b ∈ done ++ [a], b.now.Shown ∧ b.now.Forward a.now := by
        intro b hb
        rcases List.mem_append.1 hb with hb | hb
        · exact (hbefore b hb).2
        · rw [List.mem_singleton.1 hb]
          exact ⟨hfirst.shown, hfirst.shown.forward⟩
      have hsplit : done ++ a :: rest = done ++ [a] ++ rest := by simp
      rw [runAll_cons, hsplit]
      refine .cons (hrecent.mono fun b hb => List.mem_append_left _ hb) ?_
      exact ih hafter hrest hdone' fun c hc b hb =>
        hagree c (List.mem_cons_of_mem _ hc) b (hsplit ▸ hb)

/-- An entry that cannot be read as a score is as good as none. -/
theorem run_of_unread {session : Session} (h : ∀ v, session.find a.now.toMillis a.key = .live v →
    (jsonOfBytes? v).bind Score.ofJson = none) :
    (a.run.run (some session)).1 = a.scoreAt a.now := by
  have hnone : (session.getJson a.now.toMillis a.key Score.ofJson).1 = none := by
    show (((session.get a.now.toMillis a.key).1.bind jsonOfBytes?).bind Score.ofJson) = none
    cases hget : (session.get a.now.toMillis a.key).1 with
    | none => rfl
    | some v => exact h v (Session.find_of_get_eq_some hget)
  show (a.scorer.scoreIn a.now a.record session).1 = _
  unfold Scorer.scoreIn
  rcases hfound : session.getJson a.now.toMillis a.key Score.ofJson with ⟨found, after⟩
  rw [hfound] at hnone
  cases hnone
  rw [key] at hfound
  rw [hfound]
  rfl

theorem map_eq_of_forall₂ {α β γ : Type} {R : α → β → Prop} {f : β → γ} {g : α → γ} {l : List α}
    {l' : List β} (h : List.Forall₂ R l l') (heq : ∀ a ∈ l, ∀ b, R a b → f b = g a) :
    l'.map f = l.map g := by
  induction h with
  | nil => rfl
  | cons hfirst _ ih =>
      rw [List.map_cons, List.map_cons, heq _ List.mem_cons_self _ hfirst,
        ih fun a ha => heq a (List.mem_cons_of_mem _ ha)]

/--
**A cached score is one that was computed a short time ago.**  Scorers with any weights share a new
cache of any kind, on a clock that goes forward.  Weights are told by their fingerprint,
notifications by the identifier and the second of the last change, and scores are kept for one time.
Every answer is the score as the scorer computes it now, or has the total that it computes for the
same notification at an earlier time, less than the time before that scores are kept.  While the
clock stands still it is the total of now.  An entry that cannot be read is computed again, and a
score with a component that is no finite number is never read.
-/
theorem runAll_recent (settings : Settings) (session : Session)
    (hopen : ofSettings settings (.ok {}) = .ok session) (asks : List Ask) (start : Instant)
    (hclock : (start :: asks.map Ask.now).IsChain Instant.Forward)
    (hagree : ∀ a ∈ asks, ∀ b ∈ asks, a.Agrees b) :
    List.Forall₂ (Recent asks) asks ((runAll asks).run (some session)).1 ∧
    ((∀ a ∈ asks, a.now = start) → ((runAll asks).run (some session)).1.map Score.total =
      asks.map fun a => (a.scoreAt a.now).total) ∧
    ∀ (a : Ask) (s : Session),
      (∀ v, s.find a.now.toMillis a.key = .live v → (jsonOfBytes? v).bind Score.ofJson = none) →
        (a.run.run (some s)).1 = a.scoreAt a.now := by
  have hrecent : List.Forall₂ (Recent asks) asks ((runAll asks).run (some session)).1 :=
    recent_runAll (holding_some.2 (sound_ofSettings hopen (Kept []))) hclock (by simp) hagree
  refine ⟨hrecent, fun hstill => ?_, fun a s => run_of_unread⟩
  refine map_eq_of_forall₂ hrecent fun a ha score hscore => ?_
  rcases hscore with rfl | ⟨b, hb, -, -, -, htotal⟩
  · rfl
  · rw [htotal, hstill b hb, hstill a ha]

/-- Two sets of weights that differ in the weight of a repository, and identifiers of which one goes
on after a colon.  After ten minutes a score is computed again. -/
theorem runAll_recent_expired :
    let plain : Scorer := {}
    let other : Scorer := { factors := Factors.initial.putRepository "octo/hello" 1.0 }
    let record (id : String) : Notification :=
      .build id "octo/hello" .issue "" .mention true ⟨0, 0⟩
    let asks : List Ask := [⟨plain, ⟨0, 0⟩, record "1:0"⟩, ⟨other, ⟨0, 0⟩, record "1:0"⟩,
      ⟨plain, ⟨0, 0⟩, record "1"⟩, ⟨plain, ⟨600, 0⟩, record "1:0"⟩]
    ofSettings {} (.ok {}) = .ok Session.initial ∧
      (⟨0, 0⟩ :: asks.map Ask.now).IsChain Instant.Forward ∧
      (∀ a ∈ asks, ∀ b ∈ asks, a.Agrees b) ∧
      ((runAll asks).run (some .initial)).1.map Score.total =
        asks.map fun a => (a.scoreAt a.now).total := by
  intro plain other record asks
  have hdifferent : plain.fingerprint ≠ other.fingerprint := by
    rw [Scorer.fingerprint, Scorer.fingerprint, Factors.fingerprint_eq, Factors.fingerprint_eq]
    decide +kernel
  have hclock : (⟨0, 0⟩ :: asks.map Ask.now).IsChain Instant.Forward :=
    .cons_cons (by decide) (.cons_cons (by decide) (.cons_cons (by decide)
      (.cons_cons (by decide) (.singleton _))))
  have hscorer : ∀ a ∈ asks, a.scorer = plain ∨ a.scorer = other := by simp [asks]
  have htime : ∀ a ∈ asks, a.scorer.cacheTime = 300000 := by
    intro a ha
    rcases hscorer a ha with h | h <;> simp [h, plain, other, Scorer.cacheTime]
  have hnow : ∀ a ∈ asks, a.now = ⟨0, 0⟩ ∨ a.now = ⟨600, 0⟩ := by simp [asks]
  have hrecord : ∀ a ∈ asks, a.record = record "1:0" ∨ a.record = record "1" := by simp [asks]
  have hagree : ∀ a ∈ asks, ∀ b ∈ asks, a.Agrees b := by
    intro a ha b hb
    refine ⟨?_, fun hweights => ?_, fun hid _ => ?_⟩
    · exact (htime a ha).trans (htime b hb).symm
    · rcases hscorer a ha with h | h <;> rcases hscorer b hb with h' | h' <;> rw [h, h'] at hweights ⊢
      · exact absurd hweights hdifferent
      · exact absurd hweights.symm hdifferent
    · rcases hrecord a ha with h | h <;> rcases hrecord b hb with h' | h' <;> rw [h, h'] at hid ⊢
      · exact absurd hid (by decide)
      · exact absurd hid (by decide)
  obtain ⟨hrecent, -, -⟩ := runAll_recent {} .initial ofSettings_initial asks ⟨0, 0⟩ hclock hagree
  refine ⟨ofSettings_initial, hclock, hagree, map_eq_of_forall₂ hrecent fun a ha score hscore => ?_⟩
  rcases hscore with rfl | ⟨b, hb, hle, hlt, -, htotal⟩
  · rfl
  -- no earlier ask is less than five minutes before
  · have hsame : b.now = a.now := by
      rw [htime a ha] at hlt
      rcases hnow a ha with h | h <;> rcases hnow b hb with h' | h' <;> rw [h, h'] at hle hlt ⊢
      · exact absurd hle (by decide)
      · exact absurd hlt (by decide)
    rw [htotal, hsame]

end Ask

end Triage
