/-
What a step does to the entries of a shared cache.

`Change` lists what can take effect in a step, and what the entries of the map with expiry are after
it.  Each part of a call has one lemma that says which of them it is.  Everything that is said of
shared caches is read off this list; in particular, who removes an entry that has not expired.
-/
import Triage.Cache.Shared
import Triage.Proofs.Cache.Session

namespace Triage.Cache

variable {bucket : String} {backend : Backend} {m m' : Entries} {now : Int} {key : String}
  {e : Envelope} {rest : Rest} {rests : List (Option Rest)} {effect : Effect}

/-! ### What can take effect -/

/-- Whether the rest of a call can be left for a second step by a kind of cache. -/
def Rest.IsValid (backend : Backend) : Rest → Prop
  | .store _ e => e.Encodable
  | .evict _ => backend ≠ .sqlite

/-- Whether the entry of a map under a key has expired. -/
def Entries.HasExpired (m : Entries) (now : Int) (key : String) : Prop :=
  ∃ e, m key = some e ∧ e.isExpired now = true

theorem Entries.not_hasExpired (hentry : m key = some e) (hlive : e.isExpired now = false) :
    ¬m.HasExpired now key := by
  rintro ⟨e', hentry', hexpired⟩
  cases hentry.symm.trans hentry'
  rw [hlive] at hexpired
  cases hexpired

/-- What can take effect in a step, when clients have something left to do, and the entries after
it. -/
inductive Change (backend : Backend) (now : Int) (rests : List (Option Rest)) (m : Entries) :
    Effect → Entries → Prop
  | nothing : Change backend now rests m .nothing m
  | found {key : String} (hfresh : ¬m.HasExpired now key) :
      Change backend now rests m (.found key ((m key).map Envelope.value)) m
  | stored {key : String} {e : Envelope} (he : e.Encodable) :
      Change backend now rests m (.stored key e) (Reference.replace m key (some e))
  | deleted {key : String} :
      Change backend now rests m (.deleted key) (Reference.replace m key none)
  | cleared : Change backend now rests m .cleared fun _ => none
  | evicted {key : String} (hexpired : m.HasExpired now key) :
      Change backend now rests m (.evicted key) (Reference.replace m key none)
  /-- The entry is another one than before, and is left alone. -/
  | spared {key : String} : Change backend now rests m (.evicted key) m
  /-- The entry may be another one than before, and is removed all the same. -/
  | removed {key : String} (hbackend : backend = .lsm) (hleft : some (.evict key) ∈ rests) :
      Change backend now rests m (.evicted key) (Reference.replace m key none)

/-- Whether what takes effect makes an end of what was stored under a key before. -/
def Effect.overrides (key : String) : Effect → Bool
  | .stored other _ | .deleted other => other == key
  | .cleared => true
  | .nothing | .found .. | .evicted _ => false

theorem replace_of_ne {entry : Option Envelope} {other : String} (h : other ≠ key) :
    Reference.replace m other entry key = m key := by
  rw [Reference.replace, if_neg (Ne.symm h)]

namespace Change

theorem encodable (h : Change backend now rests m effect m') (hm : m.Encodable) :
    m'.Encodable := by
  cases h with
  | nothing | found | spared => exact hm
  | stored he =>
      refine hm.replace fun e he' => ?_
      cases he'
      exact he
  | deleted | evicted | removed => exact hm.replace nofun
  | cleared => exact nofun

/-- An entry that has not expired stays, unless it is overridden, or is removed from partitions by a
client that had this left to do. -/
theorem keeps (h : Change backend now rests m effect m') (hentry : m key = some e)
    (hlive : e.isExpired now = false) (hquiet : effect.overrides key = false)
    (hlsm : backend = .lsm → some (.evict key) ∉ rests ∨ effect ≠ .evicted key) :
    m' key = some e := by
  cases h with
  | nothing | found | spared => exact hentry
  | stored | deleted =>
      rw [replace_of_ne (by simpa [Effect.overrides] using hquiet), hentry]
  | cleared => cases hquiet
  | @evicted other hexpired =>
      have hne : other ≠ key := by
        rintro rfl
        exact Entries.not_hasExpired hentry hlive hexpired
      rw [replace_of_ne hne, hentry]
  | @removed other hbackend hleft =>
      have hne : other ≠ key := by
        rintro rfl
        rcases hlsm hbackend with h | h
        · exact h hleft
        · exact h rfl
      rw [replace_of_ne hne, hentry]

end Change

/-! ### Places -/

namespace Place

variable {place : Place} {storage : Storage}

/-- Removing an entry of no use in a second step: in memory it is looked at once more. -/
theorem Holds.evictLater (h : Holds bucket backend place storage m) (hbackend : backend ≠ .sqlite)
    (hleft : some (.evict key) ∈ rests) (now : Int) : ∃ place' storage' m',
      place.evict storage now key = some (place', storage') ∧
        Holds bucket backend place' storage' m' ∧
        Change backend now rests m (.evicted key) m' := by
  have hremove := h.remove key
  cases h with
  | table => exact absurd rfl hbackend
  | partition hlive hentries =>
      obtain ⟨place', storage', hremove, hholds⟩ := hremove
      exact ⟨place', storage', _, hremove, hholds, .removed rfl hleft⟩
  | @memory entries _ _ hentries =>
      rw [Place.evict]
      by_cases hexpired : (entries.get? key).any (·.isExpired now) = true
      · rw [if_pos hexpired]
        obtain ⟨place', storage', hremove, hholds⟩ := hremove
        rw [hentries, Option.any_eq_true] at hexpired
        exact ⟨place', storage', _, hremove, hholds, .evicted hexpired⟩
      · rw [if_neg hexpired]
        exact ⟨_, _, m, rfl, .memory hentries, .spared⟩

theorem Holds.keepsLock_evict (h : Holds bucket backend place storage m) (key : String) :
    place.keepsLock (.evict key) = true ↔ backend = .sqlite := by
  cases h <;> simp [keepsLock]

end Place

/-! ### Sessions -/

namespace Session

/-- Whether an open cache of a kind, opened for a bucket, holds the entries of a map. -/
def Holds (bucket : String) (backend : Backend) (s : Session) (m : Entries) : Prop :=
  s.cache.place.Holds bucket backend s.storage m

variable {s : Session}

theorem Holds.record (h : s.Holds bucket backend m) (events : List Event) :
    (s.record events).Holds bucket backend m := by
  unfold Session.record
  split
  · exact h
  · exact h

theorem Holds.moveTo {change : Option (Place × Storage)} (h : ∃ place storage,
    change = some (place, storage) ∧ place.Holds bucket backend storage m) (s : Session) :
    (s.moveTo change).Holds bucket backend m := by
  obtain ⟨place, storage, rfl, hholds⟩ := h
  exact hholds

theorem Holds.delete (h : s.Holds bucket backend m) (key : String) :
    (s.delete key).Holds bucket backend (Reference.replace m key none) :=
  .moveTo (Place.Holds.remove (h.record _) key) _

theorem Holds.clear (h : s.Holds bucket backend m) :
    s.clear.Holds bucket backend fun _ => none :=
  .moveTo ⟨_, _, rfl, Place.Holds.empty (h.record _)⟩ _

/-- What putting an entry in does. -/
theorem Holds.finish_store (h : s.Holds bucket backend m) (he : e.Encodable) (now : Int)
    (key : String) (rests : List (Option Rest)) :
    ∃ m', (s.finish now (.store key e)).1.Holds bucket backend m' ∧
      Change backend now rests m (s.finish now (.store key e)).2 m' :=
  ⟨_, .moveTo (Place.Holds.store h key e) _, .stored he⟩

/-- What removing an entry does that was found to have expired just before. -/
theorem Holds.finish_evict (h : s.Holds bucket backend m) (hexpired : m.HasExpired now key)
    (rests : List (Option Rest)) :
    ∃ m', (s.finish now (.evict key)).1.Holds bucket backend m' ∧
      Change backend now rests m (s.finish now (.evict key)).2 m' := by
  obtain ⟨e, hentry, hexpired'⟩ := hexpired
  exact ⟨_, .moveTo (Place.Holds.evict h hentry hexpired') _, .evicted ⟨e, hentry, hexpired'⟩⟩

/-- What the second step of a call does. -/
theorem Holds.finish (h : s.Holds bucket backend m) (hleft : some rest ∈ rests)
    (hvalid : rest.IsValid backend) (now : Int) :
    ∃ m', (s.finish now rest).1.Holds bucket backend m' ∧
      Change backend now rests m (s.finish now rest).2 m' := by
  cases rest with
  | store key e => exact h.finish_store hvalid now key rests
  | evict key =>
      obtain ⟨place, storage, m', hevict, hholds, hchange⟩ :=
        Place.Holds.evictLater h hvalid hleft now
      exact ⟨m', .moveTo ⟨place, storage, hevict, hholds⟩ _, hchange⟩

end Session

/-! ### First steps -/

/-- Whether a call can be made: values are short enough. -/
def Call.IsValid : Call → Prop
  | .set _ value _ => value.length < UInt32.size
  | .get _ | .delete _ | .clear => True

instance : (call : Call) → Decidable call.IsValid
  | .set _ value _ => inferInstanceAs (Decidable (value.length < UInt32.size))
  | .get _ | .delete _ | .clear => .isTrue trivial

/-- An envelope that is made up now can be written. -/
theorem encodable_wrap {value : MessagePack.Bytes} (hvalue : value.length < UInt32.size)
    (hnow : firstTime ≤ now) (ttl : Option Nat) : (Envelope.wrap now ttl value).Encodable := by
  refine ⟨hvalue, fun time htime => ?_⟩
  obtain ⟨ttl, -, rfl⟩ := Option.map_eq_some_iff.1 htime
  unfold IsTime
  rw [firstTime] at *
  rw [lastTime]
  omega

/-- What the first step of a call comes to: something is left, of an entry that has expired if it is
to be removed, or something has taken effect. -/
inductive Entered (bucket : String) (backend : Backend) (now : Int) (rests : List (Option Rest))
    (m : Entries) : Session × (Rest ⊕ Effect) → Prop
  | left {s : Session} {rest : Rest} (hholds : s.Holds bucket backend m)
      (hvalid : rest.IsValid backend)
      (hexpired : ∀ key, rest = .evict key → m.HasExpired now key) :
      Entered bucket backend now rests m (s, .inl rest)
  | ended {s : Session} {effect : Effect} {m' : Entries} (hholds : s.Holds bucket backend m')
      (hchange : Change backend now rests m effect m') :
      Entered bucket backend now rests m (s, .inr effect)

namespace Session

variable {s s' : Session} {call : Call}

theorem enter_left (hstart : s.start now call = (s', .inl rest))
    (hlock : s'.cache.place.keepsLock rest = false) : s.enter now call = (s', .inl rest) := by
  simp [enter, hstart, hlock]

theorem enter_locked (hstart : s.start now call = (s', .inl rest))
    (hlock : s'.cache.place.keepsLock rest = true) :
    s.enter now call = ((s'.finish now rest).1, .inr (s'.finish now rest).2) := by
  simp [enter, hstart, hlock]

theorem enter_ended (hstart : s.start now call = (s', .inr effect)) :
    s.enter now call = (s', .inr effect) := by
  simp [enter, hstart]

/-- What looking up an entry comes to. -/
theorem start_get (h : s.Holds bucket backend m) (hm : m.Encodable) (now : Int) (key : String) :
    ∃ s', s'.Holds bucket backend m ∧
      ((m.HasExpired now key ∧ s.start now (.get key) = (s', .inl (.evict key))) ∨
        (¬m.HasExpired now key ∧
          s.start now (.get key) = (s', .inr (.found key ((m key).map Envelope.value))))) := by
  have hfind := Place.Holds.find h hm now key
  refine ⟨s.record (.get :: (s.cache.place.find s.storage now key).events), h.record _, ?_⟩
  cases hentry : m key with
  | none =>
      rw [hentry] at hfind
      refine .inr ⟨?_, by rw [start, hfind]; rfl⟩
      rintro ⟨e, he, -⟩
      cases hentry.symm.trans he
  | some e =>
      rw [hentry, Place.found, Finding.ofEnvelope] at hfind
      by_cases hexpired : e.isExpired now = true
      · rw [if_pos hexpired] at hfind
        exact .inl ⟨⟨e, hentry, hexpired⟩, by rw [start, hfind]; rfl⟩
      · rw [if_neg hexpired] at hfind
        exact .inr ⟨Entries.not_hasExpired hentry (by simpa using hexpired),
          by rw [start, hfind]; rfl⟩

/-- What the first step of a call does. -/
theorem Holds.enter (h : s.Holds bucket backend m) (hm : m.Encodable) (hnow : firstTime ≤ now)
    (hvalid : call.IsValid) (rests : List (Option Rest)) :
    Entered bucket backend now rests m (s.enter now call) := by
  cases call with
  | get key =>
      obtain ⟨s', hs', ⟨hexpired, hstart⟩ | ⟨hfresh, hstart⟩⟩ := start_get h hm now key
      · have hlock := Place.Holds.keepsLock_evict hs' key
        by_cases hbackend : backend = .sqlite
        · rw [enter_locked hstart (hlock.2 hbackend)]
          obtain ⟨m', hholds, hchange⟩ := hs'.finish_evict hexpired rests
          exact .ended hholds hchange
        · rw [enter_left hstart (by simpa [hbackend] using hlock)]
          refine .left hs' hbackend fun other hother => ?_
          cases hother
          exact hexpired
      · rw [enter_ended hstart]
        exact .ended hs' (.found hfresh)
  | set key value ttl =>
      have he := encodable_wrap hvalid hnow ttl
      have hrecord := h.record [.set]
      by_cases hlock : (s.record [.set]).cache.place.keepsLock
          (.store key (Envelope.wrap now ttl value)) = true
      · rw [enter_locked rfl hlock]
        obtain ⟨m', hholds, hchange⟩ := hrecord.finish_store he now key rests
        exact .ended hholds hchange
      · rw [enter_left rfl (by simpa using hlock)]
        exact .left hrecord he nofun
  | delete key => exact .ended (h.delete key) .deleted
  | clear => exact .ended h.clear .cleared

end Session

end Triage.Cache
