/-
What clients of a shared cache read.

A shared cache follows the map with expiry: after every step it holds the entries that the steps
so far amount to.  An entry stays until it is overridden or expires, in memory and in a table
whatever the clients do.  In partitions a client that has come across an expired entry removes
whatever is there when its turn comes, and that may be an entry that was stored in the meantime.
-/
import Triage.Proofs.Cache.Change

namespace Triage.Cache

variable {bucket : String} {backend : Backend} {m : Entries} {key : String} {e : Envelope}
  {effect : Effect} {effects : List Effect}

/-- Whether a step can be asked for. -/
def Turn.IsValid : Turn → Prop
  | .enter _ call => call.IsValid
  | .clock _ | .leave _ => True

instance : (turn : Turn) → Decidable turn.IsValid
  | .enter _ call => inferInstanceAs (Decidable call.IsValid)
  | .clock _ | .leave _ => .isTrue trivial

namespace Shared

/-- A cache that is shared from now on by so many clients. -/
def ofClient (c : Client) (clients : Nat) : Shared :=
  { session := c.session, now := c.now, rests := List.replicate clients none }

/-- Whether a shared cache of a kind, opened for a bucket, holds the entries of a map, and its
clients have left to do what they can. -/
structure Follows (bucket : String) (backend : Backend) (s : Shared) (m : Entries) : Prop where
  holds : s.session.Holds bucket backend m
  encodable : m.Encodable
  time : firstTime ≤ s.now
  rests : ∀ rest, some rest ∈ s.rests → rest.IsValid backend

variable {s s' : Shared} {turn : Turn} {turns : List Turn}

/-! ### Steps -/

/-- The clock never goes back. -/
theorem now_le_step (h : s.step turn = some (s', effect)) : s.now ≤ s'.now := by
  cases turn with
  | clock millis =>
      cases h
      exact Int.le_add_of_nonneg_right (Int.natCast_nonneg millis)
  | enter i call =>
      rw [step] at h
      split at h
      · split at h <;> cases h <;> exact Int.le_refl _
      · cases h
  | leave i =>
      rw [step] at h
      split at h
      · cases h
        exact Int.le_refl _
      · cases h

theorem mem_rests_of_set {rests : List (Option Rest)} {i : Nat} {left : Option Rest} {rest : Rest}
    (h : some rest ∈ rests.set i left) : some rest ∈ rests ∨ left = some rest := by
  rcases List.mem_or_eq_of_mem_set h with h | h
  · exact .inl h
  · exact .inr h.symm

/-- **A step of a shared cache is a step of the map with expiry**, and a client has an entry to
remove only if it was left to it before or has expired. -/
theorem Follows.step (h : s.Follows bucket backend m) (hvalid : turn.IsValid)
    (hstep : s.step turn = some (s', effect)) :
    ∃ m', s'.Follows bucket backend m' ∧ Change backend s.now s.rests m effect m' ∧
      ∀ key, some (.evict key) ∈ s'.rests →
        some (.evict key) ∈ s.rests ∨ m.HasExpired s.now key := by
  cases turn with
  | clock millis =>
      have htime := Int.le_trans h.time (now_le_step hstep)
      cases hstep
      exact ⟨m, ⟨h.holds, h.encodable, htime, h.rests⟩, .nothing, fun key => .inl⟩
  | enter i call =>
      have hentered := h.holds.enter h.encodable h.time hvalid s.rests
      rw [Shared.step] at hstep
      split at hstep
      · split at hstep
        · rename_i session rest henter
          rw [henter] at hentered
          cases hentered with
          | left hholds hrest hexpired =>
              cases hstep
              refine ⟨m, ⟨hholds, h.encodable, h.time, fun other hother => ?_⟩, .nothing,
                fun key hkey => ?_⟩
              · rcases mem_rests_of_set hother with hother | hother
                · exact h.rests other hother
                · cases hother
                  exact hrest
              · exact (mem_rests_of_set hkey).imp_right fun hkey => hexpired key (Option.some.inj hkey)
        · rename_i session effect henter
          rw [henter] at hentered
          cases hentered with
          | ended hholds hchange =>
              cases hstep
              exact ⟨_, ⟨hholds, hchange.encodable h.encodable, h.time, h.rests⟩, hchange,
                fun key => .inl⟩
      · cases hstep
  | leave i =>
      rw [Shared.step] at hstep
      split at hstep
      · rename_i rest hleft
        have hmem := List.mem_of_getElem? hleft
        obtain ⟨m', hholds, hchange⟩ := h.holds.finish hmem (h.rests rest hmem) s.now
        have hrests : ∀ other, some other ∈ s.rests.set i none → some other ∈ s.rests := by
          intro other hother
          rcases mem_rests_of_set hother with hother | hother
          · exact hother
          · cases hother
        cases hstep
        exact ⟨m', ⟨hholds, hchange.encodable h.encodable, h.time,
          fun other hother => h.rests other (hrests other hother)⟩, hchange,
          fun key hkey => .inl (hrests _ hkey)⟩
      · cases hstep

/-! ### Runs -/

theorem run_cons_iff {turn : Turn} : s.run (turn :: turns) = some (s', effects) ↔
    ∃ s₁ effect rest, s.step turn = some (s₁, effect) ∧ s₁.run turns = some (s', rest) ∧
      effects = effect :: rest := by
  rw [run]
  constructor
  · intro h
    obtain ⟨⟨s₁, effect⟩, hstep, h⟩ := Option.bind_eq_some_iff.1 h
    obtain ⟨⟨s₂, rest⟩, hrun, h⟩ := Option.bind_eq_some_iff.1 h
    cases h
    exact ⟨s₁, effect, rest, hstep, hrun, rfl⟩
  · rintro ⟨s₁, effect, rest, hstep, hrun, rfl⟩
    rw [hstep]
    simp [hrun]

theorem now_le_run (h : s.run turns = some (s', effects)) : s.now ≤ s'.now := by
  induction turns generalizing s effects with
  | nil =>
      cases h
      exact Int.le_refl _
  | cons turn rest ih =>
      obtain ⟨s₁, effect, later, hstep, hrun, -⟩ := run_cons_iff.1 h
      exact Int.le_trans (now_le_step hstep) (ih hrun)

theorem isExpired_of_le {now later : Int} (hle : now ≤ later) (h : e.isExpired later = false) :
    e.isExpired now = false := by
  rw [Envelope.isExpired] at h ⊢
  cases htime : e.expiresAt with
  | none => rfl
  | some time =>
      simp only [htime, Option.any_some, decide_eq_false_iff_not] at h ⊢
      omega

/-- An entry that has not expired at the end of a run is still there, unless it was overridden, or
was removed from partitions by a client that had this left to do from the start. -/
theorem Follows.keeps (h : s.Follows bucket backend m) (hvalid : ∀ turn ∈ turns, turn.IsValid)
    (hrun : s.run turns = some (s', effects)) (hentry : m key = some e)
    (hlive : e.isExpired s'.now = false)
    (hquiet : ∀ effect ∈ effects, effect.overrides key = false)
    (hlsm : backend = .lsm → some (.evict key) ∉ s.rests ∨ .evicted key ∉ effects) :
    ∃ m', s'.Follows bucket backend m' ∧ m' key = some e := by
  induction turns generalizing s m effects with
  | nil =>
      cases hrun
      exact ⟨m, h, hentry⟩
  | cons turn rest ih =>
      obtain ⟨s₁, effect, later, hstep, hrest, rfl⟩ := run_cons_iff.1 hrun
      have hlive' := isExpired_of_le (Int.le_trans (now_le_step hstep) (now_le_run hrest)) hlive
      obtain ⟨m₁, h₁, hchange, hrests⟩ := h.step (hvalid turn List.mem_cons_self) hstep
      have hentry₁ : m₁ key = some e := by
        refine hchange.keeps hentry hlive' (hquiet effect List.mem_cons_self) fun hbackend => ?_
        exact (hlsm hbackend).imp_right fun hnone heffect => hnone (heffect ▸ List.mem_cons_self)
      refine ih h₁ (fun other hother => hvalid other (List.mem_cons_of_mem _ hother)) hrest hentry₁
        (fun other hother => hquiet other (List.mem_cons_of_mem _ hother)) fun hbackend => ?_
      rcases hlsm hbackend with hnone | hnone
      · refine .inl fun hleft => ?_
        rcases hrests key hleft with hleft | hexpired
        · exact hnone hleft
        · exact Entries.not_hasExpired hentry hlive' hexpired
      · exact .inr fun hmem => hnone (List.mem_cons_of_mem _ hmem)

/-! ### Reads -/

/-- Storing puts the entry there. -/
theorem Follows.stored (h : s.Follows bucket backend m) (hvalid : turn.IsValid)
    (hstep : s.step turn = some (s', .stored key e)) :
    ∃ m', s'.Follows bucket backend m' ∧ m' key = some e := by
  obtain ⟨m', h', hchange, -⟩ := h.step hvalid hstep
  cases hchange
  exact ⟨_, h', if_pos rfl⟩

/-- A client that has nothing left to do reads an entry that has not expired. -/
theorem Follows.found (h : s.Follows bucket backend m) (hentry : m key = some e)
    (hlive : e.isExpired s.now = false) {i : Nat} (hidle : s.rests[i]? = some none) :
    ∃ s', s.step (.enter i (.get key)) = some (s', .found key (some e.value)) := by
  obtain ⟨session, -, ⟨hexpired, -⟩ | ⟨-, hstart⟩⟩ :=
    Session.start_get h.holds h.encodable s.now key
  · exact absurd hexpired (Entries.not_hasExpired hentry hlive)
  · rw [hentry] at hstart
    refine ⟨{ s with session }, ?_⟩
    simp only [Shared.step, hidle, Session.enter_ended hstart]
    rfl

/-! ### Calls that nothing comes between -/

/-- What a cache that is not shared does for a call, with the answer to a read. -/
def perform (session : Session) (now : Int) : Call → Option MessagePack.Bytes × Session
  | .get key => session.get now key
  | .set key value ttl => (none, session.set now key value ttl)
  | .delete key => (none, session.delete key)
  | .clear => (none, session.clear)

/-- The answer to a read that is over. -/
def answer? : Effect → Option MessagePack.Bytes
  | .found _ value => value
  | _ => none

theorem perform_eq (session : Session) (now : Int) (call : Call) : perform session now call =
    match session.start now call with
    | (session, .inl rest) => (answer? (session.finish now rest).2, (session.finish now rest).1)
    | (session, .inr effect) => (answer? effect, session) := by
  cases call with
  | get key =>
      rw [perform, Session.get, Session.start]
      cases session.cache.place.find session.storage now key <;> rfl
  | set | delete | clear => rfl

/-- **The steps of a call that nothing comes between are the call.** -/
theorem run_alone {i : Nat} (hidle : s.rests[i]? = some none) (call : Call) :
    ∃ turns effects effect, (turns = [.enter i call] ∨ turns = [.enter i call, .leave i]) ∧
      s.run turns = some ({ s with session := (perform s.session s.now call).2 },
        effects ++ [effect]) ∧
      answer? effect = (perform s.session s.now call).1 := by
  have hperform := perform_eq s.session s.now call
  rcases hstart : s.session.start s.now call with ⟨session, rest | effect⟩
  · rw [hstart] at hperform
    by_cases hlock : session.cache.place.keepsLock rest = true
    · refine ⟨[.enter i call], [], (session.finish s.now rest).2, .inl rfl, ?_, by rw [hperform]⟩
      rw [hperform, run, step]
      simp only [hidle, Session.enter_locked hstart hlock]
      rfl
    · have henter := Session.enter_left hstart (by simpa using hlock)
      obtain ⟨hi, hget⟩ := List.getElem?_eq_some_iff.1 hidle
      have hrests : s.rests.set i none = s.rests := by
        rw [← hget]
        exact List.set_getElem_self hi
      refine ⟨[.enter i call, .leave i], [.nothing], (session.finish s.now rest).2, .inr rfl, ?_,
        by rw [hperform]⟩
      rw [hperform, run, step]
      simp only [hidle, henter, Option.bind_eq_bind, Option.bind_some, run, step,
        List.getElem?_set_self hi, List.set_set, hrests]
      rfl
  · rw [hstart] at hperform
    refine ⟨[.enter i call], [], effect, .inl rfl, ?_, by rw [hperform]⟩
    rw [hperform, run, step]
    simp only [hidle, Session.enter_ended hstart]
    rfl

/-! ### Calls that others come between -/

/-- What a client has left to do stays as it is until its own second step. -/
theorem rests_of_step {i : Nat} {rest : Rest} (hleft : s.rests[i]? = some (some rest))
    (hturn : turn ≠ .leave i) (hstep : s.step turn = some (s', effect)) :
    s'.rests[i]? = some (some rest) := by
  cases turn with
  | clock millis =>
      cases hstep
      exact hleft
  | enter j call =>
      rw [step] at hstep
      split at hstep
      · rename_i hidle
        have hne : j ≠ i := by
          rintro rfl
          cases hidle.symm.trans hleft
        split at hstep
        · cases hstep
          rwa [List.getElem?_set_ne hne]
        · cases hstep
          exact hleft
      · cases hstep
  | leave j =>
      have hne : j ≠ i := fun hsame => hturn (congrArg Turn.leave hsame)
      rw [step] at hstep
      split at hstep
      · cases hstep
        rwa [List.getElem?_set_ne hne]
      · cases hstep

theorem rests_of_run {i : Nat} {rest : Rest} (hleft : s.rests[i]? = some (some rest))
    (hturns : .leave i ∉ turns) (hrun : s.run turns = some (s', effects)) :
    s'.rests[i]? = some (some rest) := by
  induction turns generalizing s effects with
  | nil =>
      cases hrun
      exact hleft
  | cons turn later ih =>
      obtain ⟨s₁, effect, others, hstep, hlater, -⟩ := run_cons_iff.1 hrun
      have hne : turn ≠ .leave i := fun hsame => hturns (hsame ▸ List.mem_cons_self)
      exact ih (rests_of_step hleft hne hstep)
        (fun hmem => hturns (List.mem_cons_of_mem _ hmem)) hlater

/-- A value is stored in the first step of its client or in the second, whatever the others do in
between, and expires as was fixed in the first. -/
theorem stored_of_set {i : Nat} (hidle : s.rests[i]? = some none) (key : String)
    (value : MessagePack.Bytes) (ttl : Option Nat) :
    ∃ s₁ effect, s.step (.enter i (.set key value ttl)) = some (s₁, effect) ∧
      (effect = .stored key (Envelope.wrap s.now ttl value) ∨
        ∀ between s₂ effects, .leave i ∉ between → s₁.run between = some (s₂, effects) →
          ∃ s₃, s₂.step (.leave i) = some (s₃, .stored key (Envelope.wrap s.now ttl value))) := by
  let rest : Rest := .store key (Envelope.wrap s.now ttl value)
  have hstart : s.session.start s.now (.set key value ttl) =
      (s.session.record [.set], .inl rest) := rfl
  by_cases hlock : (s.session.record [.set]).cache.place.keepsLock rest = true
  · have henter := Session.enter_locked hstart hlock
    refine ⟨{ s with session := ((s.session.record [.set]).finish s.now rest).1 }, _, ?_, .inl rfl⟩
    simp only [step, hidle, henter]
    rfl
  · have henter := Session.enter_left hstart (by simpa using hlock)
    let s₁ : Shared :=
      { s with session := s.session.record [.set], rests := s.rests.set i (some rest) }
    have hstep : s.step (.enter i (.set key value ttl)) = some (s₁, .nothing) := by
      simp only [step, hidle, henter, s₁]
    refine ⟨s₁, .nothing, hstep, .inr fun between s₂ effects hnot hrun => ?_⟩
    have hi : i < s.rests.length := (List.getElem?_eq_some_iff.1 hidle).1
    have hleft := rests_of_run (List.getElem?_set_self hi) hnot hrun
    exact ⟨_, by simp only [step, hleft]; rfl⟩

/-! ### Shared caches as they come about -/

/-- The shared caches that there can be with some settings.  A cache is opened where there is
nothing yet, and may be used by one client and opened again; from then on any number of clients
share it, and take their steps in any order. -/
inductive Reached (settings : Settings) : Shared → Prop
  | shared {now : Int} {requests : List Request} {answers : List (Option MessagePack.Bytes)}
      {c c' : Client} (clients : Nat) (hopen : Client.start settings now = some c)
      (hnow : IsTime now) (hvalid : ∀ request ∈ requests, request.IsValid)
      (hreopen : .reopen ∈ requests → settings.backend.isPersistent = true)
      (hrun : c.run requests = some (answers, c')) : Reached settings (ofClient c' clients)
  | step {s s' : Shared} {turn : Turn} {effect : Effect} (h : Reached settings s)
      (hvalid : turn.IsValid) (hstep : s.step turn = some (s', effect)) : Reached settings s'

theorem settings_of_step {c c' : Client} {request : Request} {answer : Option MessagePack.Bytes}
    (h : c.step request = some (answer, c')) : c'.settings = c.settings := by
  cases request with
  | reopen =>
      obtain ⟨session, -, h⟩ := Option.map_eq_some_iff.1 h
      cases h
      rfl
  | get | set | delete | clear | close | clock =>
      cases h
      rfl

theorem settings_of_run {c c' : Client} {requests : List Request}
    {answers : List (Option MessagePack.Bytes)} (h : c.run requests = some (answers, c')) :
    c'.settings = c.settings := by
  induction requests generalizing c answers with
  | nil =>
      cases h
      rfl
  | cons request rest ih =>
      obtain ⟨⟨answer, c₁⟩, hstep, h⟩ := Option.bind_eq_some_iff.1 h
      obtain ⟨⟨later, c₂⟩, hrun, h⟩ := Option.bind_eq_some_iff.1 h
      cases h
      exact (ih hrun).trans (settings_of_step hstep)

theorem follows_ofClient {c : Client} {r : Reference} (h : c.InStep r) (clients : Nat) :
    (ofClient c clients).Follows c.settings.bucket c.settings.backend r.entries := by
  have htime : firstTime ≤ c.now := by
    rw [h.now]
    exact h.agrees.time.1
  refine ⟨h.agrees.holds, h.agrees.encodable, htime, fun rest hrest => ?_⟩
  cases List.eq_of_mem_replicate hrest

theorem Reached.follows {settings : Settings} (h : Reached settings s)
    (hstoring : settings.backend ≠ .null) :
    ∃ m, s.Follows settings.bucket settings.backend m := by
  induction h with
  | shared clients hopen hnow hvalid hreopen hrun =>
      obtain ⟨session, hsession, rfl⟩ := Option.map_eq_some_iff.1 hopen
      have hstart : Client.InStep ⟨settings, session, _⟩ _ :=
        ⟨agrees_openIn hnow hstoring hsession, rfl⟩
      obtain ⟨c', hrun', hinstep⟩ := hstart.run hvalid hreopen
      cases hrun.symm.trans hrun'
      have hsettings := settings_of_run hrun
      exact ⟨_, hsettings ▸ follows_ofClient hinstep clients⟩
  | step _ hvalid hstep ih =>
      obtain ⟨m, hm⟩ := ih
      obtain ⟨m', hm', -, -⟩ := hm.step hvalid hstep
      exact ⟨m', hm'⟩

theorem Reached.run {settings : Settings} (h : Reached settings s)
    (hvalid : ∀ turn ∈ turns, turn.IsValid) (hrun : s.run turns = some (s', effects)) :
    Reached settings s' := by
  induction turns generalizing s effects with
  | nil =>
      cases hrun
      exact h
  | cons turn rest ih =>
      obtain ⟨s₁, effect, later, hstep, hrun, -⟩ := run_cons_iff.1 hrun
      exact ih (.step h (hvalid turn List.mem_cons_self) hstep)
        (fun other hother => hvalid other (List.mem_cons_of_mem _ hother)) hrun

/-- A new cache that is shared at once. -/
theorem reached_of_run {settings : Settings} {now : Int} {c : Client} (hnow : IsTime now)
    (hopen : Client.start settings now = some c) (clients : Nat) (turns : List Turn)
    (hvalid : ∀ turn ∈ turns, turn.IsValid)
    (hrun : (ofClient c clients).run turns = some (s, effects)) : Reached settings s := by
  have hnew : Reached settings (ofClient c clients) :=
    @Reached.shared settings now [] [] c c clients hopen hnow nofun nofun rfl
  exact hnew.run hvalid hrun

/--
**A read finds what was stored.**  Any number of clients share a cache in memory, in a table or in
partitions, and take their steps in any order.  Once an entry was stored under a key, every client
that reads the key before it expires gets its value, unless the key was stored or deleted or the
cache emptied in between.  In memory and in a table that is all; in partitions no client may in the
meantime have removed under the key what it had found to be of no use before the entry was stored.
-/
theorem read_of_stored {settings : Settings} (hstoring : settings.backend ≠ .null)
    {s s₁ s₂ : Shared} (hs : Reached settings s) {turn : Turn} {between : List Turn}
    (hvalid : ∀ other ∈ turn :: between, other.IsValid)
    (hstore : s.step turn = some (s₁, .stored key e))
    (hbetween : s₁.run between = some (s₂, effects)) (hlive : e.isExpired s₂.now = false)
    (hquiet : ∀ effect ∈ effects, effect.overrides key = false)
    (hlsm : settings.backend = .lsm → some (.evict key) ∉ s₁.rests ∨ .evicted key ∉ effects) :
    ∀ i, s₂.rests[i]? = some none →
      ∃ s₃, s₂.step (.enter i (.get key)) = some (s₃, .found key (some e.value)) := by
  intro i hidle
  obtain ⟨m, hm⟩ := hs.follows hstoring
  obtain ⟨m₁, hm₁, hentry₁⟩ := hm.stored (hvalid turn List.mem_cons_self) hstore
  obtain ⟨m₂, hm₂, hentry₂⟩ := hm₁.keeps
    (fun other hother => hvalid other (List.mem_cons_of_mem _ hother)) hbetween hentry₁ hlive hquiet
    hlsm
  exact hm₂.found hentry₂ hlive hidle

/-- In memory a client comes across an expired entry, and before it removes it, another one stores a
value under its key. -/
theorem read_of_stored_refreshed :
    ∃ s s₁ s₂ s₃, Reached {} s ∧ some (.evict "k") ∈ s.rests ∧
      s.step (.enter 1 (.set "k" [2] (some 5))) = some (s₁, .stored "k" ⟨[2], some 15⟩) ∧
      s₁.run [.clock 4, .leave 0] = some (s₂, [.nothing, .evicted "k"]) ∧
      s₂.step (.enter 1 (.get "k")) = some (s₃, .found "k" (some [2])) := by
  have hnow : IsTime 0 := by decide
  let before : List Turn :=
    [.enter 0 (.set "k" [1] (some 10)), .clock 10, .enter 0 (.get "k")]
  obtain ⟨s, hs, hrests, s₁, hstore, s₂, hbetween, hlive, hidle⟩ :
      ∃ s, Reached {} s ∧ some (.evict "k") ∈ s.rests ∧
        ∃ s₁, s.step (.enter 1 (.set "k" [2] (some 5))) = some (s₁, .stored "k" ⟨[2], some 15⟩) ∧
        ∃ s₂, s₁.run [.clock 4, .leave 0] = some (s₂, [.nothing, .evicted "k"]) ∧
          (⟨[2], some 15⟩ : Envelope).isExpired s₂.now = false ∧ s₂.rests[1]? = some none :=
    ⟨_, reached_of_run hnow rfl 2 before (by decide) rfl, by decide, _, rfl, _, rfl, by decide,
      rfl⟩
  obtain ⟨s₃, hread⟩ := read_of_stored (by decide) hs (by decide) hstore hbetween hlive (by decide)
    nofun 1 hidle
  exact ⟨s, s₁, s₂, s₃, hs, hrests, hstore, hbetween, hread⟩

/-- In partitions the value is lost, although nobody but the one who stored it has stored, deleted or
emptied anything since. -/
theorem read_of_stored_lost :
    ∃ s s₁ s₂ s₃, Reached { backend := .lsm } s ∧
      s.step (.leave 1) = some (s₁, .stored "k" ⟨[2], none⟩) ∧
      s₁.run [.leave 0] = some (s₂, [.evicted "k"]) ∧
      s₂.step (.enter 1 (.get "k")) = some (s₃, .found "k" none) := by
  have hnow : IsTime 0 := by decide
  let before : List Turn :=
    [.enter 0 (.set "k" [1] (some 10)), .leave 0, .clock 10, .enter 0 (.get "k"),
      .enter 1 (.set "k" [2] none)]
  exact ⟨_, _, _, _, reached_of_run hnow rfl 2 before (by decide) rfl, rfl, rfl, rfl⟩

end Shared

end Triage.Cache
