/-
What overrides do.

An override is read by itself: its key names one setting, and no other key names the same one; its
text is read as a value of that setting.  So overrides that are taken together lead to the settings
in which every setting that is named holds its new value and every other one what it held before,
and nothing else leads there.  As being valid is a matter of single settings too, it makes no
difference whether overrides are taken at once or one part after the other.
-/
import Triage.Proofs.Config.Settings

namespace Triage

open Text

/-! ### Keys -/

theorem Text.eq_append_of_after? {start text rest : String} (h : after? start text = some rest) :
    text = start ++ rest := by
  unfold after? at h
  split at h
  · rename_i hstart
    obtain ⟨tail, htail⟩ := List.isPrefixOf_iff_prefix.1 hstart
    cases h
    apply String.toList_inj.1
    rw [String.toList_append, String.toList_ofList, ← htail, ← String.length_toList,
      List.drop_left]
  · cases h

namespace SettingKey

/-- The key that names a setting. -/
def text : SettingKey → String
  | weight name => "score." ++ name
  | repositoryWeight repository => "score.repo." ++ repository
  | s => ((named.find? fun entry => entry.2 == s).map (·.1)).getD ""

theorem text_of_mem_named : ∀ entry ∈ named, entry.2.text = entry.1 := by
  decide

/-- A setting is named by one key only. -/
theorem text_of_ofText {key : String} {s : SettingKey} (h : ofText key = .ok s) : s.text = key := by
  unfold ofText at h
  split at h
  · rename_i setting hnamed
    cases h
    obtain ⟨before, after, hentries, -⟩ := List.lookup_eq_some_iff.1 hnamed
    have hmem : (key, s) ∈ named := by
      rw [hentries]
      simp
    exact text_of_mem_named _ hmem
  · split at h
    · rename_i repository hafter
      split at h
      · cases h
      · cases h
        exact (eq_append_of_after? hafter).symm
    · split at h
      · rename_i name hafter
        cases h
        exact (eq_append_of_after? hafter).symm
      · cases h

theorem eq_of_ofText {key key' : String} {s : SettingKey} (h : ofText key = .ok s)
    (h' : ofText key' = .ok s) : key = key' :=
  (text_of_ofText h).symm.trans (text_of_ofText h')

/-! ### Values -/

/-- Reads a value of a setting; the key is repeated in what is said about it. -/
def read : (s : SettingKey) → (key text : String) → Except ConfigFault s.Value
  | engineConcurrency, key, text | engineBatchSize, key, text | engineTimeout, key, text
  | scoringConcurrency, key, text | scoringBatchSize, key, text | scoringTimeout, key, text
  | scoringCacheTime, key, text | sortBatchSize, key, text | cacheTime, key, text
  | cacheQueueSize, key, text => positiveOfText key text
  | engineIndexes, key, text | sortParallel, key, text => boolOfText key text
  | sortCriteria, _, text => .ok (criteriaOfText text)
  | cacheBackend, key, text => (Cache.Backend.ofText text).mapError (.backend key)
  | cacheDirectory, _, text | cacheBucket, _, text => .ok text
  | weight name, key, text => do
    let x ← weightOfText key text
    if name ∈ Factors.names then .ok x else .error (.unknownWeight name)
  | repositoryWeight _, key, text => weightOfText key text

theorem isKnown_of_read {s : SettingKey} {key text : String} {v : s.Value}
    (h : s.read key text = .ok v) : s.IsKnown := by
  cases s with
  | weight name =>
      obtain ⟨x, -, hx⟩ := bind_ok_iff.1 h
      split at hx
      · assumption
      · cases hx
  | _ => trivial

end SettingKey

theorem isFinite_of_weightOfText {key text : String} {x : Float}
    (h : weightOfText key text = .ok x) : x.isFinite = true := by
  unfold weightOfText at h
  split at h
  · split at h
    · cases h
      assumption
    · cases h
  · cases h

namespace SettingKey

/-- Whether a text gives a value to the setting that a key names; the text is trimmed. -/
structure Assigned (s : SettingKey) (v : s.Value) (key text : String) : Prop where
  named : ofText key = .ok s
  value : s.read key (trim text) = .ok v

/-- An override gives one value to one setting. -/
theorem Assigned.unique {s s' : SettingKey} {v : s.Value} {v' : s'.Value} {key text : String}
    (h : s.Assigned v key text) (h' : s'.Assigned v' key text) :
    (⟨s, v⟩ : (s : SettingKey) × s.Value) = ⟨s', v'⟩ := by
  have hs : s = s' := Except.ok.inj (h.named.symm.trans h'.named)
  subst hs
  have hv : v = v' := Except.ok.inj (h.value.symm.trans h'.value)
  rw [hv]

end SettingKey

namespace Config

/-- One override is read by itself, and then takes effect. -/
theorem override_eq (c : Config) (key text : String) : c.override key text = (do
    let s ← SettingKey.ofText key
    let v ← s.read key text
    return c.put s v) := by
  unfold override
  cases SettingKey.ofText key with
  | error fault => rfl
  | ok s =>
      cases s with
      | weight name =>
          simp only [SettingKey.read, bind, Except.bind, put]
          cases hread : weightOfText key text with
          | error fault => rfl
          | ok x =>
              simp only [Factors.set_of_isFinite (isFinite_of_weightOfText hread)]
              by_cases hname : name ∈ Factors.names
              · rw [if_pos hname, if_pos hname]
              · rw [if_neg hname, if_neg hname]
      | cacheBackend =>
          simp only [SettingKey.read, bind, Except.bind, put]
          cases Cache.Backend.ofText text with
          | error fault => rfl
          | ok backend => rfl
      | _ => rfl

theorem override_ok_iff {c c' : Config} {key text : String} :
    c.override key (trim text) = .ok c' ↔
      ∃ s v, SettingKey.Assigned s v key text ∧ c.put s v = c' := by
  rw [override_eq, bind_ok_iff]
  constructor
  · rintro ⟨s, hs, h⟩
    obtain ⟨v, hv, h⟩ := bind_ok_iff.1 h
    exact ⟨s, v, ⟨hs, hv⟩, Except.ok.inj h⟩
  · rintro ⟨s, v, ⟨hs, hv⟩, h⟩
    exact ⟨s, hs, bind_ok_iff.2 ⟨v, hv, congrArg Except.ok h⟩⟩

/-! ### Overrides taken together -/

/-- Whether settings come from others by overrides: each of these can be understood, the settings
that they name hold what is given to them, and the others hold what they held before. -/
structure Overridden (overrides : List (String × String)) (c c' : Config) : Prop where
  understood : ∀ key text, (key, text) ∈ overrides → ∃ s v, SettingKey.Assigned s v key text
  given : ∀ key text s v, (key, text) ∈ overrides → SettingKey.Assigned s v key text →
    c'.get? s = some v
  kept : ∀ s, (∀ key text, (key, text) ∈ overrides → SettingKey.ofText key ≠ .ok s) →
    c'.get? s = c.get? s

variable {overrides rest : List (String × String)} {c c' c'' : Config}

/-- Overrides lead to one result only. -/
theorem Overridden.unique (h : Overridden overrides c c') (h' : Overridden overrides c c'') :
    c' = c'' := by
  refine ext_get? fun s => ?_
  by_cases hnamed : ∃ key text, (key, text) ∈ overrides ∧ SettingKey.ofText key = .ok s
  · obtain ⟨key, text, hmem, hkey⟩ := hnamed
    obtain ⟨s', v, hassigned⟩ := h.understood key text hmem
    cases Except.ok.inj (hkey.symm.trans hassigned.named)
    rw [h.given key text s v hmem hassigned, h'.given key text s v hmem hassigned]
  · have hothers : ∀ key text, (key, text) ∈ overrides → SettingKey.ofText key ≠ .ok s :=
      fun key text hmem hkey => hnamed ⟨key, text, hmem, hkey⟩
    rw [h.kept s hothers, h'.kept s hothers]

/-- Overrides of different keys can be taken one part after the other. -/
theorem Overridden.append (h : Overridden overrides c c') (h' : Overridden rest c' c'')
    (hkeys : ∀ key text text', (key, text) ∈ overrides → (key, text') ∉ rest)
    {both : List (String × String)} (hboth : ∀ e, e ∈ both ↔ e ∈ overrides ∨ e ∈ rest) :
    Overridden both c c'' where
  understood key text hmem := by
    rcases (hboth _).1 hmem with hmem | hmem
    · exact h.understood key text hmem
    · exact h'.understood key text hmem
  given key text s v hmem hassigned := by
    rcases (hboth _).1 hmem with hmem | hmem
    · have hkept : c''.get? s = c'.get? s := h'.kept s fun key' text' hmem' hkey' => by
        cases SettingKey.eq_of_ofText hassigned.named hkey'
        exact hkeys key text text' hmem hmem'
      rw [hkept, h.given key text s v hmem hassigned]
    · exact h'.given key text s v hmem hassigned
  kept s hothers := by
    rw [h'.kept s fun key text hmem => hothers key text ((hboth _).2 (.inr hmem)),
      h.kept s fun key text hmem => hothers key text ((hboth _).2 (.inl hmem))]

theorem overridden_nil : Overridden [] c c' ↔ c' = c := by
  constructor
  · intro h
    exact ext_get? fun s => h.kept s nofun
  · rintro rfl
    exact ⟨nofun, nofun, fun _ _ => rfl⟩

theorem overridden_singleton {key text : String} {s : SettingKey} {v : s.Value}
    (h : s.Assigned v key text) : Overridden [(key, text)] c (c.put s v) where
  understood key' text' hmem := by
    cases List.mem_singleton.1 hmem
    exact ⟨s, v, h⟩
  given key' text' s' v' hmem h' := by
    cases List.mem_singleton.1 hmem
    cases h.unique h'
    exact get?_put_self (SettingKey.isKnown_of_read h.value) c v
  kept s' hothers := by
    refine get?_put_of_ne (fun heq => ?_) c v
    exact hothers key text (List.mem_singleton.2 rfl) (heq ▸ h.named)

/-- Overrides one after the other. -/
def overrideEach (overrides : List (String × String)) (c : Config) : Except ConfigFault Config :=
  overrides.foldlM (fun c (key, text) => c.override key (trim text)) c

theorem overridden_of_overrideEach (hkeys : overrides.Pairwise fun a b => a.1 < b.1)
    (h : overrideEach overrides c = .ok c') : Overridden overrides c c' := by
  induction overrides generalizing c with
  | nil => exact overridden_nil.2 (Except.ok.inj h).symm
  | cons entry rest ih =>
      obtain ⟨key, text⟩ := entry
      obtain ⟨hfirst, hrest⟩ := List.pairwise_cons.1 hkeys
      rw [overrideEach, List.foldlM_cons, bind_ok_iff] at h
      obtain ⟨c₁, hoverride, h⟩ := h
      obtain ⟨s, v, hassigned, rfl⟩ := override_ok_iff.1 hoverride
      refine (overridden_singleton hassigned).append (ih hrest h) ?_ fun e => by simp
      intro key' text' text'' hmem hmem'
      cases List.mem_singleton.1 hmem
      exact String.lt_irrefl key (hfirst _ hmem')

/-- An override that can be understood can be taken whatever the settings are. -/
theorem exists_overrideEach
    (h : ∀ key text, (key, text) ∈ overrides → ∃ s v, SettingKey.Assigned s v key text) :
    ∃ c', overrideEach overrides c = .ok c' := by
  induction overrides generalizing c with
  | nil => exact ⟨c, rfl⟩
  | cons entry rest ih =>
      obtain ⟨key, text⟩ := entry
      obtain ⟨s, v, hassigned⟩ := h key text List.mem_cons_self
      obtain ⟨c', hrest⟩ := @ih (c.put s v) fun key text hmem =>
        h key text (List.mem_cons_of_mem _ hmem)
      refine ⟨c', ?_⟩
      rw [overrideEach, List.foldlM_cons, bind_ok_iff]
      exact ⟨c.put s v, override_ok_iff.2 ⟨s, v, hassigned, rfl⟩, hrest⟩

/-- Taking overrides one after the other leads where they lead together. -/
theorem overrideAll_ok_iff {overrides : SortedMap String} :
    c.overrideAll overrides = .ok c' ↔ Overridden overrides.toList c c' := by
  constructor
  · intro h
    exact overridden_of_overrideEach overrides.ascending h
  · intro h
    obtain ⟨c'', hc''⟩ := @exists_overrideEach _ c h.understood
    rw [h.unique (overridden_of_overrideEach overrides.ascending hc'')]
    exact hc''

/-! ### Settings stay valid -/

variable {a b : SortedMap String}

theorem apply_ok_iff :
    c.apply a = .ok c' ↔ Overridden a.toList c c' ∧ c'.validate = .ok () := by
  rw [apply, bind_ok_iff]
  constructor
  · rintro ⟨c'', hoverride, h⟩
    obtain ⟨_, hvalid, h⟩ := bind_ok_iff.1 h
    cases Except.ok.inj h
    exact ⟨overrideAll_ok_iff.1 hoverride, hvalid⟩
  · rintro ⟨hoverride, hvalid⟩
    exact ⟨c', overrideAll_ok_iff.2 hoverride, bind_ok_iff.2 ⟨(), hvalid, rfl⟩⟩

/-- Whether an override can be understood and gives a setting a value that it accepts. -/
def Acceptable (key text : String) : Prop :=
  ∃ s v, SettingKey.Assigned s v key text ∧ s.Accepts v

/-- Overrides of valid settings succeed when each of them would by itself. -/
theorem exists_apply_iff (hc : c.validate = .ok ()) :
    (∃ c', c.apply a = .ok c') ↔ ∀ key text, (key, text) ∈ a.toList → Acceptable key text := by
  constructor
  · rintro ⟨c', h⟩ key text hmem
    obtain ⟨hoverridden, hvalid⟩ := apply_ok_iff.1 h
    obtain ⟨s, v, hassigned⟩ := hoverridden.understood key text hmem
    exact ⟨s, v, hassigned,
      validate_ok_iff.1 hvalid s v (hoverridden.given key text s v hmem hassigned)⟩
  · intro h
    have hunderstood : ∀ key text, (key, text) ∈ a.toList →
        ∃ s v, SettingKey.Assigned s v key text := by
      intro key text hmem
      obtain ⟨s, v, hassigned, -⟩ := h key text hmem
      exact ⟨s, v, hassigned⟩
    obtain ⟨c', hc'⟩ := @exists_overrideEach _ c hunderstood
    have hoverridden : Overridden a.toList c c' := overrideAll_ok_iff.1 hc'
    refine ⟨c', apply_ok_iff.2 ⟨hoverridden, validate_ok_iff.2 fun s v hv => ?_⟩⟩
    by_cases hnamed : ∃ key text, (key, text) ∈ a.toList ∧ SettingKey.ofText key = .ok s
    · obtain ⟨key, text, hmem, hkey⟩ := hnamed
      obtain ⟨s', v', hassigned, haccepts⟩ := h key text hmem
      cases Except.ok.inj (hkey.symm.trans hassigned.named)
      have hgiven := hoverridden.given key text s v' hmem hassigned
      cases Option.some.inj (hv.symm.trans hgiven)
      exact haccepts
    · have hkept := hoverridden.kept s fun key text hmem hkey => hnamed ⟨key, text, hmem, hkey⟩
      exact validate_ok_iff.1 hc s v (hkept ▸ hv)

/-- Overrides of different settings may as well be taken in two parts. -/
theorem apply_union_ok_iff (hc : c.validate = .ok ()) (h : a.Disjoint b) :
    c.apply (a.union b) = .ok c' ↔ (do let c ← c.apply a; c.apply b) = .ok c' := by
  have hkeys : ∀ key text text', (key, text) ∈ a.toList → (key, text') ∉ b.toList := by
    intro key text text' hmem hmem'
    rw [SortedMap.mem_toList_iff] at hmem hmem'
    rcases h key with hnone | hnone
    · simp [hnone] at hmem
    · simp [hnone] at hmem'
  -- both parts succeed wherever the whole does, and lead there
  have hparts {c₁ c₂ : Config} (h₁ : c.apply a = .ok c₁) (h₂ : c₁.apply b = .ok c₂) :
      c.apply (a.union b) = .ok c₂ := by
    obtain ⟨hfirst, -⟩ := apply_ok_iff.1 h₁
    obtain ⟨hsecond, hvalid⟩ := apply_ok_iff.1 h₂
    exact apply_ok_iff.2
      ⟨hfirst.append hsecond hkeys fun e => SortedMap.mem_union_iff h, hvalid⟩
  rw [bind_ok_iff]
  constructor
  · intro hunion
    have hacceptable := (exists_apply_iff hc).1 ⟨c', hunion⟩
    obtain ⟨c₁, h₁⟩ := (exists_apply_iff hc).2 fun key text hmem =>
      hacceptable key text ((SortedMap.mem_union_iff h).2 (.inl hmem))
    obtain ⟨c₂, h₂⟩ := (exists_apply_iff (apply_ok_iff.1 h₁).2).2 fun key text hmem =>
      hacceptable key text ((SortedMap.mem_union_iff h).2 (.inr hmem))
    cases Except.ok.inj (hunion.symm.trans (hparts h₁ h₂))
    exact ⟨c₁, h₁, h₂⟩
  · rintro ⟨c₁, h₁, h₂⟩
    exact hparts h₁ h₂

/-! ### Settings at hand -/

/-- Overrides the settings at hand: on a copy, which takes their place at the very end. -/
def applyInPlace (overrides : SortedMap String) : EStateM ConfigFault Config Unit := do
  let mut next ← get
  for (key, text) in overrides.toList do
    next ← MonadExcept.ofExcept (next.override key (trim text))
  MonadExcept.ofExcept next.validate
  set next

/-- While a copy is overridden, the settings at hand stay as they are. -/
theorem forIn_override (overrides : List (String × String)) (copy atHand : Config) :
    (forIn overrides copy fun entry (next : Config) => do
        let next ← MonadExcept.ofExcept (next.override entry.1 (trim entry.2))
        pure (ForInStep.yield next) : EStateM ConfigFault Config Config).run atHand =
      (match overrideEach overrides copy with
      | .ok next => .ok next atHand
      | .error fault => .error fault atHand) := by
  induction overrides generalizing copy with
  | nil => rfl
  | cons entry rest ih =>
      have hcons : overrideEach (entry :: rest) copy =
          copy.override entry.1 (trim entry.2) >>= overrideEach rest := rfl
      rw [List.forIn_cons, hcons]
      cases copy.override entry.1 (trim entry.2) with
      | error fault => rfl
      | ok next => exact ih next

/-- Settings at hand are either overridden as a whole or left as they were. -/
theorem run_applyInPlace (overrides : SortedMap String) (c : Config) :
    (applyInPlace overrides).run c =
      (match c.apply overrides with
      | .ok c' => .ok () c'
      | .error fault => .error fault c) := by
  have hall : c.apply overrides = (do
      let next ← overrideEach overrides.toList c
      next.validate
      return next) := rfl
  unfold applyInPlace
  simp only [EStateM.run_bind, EStateM.run_get]
  rw [forIn_override, hall]
  cases overrideEach overrides.toList c with
  | error fault => rfl
  | ok next =>
      show _ = match (do next.validate; return next) with
        | .ok c' => EStateM.Result.ok () c'
        | .error fault => .error fault c
      simp only
      cases next.validate with
      | error fault => rfl
      | ok _ => rfl

/--
**Overrides are all or nothing, change what they name, and come in any order.**  Where settings
are overridden in place, they become what `apply` makes of them, or stay as they were if it fails.
It leads to valid settings in which everything that is named holds the value it was given and
everything else what it held, and it fails only if some override cannot be understood or is not
accepted.  Overrides with other keys may be taken along, or before, or after: all three succeed
together and lead to the same settings.
-/
theorem apply_independent (c : Config) (a b : SortedMap String) (hvalid : c.validate = .ok ())
    (hdisjoint : a.Disjoint b) :
    (applyInPlace a).run c =
        (match c.apply a with
        | .ok c' => .ok () c'
        | .error fault => .error fault c) ∧
      (∀ c', c.apply a = .ok c' → c'.validate = .ok () ∧ Overridden a.toList c c') ∧
      ((∃ c', c.apply a = .ok c') ↔
        ∀ key text, (key, text) ∈ a.toList → Acceptable key text) ∧
      (∀ c', c.apply (a.union b) = .ok c' ↔ (do let c ← c.apply a; c.apply b) = .ok c') ∧
      ∀ c', c.apply (a.union b) = .ok c' ↔ (do let c ← c.apply b; c.apply a) = .ok c' := by
  refine ⟨run_applyInPlace a c, fun c' h => (apply_ok_iff.1 h).symm, exists_apply_iff hvalid,
    fun c' => apply_union_ok_iff hvalid hdisjoint, fun c' => ?_⟩
  rw [hdisjoint.union_comm]
  exact apply_union_ok_iff hvalid hdisjoint.symm

/-- Keys that begin alike name different settings, and values are trimmed. -/
theorem apply_independent_prefixes :
    let a : SortedMap String := .ofList [("score.repo.octo/hello", " 0.2 "), ("cache.bucket", "b")]
    let b : SortedMap String := .ofList [("score.repo_weight", "1.5"), ("cache.ttl_secs", "+9 ")]
    ∃ c', ({} : Config).apply (a.union b) = .ok c' ∧
      (do let c ← ({} : Config).apply b; c.apply a) = .ok c' ∧
      c'.get? (.repositoryWeight "octo/hello") = some (0.2 : Float) ∧
      c'.get? (.weight "repo_weight") = some (1.5 : Float) ∧ c'.cache.resultSeconds = 9 := by
  intro a b
  obtain ⟨-, -, -, -, hswapped⟩ := apply_independent {} a b rfl (by decide)
  exact ⟨_, rfl, (hswapped _).1 rfl, rfl, rfl, rfl⟩

end Config

end Triage
