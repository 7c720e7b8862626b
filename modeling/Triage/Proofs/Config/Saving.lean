/-
Settings that were saved are loaded as they were.

Settings come about by overriding and by loading, from the initial ones on.  Either way their counts
are read from text as words of 64 bits, and nothing else makes counts.  So all settings that come
about can be written, and the file is valid because they were.
-/
import Triage.CommandLine.Run
import Triage.Proofs.Config.Overrides
import Triage.Proofs.Config.Text
import Triage.Proofs.Files
import Triage.Proofs.Toml.Bounds

namespace Triage

open Toml

/-! ### Counts that are read -/

theorem fitsWord_natCast_iff {n : Nat} : fitsWord n = true ↔ (n : Int) ≤ maxWord := by
  simp only [fitsWord, maxWord, Bool.and_eq_true, decide_eq_true_eq]
  omega

theorem fitsWord_of_positiveOfText {key text : String} {n : Nat}
    (h : positiveOfText key text = .ok n) : fitsWord n = true := by
  rw [fitsWord_natCast_iff]
  unfold positiveOfText at h
  split at h
  · cases h
  · rename_i m hm
    split at h
    · cases h
    · cases h
      obtain ⟨-, hbounds⟩ := Option.filter_eq_some_iff.1 hm
      simp only [Bool.and_eq_true, decide_eq_true_eq] at hbounds
      omega

theorem SettingKey.fits_of_read {s : SettingKey} {key text : String} {v : s.Value}
    (h : s.read key text = .ok v) : s.Fits v := by
  cases s with
  | engineIndexes | sortParallel | sortCriteria | cacheBackend | cacheDirectory | cacheBucket
  | weight | repositoryWeight => trivial
  | _ => exact fitsWord_of_positiveOfText h

theorem fitsWord_of_asNat {t : Toml} {n : Nat} (ht : t.Fits) (h : t.asNat = some n) :
    fitsWord n = true := by
  unfold asNat at h
  split at h
  · rename_i m
    split at h
    · cases h
    · cases h
      cases ht with
      | scalar hfits =>
          have hm := hfits m rfl
          have hcast : ((m.toNat : Nat) : Int) = m := by omega
          rwa [hcast]
  · cases h

namespace Toml.Fields

variable {α : Type} {f : Fields}

/-- All whole numbers in the fields of a section fit in a word. -/
def Fit (f : Fields) : Prop := ∀ name t, f.get? name = some t → t.Fits

theorem fit_of_asFields {t : Toml} {names : List String} (ht : t.Fits)
    (h : t.asFields names = some f) : f.Fit := by
  have hplaced {items : List Toml} (hitems : ∀ item ∈ items, item.Fits) :
      Fit (.placed names items) := by
    intro name item hitem
    obtain ⟨before, after, heq, -⟩ := List.lookup_eq_some_iff.1 hitem
    have hmem : (name, item) ∈ names.zip items := by simp [heq]
    exact hitems item (List.of_mem_zip hmem).2
  unfold asFields at h
  split at h
  · cases h
    exact fun name item hitem => (fits_of_table ht).lookup hitem
  · cases h
    exact nofun
  · cases h
    cases ht
    exact hplaced (by assumption)
  · cases h
    cases ht
    exact hplaced (by assumption)
  · cases h

/-- What holds of the initial value and of all that is read holds of a field. -/
theorem Fit.of_read {P : α → Prop} {name : String} {initial a : α} {read : Toml → Option α}
    (h : f.Fit) (hread : f.read name initial read = some a) (hinitial : P initial)
    (hvalue : ∀ t a, t.Fits → read t = some a → P a) : P a := by
  unfold Fields.read at hread
  split at hread
  · rename_i t ht
    exact hvalue t a (h name t ht) hread
  · cases hread
    exact hinitial

theorem Fit.of_count (h : f.Fit) {name : String} {initial n : Nat}
    (hread : f.read name initial asNat = some n) (hinitial : fitsWord initial = true) :
    fitsWord n = true :=
  h.of_read (P := fun n : Nat => fitsWord n = true) hread hinitial fun _ _ => fitsWord_of_asNat

end Toml.Fields

/-- All counts of a section fit in a word. -/
def EngineSettings.Fit (s : EngineSettings) : Prop :=
  fitsWord s.concurrency = true ∧ fitsWord s.batchSize = true ∧ fitsWord s.timeoutMs = true

theorem EngineSettings.fit_of_ofToml {t : Toml} {s : EngineSettings} (ht : t.Fits)
    (h : ofToml t = some s) : s.Fit := by
  obtain ⟨f, hf, h⟩ := Option.bind_eq_some_iff.1 h
  obtain ⟨concurrency, hconcurrency, h⟩ := Option.bind_eq_some_iff.1 h
  obtain ⟨batchSize, hbatchSize, h⟩ := Option.bind_eq_some_iff.1 h
  obtain ⟨timeoutMs, htimeoutMs, h⟩ := Option.bind_eq_some_iff.1 h
  obtain ⟨useIndexes, -, h⟩ := Option.bind_eq_some_iff.1 h
  cases h
  have hfit := Fields.fit_of_asFields ht hf
  exact ⟨hfit.of_count hconcurrency rfl, hfit.of_count hbatchSize rfl,
    hfit.of_count htimeoutMs rfl⟩

/-- All counts of a section fit in a word. -/
def ScoringSettings.Fit (s : ScoringSettings) : Prop :=
  fitsWord s.concurrency = true ∧ fitsWord s.batchSize = true ∧ fitsWord s.timeoutMs = true ∧
    fitsWord s.cacheSeconds = true

theorem ScoringSettings.fit_of_ofToml {t : Toml} {s : ScoringSettings} (ht : t.Fits)
    (h : ofToml t = some s) : s.Fit := by
  obtain ⟨f, hf, h⟩ := Option.bind_eq_some_iff.1 h
  obtain ⟨concurrency, hconcurrency, h⟩ := Option.bind_eq_some_iff.1 h
  obtain ⟨batchSize, hbatchSize, h⟩ := Option.bind_eq_some_iff.1 h
  obtain ⟨timeoutMs, htimeoutMs, h⟩ := Option.bind_eq_some_iff.1 h
  obtain ⟨cacheSeconds, hcacheSeconds, h⟩ := Option.bind_eq_some_iff.1 h
  cases h
  have hfit := Fields.fit_of_asFields ht hf
  exact ⟨hfit.of_count hconcurrency rfl, hfit.of_count hbatchSize rfl,
    hfit.of_count htimeoutMs rfl, hfit.of_count hcacheSeconds rfl⟩

theorem SortSettings.fits_of_ofToml {t : Toml} {s : SortSettings} (ht : t.Fits)
    (h : ofToml t = some s) : fitsWord s.batchSize = true := by
  obtain ⟨f, hf, h⟩ := Option.bind_eq_some_iff.1 h
  obtain ⟨parallel, -, h⟩ := Option.bind_eq_some_iff.1 h
  obtain ⟨batchSize, hbatchSize, h⟩ := Option.bind_eq_some_iff.1 h
  obtain ⟨criteria, -, h⟩ := Option.bind_eq_some_iff.1 h
  cases h
  exact (Fields.fit_of_asFields ht hf).of_count hbatchSize rfl

/-- All counts of a section fit in a word. -/
def CacheSettings.Fit (s : CacheSettings) : Prop :=
  fitsWord s.resultSeconds = true ∧ fitsWord s.queueSize = true

theorem CacheSettings.fit_of_ofToml {t : Toml} {s : CacheSettings} (ht : t.Fits)
    (h : ofToml t = some s) : s.Fit := by
  obtain ⟨f, hf, h⟩ := Option.bind_eq_some_iff.1 h
  obtain ⟨backend, -, h⟩ := Option.bind_eq_some_iff.1 h
  obtain ⟨directory, -, h⟩ := Option.bind_eq_some_iff.1 h
  obtain ⟨bucket, -, h⟩ := Option.bind_eq_some_iff.1 h
  obtain ⟨resultSeconds, hresultSeconds, h⟩ := Option.bind_eq_some_iff.1 h
  obtain ⟨queueSize, hqueueSize, h⟩ := Option.bind_eq_some_iff.1 h
  cases h
  have hfit := Fields.fit_of_asFields ht hf
  exact ⟨hfit.of_count hresultSeconds rfl, hfit.of_count hqueueSize rfl⟩

namespace Config

variable {c c' : Config} {text : String}

/-- All counts of settings fit in a word of 64 bits with a sign, so that the file can hold them. -/
def Fits (c : Config) : Prop := ∀ s v, c.get? s = some v → s.Fits v

theorem fits_iff : c.Fits ↔ c.engine.Fit ∧ c.scoring.Fit ∧ fitsWord c.sort.batchSize = true ∧
    c.cache.Fit := by
  constructor
  · intro h
    exact ⟨⟨h .engineConcurrency _ rfl, h .engineBatchSize _ rfl, h .engineTimeout _ rfl⟩,
      ⟨h .scoringConcurrency _ rfl, h .scoringBatchSize _ rfl, h .scoringTimeout _ rfl,
        h .scoringCacheTime _ rfl⟩,
      h .sortBatchSize _ rfl, h .cacheTime _ rfl, h .cacheQueueSize _ rfl⟩
  · rintro ⟨⟨he₁, he₂, he₃⟩, ⟨hs₁, hs₂, hs₃, hs₄⟩, hsort, hc₁, hc₂⟩ s v hv
    cases s with
    | engineIndexes | sortParallel | sortCriteria | cacheBackend | cacheDirectory | cacheBucket
    | weight | repositoryWeight => trivial
    | engineConcurrency => cases hv; exact he₁
    | engineBatchSize => cases hv; exact he₂
    | engineTimeout => cases hv; exact he₃
    | scoringConcurrency => cases hv; exact hs₁
    | scoringBatchSize => cases hv; exact hs₂
    | scoringTimeout => cases hv; exact hs₃
    | scoringCacheTime => cases hv; exact hs₄
    | sortBatchSize => cases hv; exact hsort
    | cacheTime => cases hv; exact hc₁
    | cacheQueueSize => cases hv; exact hc₂

theorem fits_of_ofText (h : ofText text = .ok c) : c.Fits := by
  unfold ofText at h
  split at h
  · rename_i found hread
    cases h
    obtain ⟨t, ht, h⟩ := Option.bind_eq_some_iff.1 hread
    have htfits := fits_of_read? ht
    obtain ⟨f, hf, h⟩ := Option.bind_eq_some_iff.1 h
    obtain ⟨engine, hengine, h⟩ := Option.bind_eq_some_iff.1 h
    obtain ⟨scoring, hscoring, h⟩ := Option.bind_eq_some_iff.1 h
    obtain ⟨score, -, h⟩ := Option.bind_eq_some_iff.1 h
    obtain ⟨sort, hsort, h⟩ := Option.bind_eq_some_iff.1 h
    obtain ⟨cache, hcache, h⟩ := Option.bind_eq_some_iff.1 h
    cases h
    have hfit := Fields.fit_of_asFields htfits hf
    refine fits_iff.2 ⟨?_, ?_, ?_, ?_⟩
    · exact hfit.of_read hengine ⟨rfl, rfl, rfl⟩ fun _ _ => EngineSettings.fit_of_ofToml
    · exact hfit.of_read hscoring ⟨rfl, rfl, rfl, rfl⟩ fun _ _ => ScoringSettings.fit_of_ofToml
    · exact hfit.of_read (P := fun s : SortSettings => fitsWord s.batchSize = true) hsort rfl
        fun _ _ => SortSettings.fits_of_ofToml
    · exact hfit.of_read hcache ⟨rfl, rfl⟩ fun _ _ => CacheSettings.fit_of_ofToml
  · cases h

theorem Fits.override {overrides : List (String × String)} (h : c.Fits)
    (hoverridden : Overridden overrides c c') : c'.Fits := by
  intro s v hv
  by_cases hnamed : ∃ key text, (key, text) ∈ overrides ∧ SettingKey.ofText key = .ok s
  · obtain ⟨key, text, hmem, hkey⟩ := hnamed
    obtain ⟨s', v', hassigned⟩ := hoverridden.understood key text hmem
    cases Except.ok.inj (hkey.symm.trans hassigned.named)
    cases Option.some.inj (hv.symm.trans (hoverridden.given key text s v' hmem hassigned))
    exact SettingKey.fits_of_read hassigned.value
  · have hkept := hoverridden.kept s fun key text hmem hkey => hnamed ⟨key, text, hmem, hkey⟩
    exact h s v (hkept ▸ hv)

/-! ### Settings that come about -/

/-- Settings that come about from the initial ones by overriding and by loading. -/
inductive Reachable : Config → Prop
  | initial : Reachable {}
  | apply {c c' : Config} {overrides : SortedMap String} (h : Reachable c)
      (happly : c.apply overrides = .ok c') : Reachable c'
  | load {c : Config} {text : String} (hload : Config.load text = .ok c) : Reachable c

theorem load_ok_iff : load text = .ok c ↔ ofText text = .ok c ∧ c.validate = .ok () := by
  rw [load, bind_ok_iff]
  constructor
  · rintro ⟨c', hread, h⟩
    obtain ⟨_, hvalid, h⟩ := bind_ok_iff.1 h
    cases h
    exact ⟨hread, hvalid⟩
  · rintro ⟨hread, hvalid⟩
    exact ⟨c, hread, bind_ok_iff.2 ⟨(), hvalid, rfl⟩⟩

namespace Reachable

theorem validate (h : c.Reachable) : c.validate = .ok () := by
  cases h with
  | initial => rfl
  | apply h happly => exact (apply_ok_iff.1 happly).2
  | load hload => exact (load_ok_iff.1 hload).2

theorem fits (h : c.Reachable) : c.Fits := by
  induction h with
  | initial => exact fits_iff.2 ⟨⟨rfl, rfl, rfl⟩, ⟨rfl, rfl, rfl, rfl⟩, rfl, rfl, rfl⟩
  | apply h happly ih => exact ih.override (apply_ok_iff.1 happly).1
  | load hload => exact fits_of_ofText (load_ok_iff.1 hload).1

theorem isFinite (h : c.Reachable) : ∀ x ∈ c.score.values, x.isFinite = true := by
  have hvalid := h.validate
  rw [Config.validate, check_ok_iff, check_ok_iff, check_ok_iff, score_ok_iff] at hvalid
  obtain ⟨-, -, ⟨hweights, hrepositories⟩, -⟩ := hvalid
  intro x hx
  rcases List.mem_append.1 hx with hx | hx
  · obtain ⟨w, -, rfl⟩ := List.mem_map.1 hx
    exact hweights w.name _ (c.score.get?_name w)
  · obtain ⟨⟨repository, x⟩, hmem, rfl⟩ := List.mem_map.1 hx
    exact hrepositories repository x (SortedMap.mem_toList_iff.1 hmem)

end Reachable

/-- **Saved settings are loaded unchanged.**  This goes for all settings that come about, with
weights whose text is read as the number that it was written for: they can be written, and whoever
reads the file finds them again, whatever else is in the tree of files. -/
theorem saved_settings_load (h : c.Reachable)
    (hweights : ∀ x ∈ c.score.values, x.isFinite = true → ReadsBack x) :
    c.Fits ∧ load c.toText = .ok c ∧
      ∀ (files files' : Files) (path : String), files.Grounded → Files.IsNamed path →
        files.save path c.toText = .ok files' → CommandLine.readConfig files' path = .ok c := by
  have hload : load c.toText = .ok c :=
    load_ok_iff.2 ⟨ofText_toText h.fits fun x hx => hweights x hx (h.isFinite x hx), h.validate⟩
  refine ⟨h.fits, hload, fun files files' path hground hnamed hsave => ?_⟩
  obtain ⟨-, hread⟩ := (Files.written_of_save hground hsave).reads hnamed
  refine bind_ok_iff.2 ⟨c.toText, ?_, ?_⟩
  · rw [hread]
    rfl
  · rw [hload]
    rfl

/-- Overrides with texts that are written in several kinds of quotes. -/
def quotedOverrides : SortedMap String :=
  .ofList [("cache.directory", "C:\\it's\n\"\"\"here"),
    ("engine.concurrency", "9223372036854775807"), ("score.repo.a/\"b\" [c]", "0.5"),
    ("sort.criteria", "repo, time:asc")]

/-- The settings that they lead to. -/
def quotedConfig : Config where
  engine := { concurrency := 9223372036854775807 }
  score := Factors.initial.putRepository "a/\"b\" [c]" 0.5
  sort := { criteria := ["repo", "time:asc"] }
  cache := { directory := some "C:\\it's\n\"\"\"here" }

theorem readsBack_initial (w : Weight) : ReadsBack (Factors.initial.weight w) := by
  cases w <;> decide +kernel

theorem saved_settings_load_quoted :
    quotedConfig.Reachable ∧
      (∀ x ∈ quotedConfig.score.values, x.isFinite = true → ReadsBack x) ∧
      CommandLine.readConfig
        (Files.put {} ["config.toml"] (.file quotedConfig.toText)) "/config.toml" =
          .ok quotedConfig := by
  have happly : ({} : Config).apply quotedOverrides = .ok quotedConfig := rfl
  have hrepository : ReadsBack 0.5 := by decide +kernel
  have hweights : ∀ x ∈ quotedConfig.score.values, x.isFinite = true → ReadsBack x := by
    intro x hx _
    rcases List.mem_append.1 hx with hx | hx
    · obtain ⟨w, -, rfl⟩ := List.mem_map.1 hx
      exact readsBack_initial w
    · rw [List.mem_singleton.1 hx]
      exact hrepository
  have hsave (text : String) :
      Files.save {} "/config.toml" text = .ok (Files.put {} ["config.toml"] (.file text)) := rfl
  have hnamed : Files.IsNamed "/config.toml" := by
    refine ⟨?_, ?_, ?_⟩ <;> decide +kernel
  obtain ⟨-, -, hfile⟩ := saved_settings_load (.apply .initial happly) hweights
  exact ⟨.apply .initial happly, hweights, hfile {} _ "/config.toml" (Files.standing_root _) hnamed
    (hsave _)⟩

end Config

end Triage
