/-
What it takes to open a cache.

Settings are valid if the queue has room and the bucket has a proper name.  Of valid settings
only those fail to open a cache whose bucket cannot be the name of a table.
-/
import Triage.Cache.Basic
import Triage.Proofs.Except

namespace Triage.Cache

theorem Settings.validate_ok_iff {settings : Settings} : settings.validate = .ok () ↔
    0 < settings.queueSize ∧ isBucketName settings.bucket = true := by
  unfold validate
  split
  · rename_i hzero
    simp [hzero]
  · rename_i hpositive
    split
    · rename_i hname
      simp [Nat.pos_of_ne_zero hpositive, hname]
    · rename_i hname
      simp [hname]

theorem toOption_ofSettings {settings : Settings} (h : settings.validate = .ok ())
    (storage : Storage) : (ofSettings settings (.ok storage)).toOption =
      openIn settings.backend settings.bucket settings.queueSize storage := by
  unfold ofSettings
  simp only [h, bind, Except.bind, pure, Except.pure]
  cases openIn settings.backend settings.bucket settings.queueSize storage <;> rfl

/-- Whether the cache that settings ask for can be opened. -/
def Opens (settings : Settings) : Prop := (ofSettings settings (.ok {})).isOk = true

instance (settings : Settings) : Decidable (Opens settings) :=
  inferInstanceAs (Decidable ((ofSettings settings (.ok {})).isOk = true))

theorem Opens.exists_ofSettings {settings : Settings} (h : Opens settings) :
    ∃ s, ofSettings settings (.ok {}) = .ok s :=
  exists_of_isOk h

theorem Opens.validate {settings : Settings} (h : Opens settings) :
    settings.validate = .ok () := by
  obtain ⟨s, hs⟩ := h.exists_ofSettings
  obtain ⟨_, hvalidate, -⟩ := bind_ok_iff.1 hs
  exact hvalidate

theorem Opens.isBucketName {settings : Settings} (h : Opens settings) :
    isBucketName settings.bucket = true :=
  (Settings.validate_ok_iff.1 h.validate).2

theorem Opens.isTableName {settings : Settings} (h : Opens settings)
    (hbackend : settings.backend = .sqlite) : Storage.isTableName settings.bucket = true := by
  obtain ⟨s, hs⟩ := h.exists_ofSettings
  have hopen := toOption_ofSettings h.validate {}
  rw [hs] at hopen
  cases hname : Storage.isTableName settings.bucket with
  | true => rfl
  | false => simp [openIn, hbackend, hname, Except.toOption] at hopen

theorem opens_of_isTableName {settings : Settings} (hvalidate : settings.validate = .ok ())
    (hbackend : settings.backend = .sqlite)
    (hname : Storage.isTableName settings.bucket = true) : Opens settings := by
  have hopen := toOption_ofSettings hvalidate {}
  simp only [openIn, hbackend, hname, if_true] at hopen
  unfold Opens
  cases hsession : ofSettings settings (.ok {}) with
  | ok => rfl
  | error =>
      rw [hsession] at hopen
      cases hopen

end Triage.Cache
