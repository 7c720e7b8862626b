/-
Everything that a query accepts is in the bucket that its filter names.

A filter names the bucket of one of the conditions that have to hold together.  What meets that
condition has the value that the bucket is for; a pattern names a bucket only if it has nothing in
it but plain characters, and then it matches one name and its other spellings.
-/
import Triage.Proofs.Engine
import Triage.Proofs.Query.Conditions

namespace Triage

open Text

/-! ### Patterns without wildcards -/

namespace Glob

/-- No character begins a wildcard or a bracket. -/
def IsPlain (cs : List Char) : Prop := ∀ c ∈ cs, c ≠ '*' ∧ c ≠ '?' ∧ c ≠ '['

theorem isPlain_of_isLiteral {text : String} (h : isLiteral text = true) :
    IsPlain text.toList := by
  intro c hc
  rw [isLiteral, Bool.not_eq_true', List.any_eq_false] at h
  simpa [and_assoc] using h c hc

theorem readItems_of_isPlain {cs : List Char} (h : IsPlain cs) (previous : Option Char) :
    readItems previous cs = .ok (cs.map .char) := by
  induction cs generalizing previous with
  | nil => rw [readItems, List.map_nil]
  | cons c rest ih =>
      obtain ⟨hstar, hquery, hbracket⟩ := h c List.mem_cons_self
      rw [readItems, ih fun d hd => h d (List.mem_cons_of_mem _ hd)]
      · rfl
      all_goals simp_all

/-- Dropping the first character of a text drops the longest suffix. -/
theorem suffixes_chars_cons (pattern : List Char) (c : Char) (cs : List Char) :
    ∃ whole, suffixes (pattern.map .char) (c :: cs) =
      whole :: suffixes (pattern.map .char) cs := by
  induction pattern with
  | nil => exact ⟨_, rfl⟩
  | cons a rest ih =>
      obtain ⟨whole, h⟩ := ih
      rw [List.map_cons, suffixes, suffixes, h]
      exact ⟨_, rfl⟩

theorem headD_suffixes_chars (pattern cs : List Char) :
    (suffixes (pattern.map .char) cs).headD false = true ↔
      cs.map Char.toLower = pattern.map Char.toLower := by
  induction pattern generalizing cs with
  | nil => cases cs <;> simp [suffixes]
  | cons a rest ih =>
      cases cs with
      | nil => exact ⟨nofun, nofun⟩
      | cons c cs =>
          obtain ⟨whole, hwhole⟩ := suffixes_chars_cons rest c cs
          rw [List.map_cons, suffixes, hwhole]
          show (sameChar a c && (suffixes (rest.map .char) cs).headD false) = true ↔ _
          rw [Bool.and_eq_true, ih, sameChar, beq_iff_eq, List.map_cons, List.map_cons,
            List.cons.injEq, eq_comm (a := a.toLower)]

/-- A pattern without wildcards matches one text and its other spellings. -/
theorem isMatch_iff {g : Glob} (hread : ofText g.text = .ok g) (hliteral : isLiteral g.text = true)
    (s : String) : g.isMatch s = true ↔ asciiLower s = asciiLower g.text := by
  rw [ofText, readItems_of_isPlain (isPlain_of_isLiteral hliteral)] at hread
  have hitems : g.items = g.text.toList.map .char :=
    (congrArg Glob.items (Except.ok.inj hread)).symm
  rw [isMatch, hitems, headD_suffixes_chars, asciiLower, asciiLower, String.ofList_inj]

/-- A pattern keeps the text that it was read from. -/
theorem text_of_ofText {text : String} {g : Glob} (h : ofText text = .ok g) : g.text = text := by
  obtain ⟨items, -, hglob⟩ := bind_ok_iff.1 ((bind_pure_comp (Glob.mk text) _).trans h)
  cases hglob
  rfl

end Glob

/-! ### Conditions -/

namespace Predicate

theorem ofRepository_ok_iff {text : String} {p : Predicate} :
    ofRepository text = .ok p ↔ ∃ glob, Glob.ofText text = .ok glob ∧ repository glob = p := by
  rw [ofRepository]
  cases Glob.ofText text <;> simp

theorem ofOrganization_ok_iff {text : String} {p : Predicate} :
    ofOrganization text = .ok p ↔ ∃ glob, Glob.ofText text = .ok glob ∧ organization glob = p := by
  rw [ofOrganization]
  cases Glob.ofText text <;> simp

/-- A pattern of a condition was read from its own text. -/
def IsRead : Predicate → Prop
  | repository glob | organization glob => Glob.ofText glob.text = .ok glob
  | _ => True

/-- What meets a condition is in its bucket. -/
theorem mem_keys_of_holds {p : Predicate} {k : IndexKey} {score : Notification → UInt8}
    {n : Notification} (hread : p.IsRead) (hkey : p.key? = some k)
    (h : p.holds score n = true) : k ∈ n.keys := by
  cases p with
  | type kind =>
      cases hkey
      rw [holds, eqIgnoreCase_iff] at h
      simp [Notification.keys, h]
  | unread value =>
      cases hkey
      rw [holds, beq_iff_eq] at h
      simp [Notification.keys, h]
  | repository glob =>
      rw [key?] at hkey
      split at hkey
      · rename_i hliteral
        cases hkey
        simp [Notification.keys, (Glob.isMatch_iff hread hliteral _).1 h]
      · cases hkey
  | organization glob =>
      rw [key?] at hkey
      split at hkey
      · rename_i hliteral
        cases hkey
        simp [Notification.keys, (Glob.isMatch_iff hread hliteral _).1 h]
      · cases hkey
  | anything | reason | text | field | updated | score => cases hkey

end Predicate

/-! ### Formulas -/

namespace Formula

variable {α κ : Type} {key : α → Option κ} {test : α → Bool} {Member : κ → Prop} {k : κ}

mutual

/-- What a formula holds of belongs to its key, if that is so for its conditions. -/
theorem member_of_key? : (f : Formula α) →
    f.Every (fun a => ∀ k, key a = some k → test a = true → Member k) →
      f.key? key = some k → f.holds test = true → Member k
  | atom _, h, hkey, hholds => h k hkey hholds
  | all members, h, hkey, hholds => member_of_firstKey? members h hkey hholds
  | any _, _, hkey, _ => nomatch hkey
  | not _, _, hkey, _ => nomatch hkey

theorem member_of_firstKey? : (l : List (Formula α)) →
    EveryMember (fun a => ∀ k, key a = some k → test a = true → Member k) l →
      firstKey? key l = some k → holdsAll test l = true → Member k
  | [], _, hkey, _ => nomatch hkey
  | member :: rest, h, hkey, hholds => by
    obtain ⟨hmember, hrest⟩ := Bool.and_eq_true_iff.1 hholds
    rw [firstKey?, Option.or_eq_some_iff] at hkey
    rcases hkey with hkey | ⟨-, hkey⟩
    · exact member_of_key? member h.1 hkey hmember
    · exact member_of_firstKey? rest h.2 hkey hrest

end

end Formula

/-! ### Filters -/

namespace Query

/-- A condition that a key with a value stands for has its patterns from their own texts. -/
theorem Denotes.isRead {now : Calendar.Instant} {key value : String} {p : Predicate}
    (h : Denotes now key value p) : p.IsRead := by
  have hown {glob : Glob} (h : Glob.ofText value = .ok glob) :
      Glob.ofText glob.text = .ok glob :=
    (Glob.text_of_ofText h).symm ▸ h
  cases h with
  | repository _ h | organization _ h => exact hown h
  | unread | type | reason | updated | score | field => trivial

/-- **Going by the index leaves out nothing that a query accepts.** -/
theorem covers_of_filterOf {ctx : Context} {query : String} {f : Filter}
    (h : filterOf ctx query = .ok f) (score : Notification → UInt8) (list : List Notification) :
    Engine.Covers f.key? (f.accepts score) list := by
  have hread : f.Every Predicate.IsRead :=
    every_of_filterWithin ctx [] trivial (fun _ => trivial) query f h
      fun _ _ _ _ hp => hp.isRead
  intro k hk n _ hn
  have hmember : f.Every fun p => ∀ k, p.key? = some k → p.holds score n = true → k ∈ n.keys :=
    Formula.Every.imp (fun _ hp _ => Predicate.mem_keys_of_holds hp) f hread
  exact Formula.member_of_key? f hmember hk hn

end Query

end Triage
