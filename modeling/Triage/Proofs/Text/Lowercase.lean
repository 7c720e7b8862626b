/-
Lower case of a passage.

The lower case of a text is that of its passages one after the other, where each is put in lower
case between the characters around it.  Every character but the capital sigma is mapped by itself,
and the sigma only asks whether a word ends there.  So a passage has the same lower case within a
text as on its own exactly if its sigmas end the same words in both places.
-/
import Triage.Text.Lowercase

namespace Triage.Text.Lowercase

variable {before after cs rest : List Char}

/-- Whether a capital sigma between some characters ends a word.  Those before it are in reverse
order. -/
def endsWord (before after : List Char) : Bool := meetsLetter before && !meetsLetter after

/-- The lower case of a passage between other characters, of which those before it are in reverse
order. -/
def between (after before : List Char) : List Char → List Char
  | [] => []
  | c :: rest =>
    (if c == 'Σ' then [if endsWord before (rest ++ after) then 'ς' else 'σ'] else ofChar c) ++
      between after (c :: before) rest

/-- A text is put in lower case passage by passage. -/
theorem ofChars_append (before cs after : List Char) :
    ofChars before (cs ++ after) =
      between after before cs ++ ofChars (cs.reverse ++ before) after := by
  induction cs generalizing before with
  | nil => rfl
  | cons c rest ih =>
      rw [List.cons_append, ofChars, ih, between, endsWord]
      simp

/-- The capital sigmas of a passage end a word between other characters where they end one without
them. -/
def KeepsSigmas (before cs after : List Char) : Prop :=
  ∀ u v, cs = u ++ 'Σ' :: v →
    endsWord (u.reverse ++ before) (v ++ after) = endsWord u.reverse v

/-- Each sigma of a text is its first character or one of the others. -/
theorem forall_sigma_cons {c : Char} {P : List Char → List Char → Prop} :
    (∀ u v, c :: rest = u ++ 'Σ' :: v → P u v) ↔
      (c = 'Σ' → P [] rest) ∧ ∀ u v, rest = u ++ 'Σ' :: v → P (c :: u) v := by
  constructor
  · intro h
    exact ⟨fun hc => h [] rest (by rw [hc]; rfl),
      fun u v hrest => h (c :: u) v (by rw [hrest]; rfl)⟩
  · rintro ⟨hfirst, hrest⟩ u v hcs
    cases u with
    | nil =>
        cases hcs
        exact hfirst rfl
    | cons c' u =>
        cases hcs
        exact hrest u v rfl

theorem sigma_eq_iff {a b : Bool} :
    (if a = true then 'ς' else 'σ') = (if b = true then 'ς' else 'σ') ↔ a = b := by
  cases a <;> cases b <;> decide

/-- As `between_eq_iff`, where a part of the passage was read already. -/
theorem between_append_eq_iff (after before start cs : List Char) :
    between after (start ++ before) cs = ofChars start cs ↔
      ∀ u v, cs = u ++ 'Σ' :: v →
        endsWord (u.reverse ++ start ++ before) (v ++ after) = endsWord (u.reverse ++ start) v := by
  induction cs generalizing start with
  | nil => simp [between, ofChars]
  | cons c rest ih =>
      have hrest := ih (c :: start)
      rw [List.cons_append] at hrest
      rw [forall_sigma_cons, between, ofChars]
      by_cases hc : c = 'Σ'
      · subst hc
        simp only [beq_self_eq_true, if_true, List.singleton_append, List.cons.injEq]
        rw [← endsWord, sigma_eq_iff, hrest]
        simp
      · simp only [beq_iff_eq, hc, if_false, List.append_cancel_left_eq]
        rw [hrest]
        simp

/-- **A passage keeps its lower case exactly if it keeps its sigmas.** -/
theorem between_eq_iff :
    between after before cs = ofChars [] cs ↔ KeepsSigmas before cs after := by
  simpa [KeepsSigmas] using between_append_eq_iff after before [] cs

/-! ### Passages that keep their sigmas -/

theorem meetsLetter_append_of_not (h : meetsLetter after = false) (cs : List Char) :
    meetsLetter (cs ++ after) = meetsLetter cs := by
  unfold meetsLetter at h ⊢
  rw [List.dropWhile_append]
  cases hdrop : cs.dropWhile isIgnorable with
  | nil => simpa using h
  | cons c rest => rfl

namespace KeepsSigmas

theorem of_not_mem (h : 'Σ' ∉ cs) : KeepsSigmas before cs after := by
  rintro u v rfl
  exact absurd (List.mem_append_right u List.mem_cons_self) h

/-- Between no letters each word of a passage is a whole one. -/
theorem of_not_meetsLetter (hbefore : meetsLetter before = false)
    (hafter : meetsLetter after = false) (cs : List Char) : KeepsSigmas before cs after := by
  intro u v _
  rw [endsWord, endsWord, meetsLetter_append_of_not hbefore, meetsLetter_append_of_not hafter]

end KeepsSigmas

end Triage.Text.Lowercase
