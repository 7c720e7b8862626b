/-
Case and blanks.

Lower case moves the twenty-six capitals and leaves every other character where it is; in a text of
ASCII characters that is all that the lower case of Unicode does.  A text is what is left of it when
it is trimmed, with blanks on both sides.
-/
import Mathlib.Data.List.TakeWhile
import Triage.Text.Ascii
import Triage.Text.Blank
import Triage.Text.Lowercase

namespace Triage.Text

/-! ### Case -/

/-- A capital becomes the letter 32 places further on, and every other character stays. -/
theorem toLower_cases (c : Char) : c.toLower = c ∨
    65 ≤ c.toNat ∧ c.toNat ≤ 90 ∧ c.toLower.toNat = c.toNat + 32 := by
  unfold Char.toLower
  split
  · rename_i hcapital
    have hfirst : 'A'.val.toNat = 65 := rfl
    have hlast : 'Z'.val.toNat = 90 := rfl
    have hshift : ('a'.val - 'A'.val).toNat = 32 := rfl
    right
    simp only [ge_iff_le, UInt32.le_iff_toNat_le, Char.toNat, UInt32.toNat_add] at hcapital ⊢
    omega
  · exact .inl rfl

/-- What lower case changes becomes a letter. -/
theorem toLower_eq_or (c : Char) :
    c.toLower = c ∨ 97 ≤ c.toLower.toNat ∧ c.toLower.toNat ≤ 122 :=
  (toLower_cases c).imp_right fun h => by omega

theorem toLower_toLower (c : Char) : c.toLower.toLower = c.toLower := by
  rcases toLower_cases c with heq | ⟨hfirst, -, hlower⟩
  · rw [heq, heq]
  · exact (toLower_cases c.toLower).resolve_right (by omega)

/-- Only a letter and its capital have that letter as their lower case. -/
theorem eq_or_eq_of_toLower {c : Char} (small capital : Char) (h : c.toLower = small)
    (hcapital : small.toNat = capital.toNat + 32) : c = small ∨ c = capital := by
  rcases toLower_cases c with heq | ⟨-, -, hlower⟩
  · exact .inl (heq.symm.trans h)
  · rw [h, hcapital, Nat.add_right_cancel_iff] at hlower
    exact .inr (Char.toNat_inj.1 hlower.symm)

@[simp] theorem asciiLower_asciiLower (s : String) : asciiLower (asciiLower s) = asciiLower s := by
  have htwice : Char.toLower ∘ Char.toLower = Char.toLower := funext toLower_toLower
  simp [asciiLower, htwice]

theorem asciiLower_append (s t : String) : asciiLower (s ++ t) = asciiLower s ++ asciiLower t := by
  simp [asciiLower]

theorem ofChars_of_isAscii {cs : List Char} (h : ∀ c ∈ cs, isAscii c = true)
    (before : List Char) : Lowercase.ofChars before cs = cs.map Char.toLower := by
  induction cs generalizing before with
  | nil => rfl
  | cons c cs ih =>
      have hascii : c.toNat < 128 := by simpa [isAscii] using h c List.mem_cons_self
      have hsigma : (c == 'Σ') = false := by
        refine beq_false_of_ne fun heq => ?_
        rw [heq] at hascii
        exact absurd hascii (by decide)
      rw [Lowercase.ofChars, ih fun d hd => h d (List.mem_cons_of_mem _ hd), hsigma,
        Lowercase.ofChar, if_pos hascii]
      rfl

theorem lowercase_of_isAscii {s : String} (h : ∀ c ∈ s.toList, isAscii c = true) :
    lowercase s = asciiLower s := by
  rw [lowercase, ofChars_of_isAscii h, asciiLower]

/-! ### Blanks -/

theorem trim_of_plain {s : String} (h : ∀ c ∈ s.toList, isBlank c = false) : trim s = s := by
  have hdrop {cs : List Char} (hcs : ∀ c ∈ cs, isBlank c = false) : cs.dropWhile isBlank = cs := by
    cases cs with
    | nil => rfl
    | cons c rest => rw [List.dropWhile_cons, hcs c List.mem_cons_self]; rfl
  rw [trim, trimStart, hdrop h, trimEnd, hdrop fun c hc => h c (List.mem_reverse.1 hc),
    List.reverse_reverse, String.ofList_toList]

theorem exists_blanks (s : String) : ∃ before after, (∀ c ∈ before, isBlank c = true) ∧
    (∀ c ∈ after, isBlank c = true) ∧ s.toList = before ++ ((trim s).toList ++ after) := by
  let core := s.toList.dropWhile isBlank
  refine ⟨s.toList.takeWhile isBlank, (core.reverse.takeWhile isBlank).reverse,
    fun c hc => List.mem_takeWhile_imp hc,
    fun c hc => List.mem_takeWhile_imp (List.mem_reverse.1 hc), ?_⟩
  rw [trim, String.toList_ofList, trimEnd, trimStart, ← List.reverse_append,
    List.takeWhile_append_dropWhile, List.reverse_reverse, List.takeWhile_append_dropWhile]

end Triage.Text
