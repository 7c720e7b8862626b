/-
Words that are looked for are found.

A word and the texts it is looked for in are put in lower case one by one, and then the one has to
occur in the other.  So an occurrence is found where the passage has the same lower case within its
text as the word has on its own.
-/
import Mathlib.Data.List.Infix
import Triage.Proofs.Text.Lowercase
import Triage.Query.Predicate

namespace Triage.Predicate

open Text

theorem occursIn_iff {needle cs : List Char} : occursIn needle cs = true ↔ needle <:+: cs := by
  induction cs with
  | nil => simp [occursIn]
  | cons c rest ih =>
      rw [occursIn, Bool.or_eq_true, List.isPrefixOf_iff_prefix, ih, List.infix_cons_iff]

/-- A word is found exactly in a text whose lower case has the lower case of the word in it. -/
theorem holds_ofText_iff {score : Notification → UInt8} {n : Notification} {word : String} :
    (ofText word).holds score n = true ↔
      ∃ text ∈ searched n, (lowercase word).toList <:+: (lowercase text).toList := by
  simp only [ofText, holds, List.any_eq_true, occursIn_iff]

/-- The passage of a text has its lower case in that of the text. -/
theorem between_infix_lowercase {text : String} {before cs after : List Char}
    (h : text.toList = before ++ (cs ++ after)) :
    Lowercase.between after before.reverse cs <:+: (lowercase text).toList := by
  rw [lowercase, String.toList_ofList, h, Lowercase.ofChars_append, Lowercase.ofChars_append,
    List.append_nil]
  exact ⟨_, _, List.append_assoc _ _ _⟩

/--
**What occurs is found.**  A word that occurs in one of the texts that words are looked for in is
found there, if its capital sigmas end the same words in the text as in the word itself.  That is
so for a word without capital sigmas, wherever it occurs, and for any word that no letters touch.
-/
theorem holds_ofText_of_occurs (score : Notification → UInt8) (n : Notification)
    (word text : String) (before after : List Char) (htext : text ∈ searched n)
    (h : text.toList = before ++ (word.toList ++ after)) :
    (Lowercase.KeepsSigmas before.reverse word.toList after →
      (ofText word).holds score n = true) ∧
      ('Σ' ∉ word.toList → (ofText word).holds score n = true) ∧
      (Lowercase.meetsLetter before.reverse = false → Lowercase.meetsLetter after = false →
        (ofText word).holds score n = true) := by
  have hfound (hkeeps : Lowercase.KeepsSigmas before.reverse word.toList after) :
      (ofText word).holds score n = true := by
    refine holds_ofText_iff.2 ⟨text, htext, ?_⟩
    rw [lowercase, String.toList_ofList, ← Lowercase.between_eq_iff.2 hkeeps]
    exact between_infix_lowercase h
  exact ⟨hfound, fun hnone => hfound (.of_not_mem hnone),
    fun hbefore hafter => hfound (.of_not_meetsLetter hbefore hafter _)⟩

/-- A name with sigmas in it and at its end, between quotes in a title, and a passage of two letters
that no sigma is in. -/
theorem holds_ofText_of_occurs_in_greek_title :
    let n : Notification := .build "n" "octo/hello" (.ofText "Issue")
      "Ἡ «ὈΔΥΣΣΕΥΣ» ΤΟΥ ΟΜΗΡΟΥ" .mention true ⟨1749999000, 0⟩
    (n.title ∈ searched n ∧
      n.title.toList = "Ἡ «".toList ++ ("ὈΔΥΣΣΕΥΣ".toList ++ "» ΤΟΥ ΟΜΗΡΟΥ".toList) ∧
      (ofText "ὈΔΥΣΣΕΥΣ").holds (fun _ => 0) n = true) ∧
      n.title.toList = "Ἡ «ὈΔ".toList ++ ("Υ".toList ++ "ΣΣΕΥΣ» ΤΟΥ ΟΜΗΡΟΥ".toList) ∧
      (ofText "Υ").holds (fun _ => 0) n = true := by
  intro n
  have hword : n.title.toList =
      "Ἡ «".toList ++ ("ὈΔΥΣΣΕΥΣ".toList ++ "» ΤΟΥ ΟΜΗΡΟΥ".toList) := by decide +kernel
  have hletter : n.title.toList =
      "Ἡ «ὈΔ".toList ++ ("Υ".toList ++ "ΣΣΕΥΣ» ΤΟΥ ΟΜΗΡΟΥ".toList) := by decide +kernel
  have htitle : n.title ∈ searched n := List.mem_cons_self
  obtain ⟨-, -, hwhole⟩ := holds_ofText_of_occurs (fun _ => 0) n _ _ _ _ htitle hword
  obtain ⟨-, hplain, -⟩ := holds_ofText_of_occurs (fun _ => 0) n _ _ _ _ htitle hletter
  exact ⟨⟨htitle, hword, hwhole (by decide +kernel) (by decide +kernel)⟩, hletter,
    hplain (by decide +kernel)⟩

/-- At the end of the word its sigma is final, and in the middle of the title it is not. -/
theorem not_holds_ofText_of_final_sigma :
    let n : Notification := .build "n" "octo/hello" (.ofText "Issue") "ΑΣΑ" .mention true
      ⟨1749999000, 0⟩
    n.title ∈ searched n ∧ n.title.toList = [] ++ ("ΑΣ".toList ++ ['Α']) ∧
      (ofText "ΑΣ").holds (fun _ => 0) n = false := by
  decide +kernel

end Triage.Predicate
