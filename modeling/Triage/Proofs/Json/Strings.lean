/-
Strings of JSON are read back as they were written.

Each character is written in such a way that the reader takes off just what was written for it, and
so a string ends where its closing quote was put.  The reader never looks beyond that quote, which
is why a text that goes on makes no difference to it.
-/
import Triage.Json.Reading
import Triage.Json.Writing

namespace Triage.Json

/-! ### What was written is read -/

theorem hexPiece?_control :
    ∀ n < 0x20, hexPiece? '0' '0' (Nat.digitChar (n / 16)) (Nat.digitChar (n % 16)) =
      some (.char (Char.ofNat n)) := by
  decide

/-- The reader takes off what was written for a character. -/
theorem pieces_escapeChar (seen : List Piece) (c : Char) (rest : List Char) :
    pieces seen (escapeChar c ++ rest) = pieces (.char c :: seen) rest := by
  unfold escapeChar
  split
  iterate 7 simp [pieces, shortEscape?]
  split
  · rename_i hcontrol
    have hpiece := hexPiece?_control c.toNat hcontrol
    rw [Char.ofNat_toNat] at hpiece
    simp [pieces, controlDigits, hpiece]
  · rename_i hquote hbackslash _ _ _ _ _ hcontrol
    show pieces seen (c :: rest) = _
    rw [pieces]
    · rw [if_neg hcontrol]
    · exact hquote
    · intro a b x y tail hbad _
      exact hbackslash hbad
    · intro x tail hbad _
      exact hbackslash hbad

theorem pieces_escaped (seen : List Piece) (cs rest : List Char) :
    pieces seen (cs.flatMap escapeChar ++ '"' :: rest) =
      some ((cs.map Piece.char).reverse ++ seen, rest) := by
  induction cs generalizing seen with
  | nil => simp [pieces]
  | cons c more ih =>
      rw [List.flatMap_cons, List.append_assoc, pieces_escapeChar, ih]
      simp

theorem join_chars (joined cs : List Char) :
    join joined (cs.map Piece.char) = some (cs.reverse ++ joined) := by
  induction cs generalizing joined with
  | nil => rfl
  | cons c more ih =>
      rw [List.map_cons, join, ih]
      simp

/-- A string is read up to its closing quote. -/
theorem readString_escaped (s : String) (rest : List Char) :
    readString (s.toList.flatMap escapeChar ++ '"' :: rest) = some (some s, rest) := by
  have hjoin : join [] (s.toList.map Piece.char).reverse = some s.toList := by
    rw [← List.map_reverse, join_chars]
    simp
  rw [readString, pieces_escaped, List.append_nil, Option.map_some]
  simp [hjoin]

/-! ### What follows does not matter -/

theorem pieces_append {seen : List Piece} {cs : List Char} {found : List Piece × List Char}
    (h : pieces seen cs = some found) (more : List Char) :
    pieces seen (cs ++ more) = some (found.1, found.2 ++ more) := by
  fun_induction pieces seen cs with
  | case1 => cases h
  | case2 seen rest =>
      cases h
      simp [pieces]
  | case3 seen a b c d rest piece hpiece ih =>
      simp only [List.cons_append, pieces, hpiece]
      exact ih h
  | case4 => cases h
  | case5 seen c rest hnot c' hc ih =>
      have hu : c ≠ 'u' := by
        rintro rfl
        simp [shortEscape?] at hc
      rw [List.cons_append, List.cons_append, pieces]
      · rw [hc]
        exact ih h
      · intro _ _ _ _ _ hbad
        exact absurd hbad hu
  | case6 => cases h
  | case7 => cases h
  | case8 seen c rest hquote hlong hshort hcontrol ih =>
      rw [List.cons_append, pieces]
      · rw [if_neg hcontrol]
        exact ih h
      · exact hquote
      · intro a b x y tail hbad htail
        subst hbad
        cases rest with
        | nil =>
            simp [pieces] at h
        | cons next rest => exact hshort next rest rfl rfl
      · intro x tail hbad htail
        subst hbad
        cases rest with
        | nil => simp [pieces] at h
        | cons next rest => exact hshort next rest rfl rfl

theorem readString_append {cs rest : List Char} {content : Option String}
    (h : readString cs = some (content, rest)) (more : List Char) :
    readString (cs ++ more) = some (content, rest ++ more) := by
  rw [readString, Option.map_eq_some_iff] at h ⊢
  obtain ⟨found, hfound, h⟩ := h
  cases h
  exact ⟨_, pieces_append hfound more, rfl⟩

end Triage.Json
