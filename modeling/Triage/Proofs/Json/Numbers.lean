/-
Numbers of JSON are read back as they were written.

A number has no mark at its end: it ends where a character stands that cannot go on with it.  So
reading one depends on what follows, but only on the first character of that, and only if the number
fills the text.  Whole numbers and doubles are all written in the grammar of numbers.
-/
import Triage.Json.Reading
import Triage.Proofs.Decimal.Digits
import Triage.Proofs.Decimal.Shortest

namespace Triage.Json

open Decimal

/-- A text that does not go on with a number. -/
def Delimited (cs : List Char) : Prop :=
  ∀ c ∈ cs.head?, c.isDigit = false ∧ c ≠ '.' ∧ c ≠ 'e' ∧ c ≠ 'E'

theorem Delimited.nil : Delimited [] := fun _ h => nomatch h

theorem Delimited.cons {c : Char} (h : c.isDigit = false ∧ c ≠ '.' ∧ c ≠ 'e' ∧ c ≠ 'E')
    (cs : List Char) : Delimited (c :: cs) := by
  intro d hd
  cases hd
  exact h

/-! ### What follows a number

Each part of a number is read from the front of a text.  If something is left, its end was seen and
more text makes no difference; otherwise more text must not go on with the number.
-/

section append

variable {cs rest more : List Char} {found : List Char}

theorem someDigits_append (h : someDigits cs = some (found, rest))
    (hmore : rest ≠ [] ∨ Delimited more) : someDigits (cs ++ more) = some (found, rest ++ more) := by
  rw [someDigits] at h ⊢
  split at h
  · cases h
  · rename_i hsome
    cases h
    have htake : (cs ++ more).takeWhile Char.isDigit = cs.takeWhile Char.isDigit := by
      rw [List.takeWhile_append]
      split
      · rename_i hall
        have hrest : cs.drop (cs.takeWhile Char.isDigit).length = [] := by simp [hall]
        have hnone : more.takeWhile Char.isDigit = [] := by
          cases more with
          | nil => rfl
          | cons c _ =>
              have hc := ((hmore.resolve_left fun hne => hne hrest) c rfl).1
              simp [hc]
        rw [hnone, List.append_nil, (List.takeWhile_prefix _).eq_of_length hall]
      · rfl
    rw [htake, if_neg hsome,
      List.drop_append_of_le_length (List.takeWhile_prefix _).length_le]

theorem wholePart_cons_of_ne {c : Char} (hc : c ≠ '0') (tail : List Char) :
    wholePart (c :: tail) = someDigits (c :: tail) := by
  rw [wholePart]
  intro _ heq
  cases heq
  exact hc rfl

theorem wholePart_append (h : wholePart cs = some (found, rest))
    (hmore : rest ≠ [] ∨ Delimited more) : wholePart (cs ++ more) = some (found, rest ++ more) := by
  cases cs with
  | nil => cases h
  | cons c tail =>
      by_cases hc : c = '0'
      · subst hc
        cases h
        rfl
      · rw [wholePart_cons_of_ne hc] at h
        rw [List.cons_append, wholePart_cons_of_ne hc]
        exact someDigits_append h hmore

theorem fractionPart_cons_of_ne {c : Char} (hc : c ≠ '.') (tail : List Char) :
    fractionPart (c :: tail) = some ([], c :: tail) := by
  rw [fractionPart]
  intro _ heq
  cases heq
  exact hc rfl

theorem fractionPart_of_delimited (h : Delimited more) :
    fractionPart more = some ([], more) := by
  cases more with
  | nil => rfl
  | cons c tail => exact fractionPart_cons_of_ne (h c rfl).2.1 tail

theorem fractionPart_append (h : fractionPart cs = some (found, rest))
    (hmore : rest ≠ [] ∨ Delimited more) :
    fractionPart (cs ++ more) = some (found, rest ++ more) := by
  cases cs with
  | nil =>
      cases h
      exact fractionPart_of_delimited (hmore.resolve_left fun hne => hne rfl)
  | cons c tail =>
      by_cases hc : c = '.'
      · subst hc
        obtain ⟨⟨digits, after⟩, hdigits, h⟩ := Option.map_eq_some_iff.1 h
        cases h
        rw [List.cons_append, fractionPart, someDigits_append hdigits hmore]
        rfl
      · rw [fractionPart_cons_of_ne hc] at h
        cases h
        rw [List.cons_append, fractionPart_cons_of_ne hc]

theorem exponentPart_of_delimited (h : Delimited more) :
    exponentPart more = some ([], more) := by
  cases more with
  | nil => rfl
  | cons c tail =>
      obtain ⟨-, -, hlower, hupper⟩ := h c rfl
      unfold exponentPart
      simp [hlower, hupper]

theorem exponentPart_append (h : exponentPart cs = some (found, rest))
    (hmore : rest ≠ [] ∨ Delimited more) :
    exponentPart (cs ++ more) = some (found, rest ++ more) := by
  cases cs with
  | nil =>
      cases h
      exact exponentPart_of_delimited (hmore.resolve_left fun hne => hne rfl)
  | cons e tail =>
      unfold exponentPart at h ⊢
      simp only [List.cons_append] at h ⊢
      split at h
      · rename_i he
        rw [if_pos he]
        cases tail with
        | nil => cases h
        | cons sign tail =>
            simp only [List.cons_append] at h ⊢
            split at h
            · rename_i hsign
              obtain ⟨⟨digits, after⟩, hdigits, h⟩ := Option.map_eq_some_iff.1 h
              cases h
              rw [if_pos hsign, someDigits_append hdigits hmore]
              rfl
            · rename_i hsign
              obtain ⟨⟨digits, after⟩, hdigits, h⟩ := Option.map_eq_some_iff.1 h
              cases h
              rw [if_neg hsign, ← List.cons_append, someDigits_append hdigits hmore]
              rfl
      · rename_i he
        cases h
        rw [if_neg he]
        rfl

/-- Nothing comes of nothing. -/
theorem ne_nil_of_fractionPart (h : fractionPart cs = some (found, rest)) (hrest : rest ≠ []) :
    cs ≠ [] := by
  rintro rfl
  cases h
  exact hrest rfl

theorem ne_nil_of_exponentPart (h : exponentPart cs = some (found, rest)) (hrest : rest ≠ []) :
    cs ≠ [] := by
  rintro rfl
  cases h
  exact hrest rfl

/-- A number after its sign. -/
def readUnsigned (sign cs : List Char) : Option (Json × List Char) := do
  let (whole, cs) ← wholePart cs
  if cs.head?.any Char.isDigit then none
  else do
    let (fraction, cs) ← fractionPart cs
    let (exponent, cs) ← exponentPart cs
    some (.number (String.ofList (sign ++ whole ++ fraction ++ exponent)), cs)

theorem readNumber_minus (cs : List Char) : readNumber ('-' :: cs) = readUnsigned ['-'] cs := rfl

theorem readNumber_of_ne (h : cs.head? ≠ some '-') : readNumber cs = readUnsigned [] cs := by
  cases cs with
  | nil => rfl
  | cons c tail =>
      have hc : c ≠ '-' := fun heq => h (by rw [heq]; rfl)
      unfold readNumber
      split
      rename_i sign cs' heq
      split at heq
      · rename_i hcons
        cases hcons
        exact absurd rfl hc
      · cases heq
        rfl

theorem readUnsigned_eq_some {sign : List Char} {found : Json} :
    readUnsigned sign cs = some (found, rest) ↔ ∃ whole cs₁ fraction cs₂ exponent,
      wholePart cs = some (whole, cs₁) ∧ cs₁.head?.any Char.isDigit = false ∧
      fractionPart cs₁ = some (fraction, cs₂) ∧ exponentPart cs₂ = some (exponent, rest) ∧
      found = .number (String.ofList (sign ++ whole ++ fraction ++ exponent)) := by
  constructor
  · intro h
    obtain ⟨⟨whole, cs₁⟩, hwhole, h⟩ := Option.bind_eq_some_iff.1 h
    simp only at h
    split at h
    · cases h
    · rename_i hdigit
      obtain ⟨⟨fraction, cs₂⟩, hfraction, h⟩ := Option.bind_eq_some_iff.1 h
      obtain ⟨⟨exponent, cs₃⟩, hexponent, h⟩ := Option.bind_eq_some_iff.1 h
      cases h
      exact ⟨whole, cs₁, fraction, cs₂, exponent, hwhole, by simpa using hdigit, hfraction,
        hexponent, rfl⟩
  · rintro ⟨whole, cs₁, fraction, cs₂, exponent, hwhole, hdigit, hfraction, hexponent, rfl⟩
    rw [readUnsigned, hwhole]
    simp [hdigit, hfraction, hexponent]

theorem readUnsigned_append {sign : List Char} {found : Json}
    (h : readUnsigned sign cs = some (found, rest)) (hmore : rest ≠ [] ∨ Delimited more) :
    readUnsigned sign (cs ++ more) = some (found, rest ++ more) := by
  obtain ⟨whole, cs₁, fraction, cs₂, exponent, hwhole, hdigit, hfraction, hexponent, rfl⟩ :=
    readUnsigned_eq_some.1 h
  have hmore₂ : cs₂ ≠ [] ∨ Delimited more := hmore.imp_left (ne_nil_of_exponentPart hexponent)
  have hmore₁ : cs₁ ≠ [] ∨ Delimited more := hmore₂.imp_left (ne_nil_of_fractionPart hfraction)
  refine readUnsigned_eq_some.2 ⟨whole, _, fraction, _, exponent, wholePart_append hwhole hmore₁,
    ?_, fractionPart_append hfraction hmore₂, exponentPart_append hexponent hmore, rfl⟩
  cases cs₁ with
  | cons c _ => exact hdigit
  | nil =>
      have hmore := hmore₁.resolve_left fun hne => hne rfl
      cases more with
      | nil => rfl
      | cons c _ => simpa using (hmore c rfl).1

theorem readNumber_append {found : Json} (h : readNumber cs = some (found, rest))
    (hmore : rest ≠ [] ∨ Delimited more) :
    readNumber (cs ++ more) = some (found, rest ++ more) := by
  cases cs with
  | nil => cases h
  | cons c tail =>
      by_cases hc : c = '-'
      · subst hc
        exact readUnsigned_append h hmore
      · have hne (tail : List Char) : (c :: tail).head? ≠ some '-' := fun heq =>
          hc (Option.some.inj heq)
        rw [readNumber_of_ne (hne tail)] at h
        rw [List.cons_append, readNumber_of_ne (hne _)]
        exact readUnsigned_append h hmore

end append

/-! ### Texts of numbers -/

/-- Digits of which the first is zero only if there are no others. -/
structure IsWhole (cs : List Char) : Prop where
  ne_nil : cs ≠ []
  digits : ∀ c ∈ cs, c.isDigit = true
  head : cs = ['0'] ∨ cs.head? ≠ some '0'

/-- A point and digits, or nothing. -/
def IsFraction (cs : List Char) : Prop :=
  cs = [] ∨ ∃ digits, cs = '.' :: digits ∧ digits ≠ [] ∧ ∀ c ∈ digits, c.isDigit = true

/-- A signed exponent, or nothing. -/
def IsExponent (cs : List Char) : Prop :=
  cs = [] ∨ ∃ sign digits, cs = 'e' :: sign :: digits ∧ (sign = '+' ∨ sign = '-') ∧
    digits ≠ [] ∧ ∀ c ∈ digits, c.isDigit = true

/-- A text that is read as one number. -/
def IsNumber (text : String) : Prop := readNumber text.toList = some (.number text, [])

theorem someDigits_of_all {cs rest : List Char} (hne : cs ≠ [])
    (hdigits : ∀ c ∈ cs, c.isDigit = true) (hrest : ∀ c ∈ rest.head?, c.isDigit = false) :
    someDigits (cs ++ rest) = some (cs, rest) := by
  have htake : (cs ++ rest).takeWhile Char.isDigit = cs := by
    rw [List.takeWhile_append_of_pos hdigits]
    cases rest with
    | nil => simp
    | cons c _ => simp [hrest c rfl]
  rw [someDigits, htake, if_neg (by simpa using hne), List.drop_left]

theorem IsFraction.head {cs : List Char} (h : IsFraction cs) {c : Char} (hc : c ∈ cs.head?) :
    c = '.' := by
  rcases h with rfl | ⟨digits, rfl, -⟩
  · cases hc
  · cases hc
    rfl

theorem IsExponent.head {cs : List Char} (h : IsExponent cs) {c : Char} (hc : c ∈ cs.head?) :
    c = 'e' := by
  rcases h with rfl | ⟨sign, digits, rfl, -⟩
  · cases hc
  · cases hc
    rfl

theorem IsFraction.read {cs exponent : List Char} (h : IsFraction cs) (hexp : IsExponent exponent) :
    fractionPart (cs ++ exponent) = some (cs, exponent) := by
  rcases h with rfl | ⟨digits, rfl, hne, hdigits⟩
  · cases exponent with
    | nil => rfl
    | cons c tail =>
        refine fractionPart_cons_of_ne ?_ tail
        rw [hexp.head (c := c) rfl]
        decide
  · rw [List.cons_append, fractionPart, someDigits_of_all hne hdigits]
    · rfl
    · intro c hc
      rw [hexp.head hc]
      rfl

theorem IsExponent.read {cs : List Char} (h : IsExponent cs) :
    exponentPart cs = some (cs, []) := by
  rcases h with rfl | ⟨sign, digits, rfl, hsign, hne, hdigits⟩
  · rfl
  · have hread : someDigits digits = some (digits, []) := by
      have hall := @someDigits_of_all digits [] hne hdigits nofun
      rwa [List.append_nil] at hall
    rcases hsign with rfl | rfl <;> simp [exponentPart, hread]

/-- Parts of the right shape make a number, with or without a sign. -/
theorem isNumber_of_parts (negative : Bool) {whole fraction exponent : List Char}
    (hwhole : IsWhole whole) (hfraction : IsFraction fraction) (hexponent : IsExponent exponent) :
    IsNumber (String.ofList (signed negative (whole ++ fraction ++ exponent))) := by
  have hrest : ∀ c ∈ (fraction ++ exponent).head?, c.isDigit = false := by
    intro c hc
    cases fraction with
    | nil =>
        rw [hexponent.head hc]
        rfl
    | cons d tail =>
        rw [hfraction.head (c := c) hc]
        rfl
  have hread : wholePart (whole ++ (fraction ++ exponent)) = some (whole, fraction ++ exponent) := by
    obtain ⟨c, tail, rfl⟩ := List.exists_cons_of_ne_nil hwhole.ne_nil
    by_cases hc : c = '0'
    · subst hc
      rcases hwhole.head with heq | hhead
      · cases heq
        rfl
      · exact absurd rfl hhead
    · rw [List.cons_append, wholePart_cons_of_ne hc]
      exact someDigits_of_all hwhole.ne_nil hwhole.digits hrest
  have hunsigned (sign : List Char) : readUnsigned sign (whole ++ fraction ++ exponent) =
      some (.number (String.ofList (sign ++ whole ++ fraction ++ exponent)), []) := by
    refine readUnsigned_eq_some.2 ⟨whole, _, fraction, _, exponent, ?_, ?_,
      hfraction.read hexponent, hexponent.read, rfl⟩
    · rw [List.append_assoc]
      exact hread
    · cases hhead : (fraction ++ exponent).head? with
      | none => rfl
      | some c => exact hrest c hhead
  rw [IsNumber, String.toList_ofList]
  cases negative with
  | true =>
      show readNumber ('-' :: (whole ++ fraction ++ exponent)) = _
      rw [readNumber_minus, hunsigned]
      rfl
  | false =>
      show readNumber (whole ++ fraction ++ exponent) = _
      rw [readNumber_of_ne, hunsigned]
      · rfl
      · obtain ⟨c, tail, rfl⟩ := List.exists_cons_of_ne_nil hwhole.ne_nil
        intro heq
        have hc := hwhole.digits c List.mem_cons_self
        cases heq
        revert hc
        decide

/-! ### What is written as a number -/

theorem isFraction_nil : IsFraction [] := .inl rfl

theorem isExponent_nil : IsExponent [] := .inl rfl

theorem isWhole_digitsOf (n : Nat) : IsWhole (digitsOf n) where
  ne_nil := digitsOf_ne_nil n
  digits _ := isDigit_of_mem_digitsOf
  head := by
    by_cases hn : n = 0
    · exact .inl (by rw [hn, digitsOf_zero])
    · exact .inr (head?_digitsOf hn)

theorem isNumber_digitsOf (n : Nat) : IsNumber (String.ofList (digitsOf n)) := by
  have hnumber := isNumber_of_parts false (isWhole_digitsOf n) isFraction_nil isExponent_nil
  rwa [List.append_nil, List.append_nil] at hnumber

/-- Digits laid out without an exponent make a whole number and a fraction. -/
theorem parts_of_positional {d : Decimal} (h : d = ⟨0, 0⟩ ∨ d.digits ≠ 0) :
    ∃ whole fraction, positional d = whole ++ fraction ∧ IsWhole whole ∧ IsFraction fraction := by
  have hdigit {c : Char} : c ∈ digitsOf d.digits → c.isDigit = true := isDigit_of_mem_digitsOf
  have hne := digitsOf_ne_nil d.digits
  rw [positional]
  split
  · refine ⟨digitsOf d.digits ++ zeros d.exponent.toNat, [], (List.append_nil _).symm, ?_,
      isFraction_nil⟩
    refine ⟨by simp [hne], ?_, ?_⟩
    · intro c hc
      rcases List.mem_append.1 hc with hc | hc
      · exact hdigit hc
      · exact isDigit_of_mem_zeros hc
    · rcases h with rfl | h
      · exact .inl rfl
      · refine .inr ?_
        rw [List.head?_append, Option.or_of_isSome (by simp [hne])]
        exact head?_digitsOf h
  · rename_i hexp
    have hd : d.digits ≠ 0 := by
      rcases h with rfl | h
      · exact absurd (Int.le_refl 0) hexp
      · exact h
    simp only
    split
    · rename_i hplaces
      refine ⟨_, _, rfl, ⟨?_, ?_, .inr ?_⟩, .inr ⟨_, rfl, ?_, ?_⟩⟩
      · intro hnil
        rw [List.take_eq_nil_iff] at hnil
        rcases hnil with hnil | hnil
        · omega
        · exact hne hnil
      · exact fun c hc => hdigit (List.mem_of_mem_take hc)
      · rw [List.head?_take, if_neg (by omega)]
        exact head?_digitsOf hd
      · rw [Ne, List.drop_eq_nil_iff]
        omega
      · exact fun c hc => hdigit (List.mem_of_mem_drop hc)
    · refine ⟨['0'], _, rfl, ⟨by simp, by simp, .inl rfl⟩, .inr ⟨_, rfl, by simp [hne], ?_⟩⟩
      intro c hc
      rcases List.mem_append.1 hc with hc | hc
      · exact isDigit_of_mem_zeros hc
      · exact hdigit hc

theorem parts_of_pointed {d : Decimal} (h : d = ⟨0, 0⟩ ∨ d.digits ≠ 0) :
    ∃ whole fraction, pointed (positional d) = whole ++ fraction ∧ IsWhole whole ∧
      IsFraction fraction := by
  obtain ⟨whole, fraction, hparts, hwhole, hfraction⟩ := parts_of_positional h
  rw [pointed, hparts]
  split
  · exact ⟨whole, fraction, rfl, hwhole, hfraction⟩
  · rename_i hpoint
    rcases hfraction with rfl | ⟨digits, rfl, -⟩
    · exact ⟨whole, ['.', '0'], by simp, hwhole, .inr ⟨['0'], rfl, by simp, by simp⟩⟩
    · exact absurd (by simp) hpoint

theorem parts_of_leading {cs : List Char} (hne : cs ≠ []) (h : ∀ c ∈ cs, c.isDigit = true) :
    ∃ whole fraction, leading cs = whole ++ fraction ∧ IsWhole whole ∧ IsFraction fraction := by
  obtain ⟨c, rest, rfl⟩ := List.exists_cons_of_ne_nil hne
  have hwhole : IsWhole [c] := by
    refine ⟨by simp, by simpa using h c List.mem_cons_self, ?_⟩
    by_cases hc : c = '0'
    · exact .inl (by rw [hc])
    · exact .inr fun heq => hc (Option.some.inj heq)
  cases rest with
  | nil => exact ⟨[c], [], rfl, hwhole, isFraction_nil⟩
  | cons d rest =>
      exact ⟨[c], '.' :: d :: rest, rfl, hwhole, .inr ⟨_, rfl, by simp,
        fun x hx => h x (List.mem_cons_of_mem _ hx)⟩⟩

/-- Finite doubles are written as numbers. -/
theorem isNumber_json? {x : Float} {text : String} (h : json? x = some text) : IsNumber text := by
  unfold json? at h
  split at h
  · cases h
  · cases h
  · rename_i b _
    have hshortest := Binary.shortest_eq_zero_or .even b
    simp only [Option.some.injEq] at h
    subst h
    split
    · obtain ⟨whole, fraction, hparts, hwhole, hfraction⟩ := parts_of_pointed hshortest
      rw [hparts, ← List.append_nil (whole ++ fraction)]
      exact isNumber_of_parts b.negative hwhole hfraction isExponent_nil
    · obtain ⟨whole, fraction, hparts, hwhole, hfraction⟩ :=
        parts_of_leading (digitsOf_ne_nil _) fun c hc => isDigit_of_mem_digitsOf hc
      rw [hparts]
      refine isNumber_of_parts b.negative hwhole hfraction (.inr ⟨_, _, rfl, ?_,
        digitsOf_ne_nil _, fun c hc => isDigit_of_mem_digitsOf hc⟩)
      split
      · exact .inr rfl
      · exact .inl rfl

end Triage.Json
