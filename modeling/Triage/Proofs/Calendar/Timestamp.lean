/-
Instants are read back from their text.

Each field is written with as many digits as the reader takes, or ends at a character that is not a
digit, so the fields come back one by one.  Put together again they make the same second of the same
day; a leap second is told by its number, sixty.
-/
import Mathlib.Algebra.Group.Nat.Defs
import Triage.Calendar.Timestamp
import Triage.Proofs.Calendar.Date
import Triage.Proofs.Decimal.Digits

namespace Triage.Calendar

open Decimal Text

/-! ### Padded numbers -/

theorem padded_eq (width n : Nat) :
    padded width n = zeros (width - (digitsOf n).length) ++ digitsOf n := rfl

theorem isDigit_of_mem_padded {width n : Nat} {c : Char} (h : c ∈ padded width n) :
    c.isDigit = true := by
  rw [padded_eq] at h
  rcases List.mem_append.1 h with h | h
  · exact isDigit_of_mem_zeros h
  · exact isDigit_of_mem_digitsOf h

theorem digitsValue_padded (width n : Nat) : digitsValue (padded width n) = n := by
  rw [padded_eq, digitsValue_zeros_append, digitsValue_digitsOf]

theorem length_padded (width n : Nat) : (padded width n).length = max width (digitsOf n).length := by
  rw [padded_eq, zeros, List.length_append, List.length_replicate]
  omega

theorem length_padded_of_lt {width n : Nat} (hwidth : 0 < width) (h : n < 10 ^ width) :
    (padded width n).length = width := by
  have hshort : (digitsOf n).length ≤ width :=
    (Nat.length_toDigits_le_iff (by decide) hwidth).2 h
  rw [length_padded]
  omega

theorem padded_eq_cons (width n : Nat) : ∃ c tail, padded width n = c :: tail := by
  refine List.exists_cons_of_ne_nil fun hnil => digitsOf_ne_nil n ?_
  rw [padded_eq, List.append_eq_nil_iff] at hnil
  exact hnil.2

theorem not_isBlank_of_isDigit {c : Char} (h : c.isDigit = true) : isBlank c = false := by
  simp only [Char.isDigit, Bool.and_eq_true, decide_eq_true_eq, UInt32.le_iff_toNat_le] at h
  have hlow : 48 ≤ c.toNat := h.1
  have hhigh : c.toNat ≤ 57 := h.2
  simp only [isBlank, Bool.or_eq_false_iff, Bool.and_eq_false_iff, beq_eq_false_iff_ne,
    decide_eq_false_iff_not]
  omega

/-- A number is not preceded by blanks. -/
theorem trimStart_padded (width n : Nat) (rest : List Char) :
    trimStart (padded width n ++ rest) = padded width n ++ rest := by
  obtain ⟨c, tail, heq⟩ := padded_eq_cons width n
  have hc : c.isDigit = true := isDigit_of_mem_padded (by rw [heq]; exact List.mem_cons_self)
  rw [heq, List.cons_append, trimStart,
    List.dropWhile_cons_of_neg (by simp [not_isBlank_of_isDigit hc])]

/-! ### Fields -/

/-- Digits are taken up to the most there may be, or up to the next other character. -/
theorem digits_append {least most : Nat} {cs rest : List Char}
    (hcs : ∀ c ∈ cs, c.isDigit = true) (hleast : least ≤ cs.length) (hmost : cs.length ≤ most)
    (hstop : cs.length = most ∨ ∀ c ∈ rest.head?, c.isDigit = false) :
    digits least most (cs ++ rest) = some (digitsValue cs, rest) := by
  have htaken : ((cs ++ rest).take most).takeWhile Char.isDigit = cs := by
    rw [List.take_append, List.take_of_length_le hmost, List.takeWhile_append_of_pos hcs]
    rcases hstop with hfull | hrest
    · rw [hfull, Nat.sub_self, List.take_zero, List.takeWhile_nil, List.append_nil]
    · have hnone : (rest.take (most - cs.length)).takeWhile Char.isDigit = [] := by
        cases rest with
        | nil => simp
        | cons c tail =>
            cases most - cs.length with
            | zero => rfl
            | succ k => simp [hrest c rfl]
      rw [hnone, List.append_nil]
  rw [digits]
  simp only [htaken]
  rw [if_neg (by omega), List.drop_left]
  rfl

theorem digits_padded {least most width n : Nat} {rest : List Char}
    (hleast : least ≤ (padded width n).length) (hmost : (padded width n).length ≤ most)
    (hstop : (padded width n).length = most ∨ ∀ c ∈ rest.head?, c.isDigit = false) :
    digits least most (padded width n ++ rest) = some (n, rest) := by
  rw [digits_append (fun _ => isDigit_of_mem_padded) hleast hmost hstop, digitsValue_padded]

theorem field_padded {n : Nat} (h : n < 100) (rest : List Char) :
    field (padded 2 n ++ rest) = some (n, rest) := by
  have hlength : (padded 2 n).length = 2 := length_padded_of_lt (by decide) h
  rw [field, trimStart_padded]
  exact digits_padded (by omega) (by omega) (.inl hlength)

/-- A year of any size is read up to the hyphen after it. -/
theorem signedYear_yearText (year : Int) (rest : List Char) :
    signedYear (yearText year ++ '-' :: rest) = some (year, '-' :: rest) := by
  have hstop : ∀ c ∈ ('-' :: rest).head?, c.isDigit = false := by
    intro c hc
    cases hc
    rfl
  have hread (n : Nat) : digits 1 (padded 4 n ++ '-' :: rest).length
      (padded 4 n ++ '-' :: rest) = some (n, '-' :: rest) := by
    have hlength := length_padded 4 n
    refine digits_padded ?_ ?_ (.inr hstop)
    · omega
    · rw [List.length_append]
      omega
  rw [yearText]
  split
  · rename_i hfour
    simp only [Bool.and_eq_true, decide_eq_true_eq] at hfour
    obtain ⟨n, rfl⟩ := Int.eq_ofNat_of_zero_le hfour.1
    have hlength : (padded 4 n).length = 4 := length_padded_of_lt (by decide) (by omega)
    rw [Int.toNat_natCast, signedYear, trimStart_padded]
    have hdigits : digits 1 4 (padded 4 n ++ '-' :: rest) = some (n, '-' :: rest) :=
      digits_padded (by omega) (by omega) (.inl hlength)
    obtain ⟨c, tail, heq⟩ := padded_eq_cons 4 n
    have hc : c.isDigit = true := isDigit_of_mem_padded (by rw [heq]; exact List.mem_cons_self)
    split
    · rename_i hminus
      rw [heq] at hminus
      cases hminus
      cases hc
    · rename_i hplus
      rw [heq] at hplus
      cases hplus
      cases hc
    · rw [hdigits]
      rfl
  · rename_i hfour
    simp only [Bool.and_eq_true, decide_eq_true_eq] at hfour
    split
    · rw [List.cons_append, signedYear]
      show (digits 1 _ (padded 4 year.natAbs ++ '-' :: rest)).map _ = _
      rw [hread, Option.map_some]
      exact congrArg some (Prod.ext (show (-(year.natAbs : Int)) = year by omega) rfl)
    · rw [List.cons_append, signedYear]
      show (digits 1 _ (padded 4 year.natAbs ++ '-' :: rest)).map _ = _
      rw [hread, Option.map_some]
      exact congrArg some (Prod.ext (show (year.natAbs : Int) = year by omega) rfl)

/-- A fraction of a second is read as its nanoseconds, in any of its lengths. -/
theorem fraction_fractionText {nanos : Nat} (h : nanos < nanosPerSecond) {c : Char}
    (hc : c.isDigit = false) (hpoint : c ≠ '.') (rest : List Char) :
    fraction (fractionText nanos ++ c :: rest) = some (nanos, c :: rest) := by
  have hstop : ∀ d ∈ (c :: rest).head?, d.isDigit = false := by
    intro d hd
    cases hd
    exact hc
  have hread {width n : Nat} (hwidth : 0 < width) (hle : width ≤ 9) (hn : n < 10 ^ width) :
      fraction ('.' :: padded width n ++ c :: rest) =
        some (n * Nat.pow 10 (9 - width), c :: rest) := by
    have hlength : (padded width n).length = width := length_padded_of_lt hwidth hn
    have hdigits : digits 1 9 (padded width n ++ c :: rest) = some (n, c :: rest) :=
      digits_padded (by omega) (by omega) (.inr hstop)
    rw [List.cons_append, fraction, hdigits]
    simp [hlength, hc]
  rw [nanosPerSecond] at h
  unfold fractionText
  split
  · rename_i hzero
    rw [List.nil_append, fraction]
    · rw [beq_iff_eq.1 hzero]
    · rintro _ heq
      cases heq
      exact hpoint rfl
  split
  · rename_i hmillis
    have hexact : nanos / 1000000 * Nat.pow 10 (9 - 3) = nanos :=
      Nat.div_mul_cancel (Nat.dvd_of_mod_eq_zero (beq_iff_eq.1 hmillis))
    rw [hread (by decide) (by decide) (by omega), hexact]
  split
  · rename_i hmicros
    have hexact : nanos / 1000 * Nat.pow 10 (9 - 6) = nanos :=
      Nat.div_mul_cancel (Nat.dvd_of_mod_eq_zero (beq_iff_eq.1 hmicros))
    rw [hread (by decide) (by decide) (by omega), hexact]
  · have hexact : nanos * Nat.pow 10 (9 - 9) = nanos := Nat.mul_one nanos
    rw [hread (by decide) (by decide) (by omega), hexact]

theorem spacedLiteral_cons {c : Char} (hc : isBlank c = false) (rest : List Char) :
    spacedLiteral c (c :: rest) = some ((), rest) := by
  rw [spacedLiteral, trimStart, List.dropWhile_cons_of_neg (by simp [hc]), literal,
    if_pos (by simp)]

/-! ### Instants -/

namespace Instant

variable {t : Instant}

theorem secondOfDay_eq (t : Instant) : t.secondOfDay = t.seconds % 86400 :=
  Int.fmod_eq_emod_of_nonneg _ (by decide)

theorem toDays_date (t : Instant) : t.date.toDays = t.seconds / 86400 := by
  rw [date, Date.toDays_ofDays, secondsPerDay, Int.fdiv_eq_ediv_of_nonneg _ (by decide)]

theorem isValid_iff : t.isValid = true ↔
    (firstSecond ≤ t.seconds ∧ t.seconds ≤ lastSecond) ∧
      (t.nanos < nanosPerSecond ∨ t.nanos < 2 * nanosPerSecond ∧ t.seconds % 60 = 59) := by
  simp [isValid]

theorem isValid_date (h : t.isValid = true) : t.date.isValid = true := by
  obtain ⟨⟨hfirst, hlast⟩, -⟩ := isValid_iff.1 h
  rw [firstSecond, secondsPerDay] at hfirst
  rw [lastSecond, secondsPerDay] at hlast
  rw [date, secondsPerDay, Int.fdiv_eq_ediv_of_nonneg _ (by decide)]
  exact Date.isValid_ofDays (by omega) (by omega)

/-- The fields that an instant is written with. -/
def fields (t : Instant) : Fields where
  date := t.date
  hour := t.secondOfDay.toNat / 3600
  minute := t.secondOfDay.toNat / 60 % 60
  second := t.secondOfDay.toNat % 60 + (if nanosPerSecond ≤ t.nanos then 1 else 0)
  nanos := if nanosPerSecond ≤ t.nanos then t.nanos - nanosPerSecond else t.nanos
  offset := 0

theorem checked_of_eq {seconds : Int} {nanos : Nat} (hseconds : seconds = t.seconds)
    (hnanos : nanos = t.nanos) (h : t.isValid = true) :
    Instant.checked ⟨seconds, nanos⟩ = some t := by
  subst hseconds hnanos
  exact if_pos h

/-- The fields of an instant name it again. -/
theorem toInstant?_fields (h : t.isValid = true) : t.fields.toInstant? = some t := by
  have hdate := isValid_date h
  have hdays := toDays_date t
  obtain ⟨-, hnanos⟩ := isValid_iff.1 h
  obtain ⟨second, hsecond⟩ : ∃ second : Nat, t.secondOfDay = second :=
    Int.eq_ofNat_of_zero_le (by rw [secondOfDay_eq]; omega)
  have hmod : t.seconds % 86400 = second := by rw [← secondOfDay_eq, hsecond]
  rw [fields, Fields.toInstant?]
  simp only [hdate, hsecond, Int.toNat_natCast, hdays, secondsPerDay, Bool.true_and,
    Bool.and_eq_true, decide_eq_true_eq]
  have hwhole : t.seconds / 86400 * 86400 + t.seconds % 86400 = t.seconds := by omega
  by_cases hleap : nanosPerSecond ≤ t.nanos
  · have hlast : t.seconds % 60 = 59 := (hnanos.resolve_left (Nat.not_lt.2 hleap)).2
    have hsixty : second % 60 = 59 := by omega
    simp only [if_pos hleap, hsixty]
    rw [if_pos (by omega)]
    refine checked_of_eq ?_ (Nat.sub_add_cancel hleap) h
    show t.seconds / 86400 * 86400 + (((second / 3600 : Nat) : Int) * 3600 +
      ((second / 60 % 60 : Nat) : Int) * 60 + 59) - 0 = t.seconds
    omega
  · simp only [if_neg hleap]
    have hnot : (second % 60 + 0 == 60) = false := by
      rw [beq_eq_false_iff_ne]
      omega
    simp only [hnot]
    rw [if_pos (by omega)]
    refine checked_of_eq ?_ rfl h
    show t.seconds / 86400 * 86400 + (((second / 3600 : Nat) : Int) * 3600 +
      ((second / 60 % 60 : Nat) : Int) * 60 + ((second % 60 : Nat) : Int)) - 0 = t.seconds
    omega

/-- No field has more digits than it is written with. -/
theorem fields_lt (h : t.isValid = true) : t.date.month < 100 ∧ t.date.day < 100 ∧
    t.fields.hour < 100 ∧ t.fields.minute < 100 ∧ t.fields.second < 100 ∧
    t.fields.nanos < nanosPerSecond := by
  have hdate := isValid_date h
  simp only [Date.isValid, Bool.and_eq_true, decide_eq_true_eq] at hdate
  have hday := Date.daysInMonth_le t.date.year t.date.month
  obtain ⟨-, hnanos⟩ := isValid_iff.1 h
  have hsecond := secondOfDay_eq t
  simp only [fields]
  refine ⟨by omega, by omega, by omega, by omega, by split <;> omega, ?_⟩
  rw [nanosPerSecond] at hnanos ⊢
  split <;> omega

/-- A text is read as an instant if it has the fields of the instant, with any mark between date and
time that may be there. -/
theorem readLenient?_of_toList {text : String} (mark : Char) (h : t.isValid = true)
    (hmark : ∀ rest, dateTimeMark (mark :: rest) = some ((), rest))
    (htext : text.toList = yearText t.date.year ++ '-' :: (padded 2 t.date.month ++
      '-' :: (padded 2 t.date.day ++ mark :: (padded 2 t.fields.hour ++ ':' ::
        (padded 2 t.fields.minute ++ ':' :: (padded 2 t.fields.second ++
          (fractionText t.fields.nanos ++ ['Z']))))))) : readLenient? text = some t := by
  obtain ⟨hmonth, hday, hhour, hminute, hsecond, hnanos⟩ := fields_lt h
  have hoffset : namedOffset (trimStart ['Z']) = some (0, []) := rfl
  have hend : (trimStart []).isEmpty = true := rfl
  simp only [readLenient?, htext, dateFields, signedYear_yearText, field_padded hmonth,
    field_padded hday, field_padded hhour, field_padded hminute, field_padded hsecond,
    fraction_fractionText hnanos (c := 'Z') (by decide) (by decide),
    spacedLiteral_cons (c := '-') (by decide), spacedLiteral_cons (c := ':') (by decide), hmark,
    hoffset, hend, Option.bind_eq_bind, Option.bind_some, if_true]
  exact toInstant?_fields h

/-- **Main result.** An instant of the calendar is read back from its text. -/
theorem readLenient?_toZuluText (h : t.isValid = true) : readLenient? t.toZuluText = some t := by
  refine readLenient?_of_toList 'T' h (fun rest => rfl) ?_
  simp [toZuluText, clockText, dateText, minuteText, fields]

/-! ### Minutes -/

/-- The first instant of the minute. -/
def minuteStart (t : Instant) : Instant := ⟨t.seconds - t.seconds % 60, 0⟩

theorem seconds_minuteStart (t : Instant) : t.minuteStart.seconds = t.seconds - t.seconds % 60 := rfl

theorem isValid_minuteStart (h : t.isValid = true) : t.minuteStart.isValid = true := by
  obtain ⟨⟨hfirst, hlast⟩, -⟩ := isValid_iff.1 h
  rw [isValid_iff, seconds_minuteStart]
  refine ⟨⟨?_, by omega⟩, .inl (Nat.zero_lt_succ _)⟩
  rw [firstSecond, secondsPerDay] at hfirst ⊢
  omega

theorem date_minuteStart (t : Instant) : t.minuteStart.date = t.date := by
  have hdays : t.minuteStart.seconds / 86400 = t.seconds / 86400 := by
    rw [seconds_minuteStart]
    omega
  rw [date, date, secondsPerDay, Int.fdiv_eq_ediv_of_nonneg _ (by decide),
    Int.fdiv_eq_ediv_of_nonneg _ (by decide), hdays]

theorem toNat_secondOfDay_minuteStart (t : Instant) :
    t.minuteStart.secondOfDay.toNat = t.secondOfDay.toNat / 60 * 60 := by
  rw [secondOfDay_eq, secondOfDay_eq, seconds_minuteStart]
  omega

/-- The text of a minute is that of its first second, which is left out, with a blank between date
and time. -/
theorem readLenient?_toMinuteText (h : t.isValid = true) :
    readLenient? (t.toMinuteText ++ ":00Z") = some t.minuteStart := by
  refine readLenient?_of_toList ' ' (isValid_minuteStart h) (fun rest => rfl) ?_
  have hhour : t.minuteStart.fields.hour = t.secondOfDay.toNat / 3600 := by
    show t.minuteStart.secondOfDay.toNat / 3600 = _
    rw [toNat_secondOfDay_minuteStart]
    omega
  have hminute : t.minuteStart.fields.minute = t.secondOfDay.toNat / 60 % 60 := by
    show t.minuteStart.secondOfDay.toNat / 60 % 60 = _
    rw [toNat_secondOfDay_minuteStart, Nat.mul_div_cancel _ (by decide)]
  have hsecond : t.minuteStart.fields.second = 0 := by
    show t.minuteStart.secondOfDay.toNat % 60 + 0 = 0
    rw [toNat_secondOfDay_minuteStart, Nat.mul_mod_left]
  have hnanos : t.minuteStart.fields.nanos = 0 := rfl
  rw [hhour, hminute, hsecond, hnanos, date_minuteStart]
  simp [toMinuteText, dateText, minuteText, padded, fractionText]

end Instant

end Triage.Calendar
