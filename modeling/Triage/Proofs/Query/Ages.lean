/-
Ages cut the time line at one instant.

`updated:>2d` asks for what changed within the last two days and `updated:<2d` for what is older.
The number may be as long as it likes.  It is refused if it does not fit a signed word, if so many
milliseconds do not, or if the calendar ends before the instant that lies so long ago; no number is
taken for another one.  A number that is not refused cuts the time line at that instant, to the
nanosecond, and the two forms ask for its two sides.
-/
import Triage.Proofs.Calendar.Clock
import Triage.Proofs.Calendar.Timestamp
import Triage.Proofs.Query.Meaning

namespace Triage.Query

open Calendar Text

/-- An age as it is written: some digits and the letter of a unit. -/
structure AgeText where
  digits : List Char
  letter : Char
  unit : AgeUnit
  isNumeral : digits.all Char.isDigit = true
  isUnit : AgeUnit.ofChar? letter = some unit

namespace AgeText

variable {a b : AgeText} {now t : Instant} {ctx : Context} {older : Bool} {f g : Filter}

/-- The number that the digits name. -/
def amount (a : AgeText) : Nat := Decimal.digitsValue a.digits

/-- The age in seconds. -/
def span (a : AgeText) : Nat := a.amount * a.unit.seconds

/-- The instant that lies so long before a time. -/
def before (a : AgeText) (now : Instant) : Instant := ⟨now.seconds - a.span, now.nanos⟩

/-- The value of the key `updated`, for what is older or else for what is not. -/
def value (a : AgeText) (older : Bool) : String :=
  (if older then "<" else ">") ++ String.ofList (a.digits ++ [a.letter])

/-- The query with this value. -/
def query (a : AgeText) (older : Bool) : String := "updated:" ++ a.value older

/-- The number fits a signed word, so do the milliseconds of the age, and the calendar has the
instant that lies so long ago. -/
structure InRange (a : AgeText) (now : Instant) : Prop where
  isNumber : a.digits ≠ []
  word : a.amount < 2 ^ 63
  millis : a.span * 1000 < 2 ^ 63
  calendar : (a.before now).isValid = true

/-! ### Reading -/

theorem isDigit (a : AgeText) {c : Char} (h : c ∈ a.digits) : c.isDigit = true :=
  List.all_eq_true.1 a.isNumeral c h

theorem letter_cases (a : AgeText) : a.letter = 'h' ∨ a.letter = 'H' ∨ a.letter = 'd' ∨
    a.letter = 'D' ∨ a.letter = 'w' ∨ a.letter = 'W' := by
  have hunit := a.isUnit
  unfold AgeUnit.ofChar? at hunit
  split at hunit
  · rename_i h
    rcases eq_or_eq_of_toLower 'h' 'H' h rfl with h | h <;> simp [h]
  split at hunit
  · rename_i h
    rcases eq_or_eq_of_toLower 'd' 'D' h rfl with h | h <;> simp [h]
  split at hunit
  · rename_i h
    rcases eq_or_eq_of_toLower 'w' 'W' h rfl with h | h <;> simp [h]
  · cases hunit

/-- The letter of a unit by itself is no time. -/
theorem cutoff_letter (a : AgeText) (now : Instant) :
    cutoff now [a.letter] = .error .unknownTime := by
  rcases a.letter_cases with h | h | h | h | h | h <;> rw [h] <;> rfl

theorem ofChars_digits (a : AgeText) (hne : a.digits ≠ []) :
    Age.ofChars (a.digits ++ [a.letter]) =
      if a.amount < 2 ^ 63 ∧ a.span * 1000 < 2 ^ 63 then .seconds a.span else .outOfRange := by
  have hempty : a.digits.reverse.isEmpty = false := by simpa using hne
  have hdigits : a.digits.reverse.all Char.isDigit = true := by simp [a.isNumeral]
  rw [Age.ofChars, List.reverse_append]
  simp only [List.reverse_singleton, List.singleton_append, hempty, hdigits, a.isUnit,
    List.reverse_reverse, Bool.not_true, Bool.or_false, Bool.false_eq_true, if_false, longestAge]
  show (if _ ≤ a.amount then _ else if _ < a.span then _ else Age.seconds a.span) = _
  split
  · rw [if_neg (by omega)]
  · split
    · rw [if_neg (by omega)]
    · rw [if_pos (by omega)]

/-- The text of an age is accepted if the age is in range, and cuts at the instant so long ago. -/
theorem cutoff_ok_iff : cutoff now (a.digits ++ [a.letter]) = .ok t ↔
    a.InRange now ∧ a.before now = t := by
  by_cases hne : a.digits = []
  · rw [hne, List.nil_append, cutoff_letter]
    exact ⟨nofun, fun h => absurd hne h.1.isNumber⟩
  rw [cutoff, ofChars_digits a hne]
  by_cases hfits : a.amount < 2 ^ 63 ∧ a.span * 1000 < 2 ^ 63
  · rw [if_pos hfits]
    have hminus : now.minusSeconds? a.span =
        if (a.before now).isValid then some (a.before now) else none := rfl
    simp only [hminus]
    by_cases hvalid : (a.before now).isValid = true
    · rw [if_pos hvalid]
      exact ⟨fun h => ⟨⟨hne, hfits.1, hfits.2, hvalid⟩, Except.ok.inj h⟩, fun h => congrArg _ h.2⟩
    · rw [if_neg hvalid]
      exact ⟨nofun, fun h => absurd h.1.calendar hvalid⟩
  · rw [if_neg hfits]
    exact ⟨nofun, fun h => absurd ⟨h.1.word, h.1.millis⟩ hfits⟩

/-- The side of an instant that the query asks for. -/
def side (older : Bool) (t : Instant) : Filter :=
  .atom (.updated (if older then ⟨none, some t⟩ else ⟨some t, none⟩))

theorem toList_value (a : AgeText) (older : Bool) :
    (a.value older).toList = (if older then '<' else '>') :: (a.digits ++ [a.letter]) := by
  cases older <;> simp [value]

theorem window_value (a : AgeText) (older : Bool) (now : Instant) :
    window now (a.value older) = (cutoff now (a.digits ++ [a.letter])).map fun t =>
      if older then ⟨none, some t⟩ else ⟨some t, none⟩ := by
  rw [window, toList_value]
  cases older <;> rfl

theorem isPlainValue_value (a : AgeText) (older : Bool) : IsPlainValue (a.value older) := by
  have hletter : IsValueChar a.letter := by
    rcases a.letter_cases with h | h | h | h | h | h <;> rw [h] <;> decide
  refine ⟨fun hnil => ?_, fun c hc => ?_⟩
  · have hlist := a.toList_value older
    rw [hnil] at hlist
    cases hlist
  · rw [toList_value] at hc
    rcases List.mem_cons.1 hc with rfl | hc
    · cases older <;> decide
    rcases List.mem_append.1 hc with hc | hc
    · exact isValueChar_of_isDigit (a.isDigit hc)
    · rw [List.mem_singleton.1 hc]
      exact hletter

theorem filterOf_eq (a : AgeText) (older : Bool) :
    filterOf ctx (a.query older) =
      Formula.atom <$> fieldPredicate ctx.now "updated" (a.value older) := by
  have hreads : Reads (a.query older).toList [.term (.field "updated" (a.value older))] := by
    have hkey : IsPlain "updated" := by decide
    simpa [query] using Reads.field hkey (a.isPlainValue_value older).2
  exact filterWithin_of_reads hreads

/-- An age is accepted, in both of its forms, if it is in range. -/
theorem filterOf_ok_iff : filterOf ctx (a.query older) = .ok f ↔
    a.InRange ctx.now ∧ side older (a.before ctx.now) = f := by
  have hkey : Key.ofText "updated" = .updated := rfl
  rw [filterOf_eq, fieldPredicate, if_neg (a.isPlainValue_value older).1]
  simp only [hkey, window_value]
  cases hcutoff : cutoff ctx.now (a.digits ++ [a.letter]) with
  | ok t =>
      obtain ⟨hrange, rfl⟩ := cutoff_ok_iff.1 hcutoff
      exact ⟨fun h => ⟨hrange, Except.ok.inj h⟩, fun h => congrArg _ h.2⟩
  | error fault =>
      refine ⟨nofun, fun h => ?_⟩
      rw [cutoff_ok_iff.2 ⟨h.1, rfl⟩] at hcutoff
      cases hcutoff

/-! ### Meaning -/

theorem accepts_newer (t : Instant) (score : Notification → UInt8) (n : Notification) :
    (side false t).accepts score n = !n.updatedAt.before t := by
  show (!n.updatedAt.before t && true) = _
  rw [Bool.and_true]

theorem accepts_older (t : Instant) (score : Notification → UInt8) (n : Notification) :
    (side true t).accepts score n = n.updatedAt.before t := by
  show (true && n.updatedAt.before t) = _
  rw [Bool.true_and]

/-- A time is not before the instant so long ago if no more time than that has gone by. -/
theorem before_eq_false_iff_nanosBetween (hnow : now.nanos < nanosPerSecond)
    (ht : t.nanos < nanosPerSecond) : t.before (a.before now) = false ↔
      t.nanosBetween now ≤ a.span * nanosPerSecond := by
  rw [Instant.before_eq_false_iff, Instant.nanosBetween_of_ordinary ht hnow, before]
  simp only [nanosPerSecond] at hnow ht ⊢
  omega

/-- What changed within an age changed within any longer one. -/
theorem before_eq_false_of_le (hspan : a.span ≤ b.span) (h : t.before (a.before now) = false) :
    t.before (b.before now) = false := by
  rw [Instant.before_eq_false_iff] at h ⊢
  simp only [before] at h ⊢
  omega

/-- A day has 24 hours, and a week has 7 days. -/
inductive SameAge (a b : AgeText) : Prop
  | hours (ha : a.unit = .hour) (hb : b.unit = .day) (h : a.amount = 24 * b.amount)
  | days (ha : a.unit = .day) (hb : b.unit = .week) (h : a.amount = 7 * b.amount)

theorem SameAge.span_eq (h : SameAge a b) : a.span = b.span := by
  cases h with
  | hours ha hb h | days ha hb h =>
      rw [span, span, ha, hb, h]
      simp only [AgeUnit.seconds]
      omega

end AgeText

/-- **An age cuts the time line at one instant, or it is refused.**  Outside of leap seconds, both
forms of an age are accepted exactly if it is in range; what changed is then newer if no more time
than the age has gone by since, to the nanosecond, and older if more has; longer ages keep all that
is newer; and it makes no difference which unit an age is given in. -/
theorem ages_cut_exactly (ctx : Context) (hnow : ctx.now.nanos < nanosPerSecond) :
    (∀ (a : AgeText) (older : Bool),
      (∃ f, filterOf ctx (a.query older) = .ok f) ↔ a.InRange ctx.now) ∧
    (∀ (a : AgeText) (newer older : Filter), filterOf ctx (a.query false) = .ok newer →
      filterOf ctx (a.query true) = .ok older → ∀ score (n : Notification),
        n.updatedAt.nanos < nanosPerSecond →
          (newer.accepts score n = true ↔
            n.updatedAt.nanosBetween ctx.now ≤ a.span * nanosPerSecond) ∧
          (older.accepts score n = true ↔
            a.span * nanosPerSecond < n.updatedAt.nanosBetween ctx.now) ∧
          older.accepts score n = !newer.accepts score n) ∧
    (∀ (a b : AgeText) (f g : Filter), a.unit = b.unit → a.amount ≤ b.amount →
      filterOf ctx (a.query false) = .ok f → filterOf ctx (b.query false) = .ok g →
        ∀ score n, f.accepts score n = true → g.accepts score n = true) ∧
    ∀ (a b : AgeText) (older : Bool) (f g : Filter), a.SameAge b →
      filterOf ctx (a.query older) = .ok f → filterOf ctx (b.query older) = .ok g → f = g := by
  refine ⟨fun a older => ?_, fun a newer older hnewer holder score n hn => ?_,
    fun a b f g hunit hamount hf hg score n haccepts => ?_, fun a b older f g hsame hf hg => ?_⟩
  · exact ⟨fun ⟨f, hf⟩ => (AgeText.filterOf_ok_iff.1 hf).1,
      fun h => ⟨_, AgeText.filterOf_ok_iff.2 ⟨h, rfl⟩⟩⟩
  · obtain ⟨-, rfl⟩ := AgeText.filterOf_ok_iff.1 hnewer
    obtain ⟨-, rfl⟩ := AgeText.filterOf_ok_iff.1 holder
    have hcut := AgeText.before_eq_false_iff_nanosBetween (a := a) hnow hn
    rw [AgeText.accepts_newer, AgeText.accepts_older, Bool.not_eq_true', hcut]
    refine ⟨Iff.rfl, ?_, (Bool.not_not _).symm⟩
    rw [← Int.not_le, ← hcut, Bool.not_eq_false]
  · obtain ⟨-, rfl⟩ := AgeText.filterOf_ok_iff.1 hf
    obtain ⟨-, rfl⟩ := AgeText.filterOf_ok_iff.1 hg
    have hspan : a.span ≤ b.span := by
      rw [AgeText.span, AgeText.span, hunit]
      exact Nat.mul_le_mul_right _ hamount
    rw [AgeText.accepts_newer, Bool.not_eq_true'] at haccepts ⊢
    exact AgeText.before_eq_false_of_le hspan haccepts
  · obtain ⟨-, rfl⟩ := AgeText.filterOf_ok_iff.1 hf
    obtain ⟨-, rfl⟩ := AgeText.filterOf_ok_iff.1 hg
    rw [AgeText.before, AgeText.before, hsame.span_eq]

/-- Zeros in front and the case of the letter do not matter, and a number that is too long is
refused. -/
theorem ages_cut_exactly_week :
    let ctx : Context := ⟨⟨1741608000, 0⟩, none⟩
    ctx.now.nanos < nanosPerSecond ∧
      (∃ f, filterOf ctx "updated:>007D" = .ok f ∧ filterOf ctx "updated:>168h" = .ok f) ∧
      ¬∃ f, filterOf ctx "updated:<99999999999999w" = .ok f := by
  intro ctx
  let hours : AgeText := ⟨['1', '6', '8'], 'h', .hour, by decide, rfl⟩
  let days : AgeText := ⟨['0', '0', '7'], 'D', .day, by decide, rfl⟩
  let long : AgeText := ⟨List.replicate 14 '9', 'w', .week, by decide, rfl⟩
  obtain ⟨haccepted, -, -, hsame⟩ := ages_cut_exactly ctx (by decide)
  have hrange : days.InRange ctx.now ∧ hours.InRange ctx.now :=
    ⟨⟨by decide, by decide, by decide, by decide⟩, ⟨by decide, by decide, by decide, by decide⟩⟩
  obtain ⟨f, hf⟩ := (haccepted days false).2 hrange.1
  obtain ⟨g, hg⟩ := (haccepted hours false).2 hrange.2
  cases hsame hours days false g f (.hours rfl rfl rfl) hg hf
  refine ⟨by decide, ⟨f, hf, hg⟩, fun h => ?_⟩
  exact absurd ((haccepted long true).1 h).millis (by decide)

end Triage.Query
