/-
What a line of a listing shows.

Texts stand in columns: blanks fill a column up, and a text that is too long for its column makes it
wider, so that nothing is cut off.  What a line shows is said without the way it is put together, and
the lines that are printed are shown to be such lines.
-/
import Triage.CommandLine.Report
import Triage.Proofs.Calendar.Timestamp

namespace Triage.CommandLine

open Calendar Decimal Text

/-! ### Columns -/

/-- A column starts with a text, and blanks fill it up to a width. -/
structure FlushLeft (width : Nat) (text column : String) : Prop where
  length : column.length = max width text.length
  filled : ∃ blanks, column.toList = text.toList ++ List.replicate blanks ' '

/-- A column ends with a text, and blanks fill it up to a width. -/
structure FlushRight (width : Nat) (text column : String) : Prop where
  length : column.length = max width text.length
  filled : ∃ blanks, column.toList = List.replicate blanks ' ' ++ text.toList

theorem flushLeft_padEnd (width : Nat) (text : String) :
    FlushLeft width text (padEnd width text) where
  length := by
    rw [padEnd, String.length_append, String.length_ofList, List.length_replicate]
    omega
  filled := ⟨width - text.length, by rw [padEnd, String.toList_append, String.toList_ofList]⟩

theorem flushRight_padStart (width : Nat) (text : String) :
    FlushRight width text (padStart width text) where
  length := by
    rw [padStart, String.length_append, String.length_ofList, List.length_replicate]
    omega
  filled := ⟨width - text.length, by rw [padStart, String.toList_append, String.toList_ofList]⟩

/-- A text without blanks is what is left of its column without them. -/
theorem FlushRight.filter_eq {width : Nat} {text column : String}
    (h : FlushRight width text column) (hblank : ' ' ∉ text.toList) :
    column.toList.filter (· ≠ ' ') = text.toList := by
  obtain ⟨blanks, hfilled⟩ := h.filled
  have hkept : text.toList.filter (· ≠ ' ') = text.toList :=
    List.filter_eq_self.2 fun c hc => decide_eq_true fun hc' => hblank (hc' ▸ hc)
  rw [hfilled, List.filter_append, hkept, List.filter_replicate_of_neg (by simp), List.nil_append]

/-! ### Notifications -/

/-- A text names the minute of an instant: with no seconds added it is read as the start of it. -/
def ShowsMinute (t : Instant) (text : String) : Prop :=
  readLenient? (text ++ ":00Z") = some t.minuteStart

/-- What a line shows of a notification: a bullet if it is unread, the repository and the type in
columns, the title, and in parentheses the minute of the last change. -/
inductive Shows (n : Notification) : String → Prop
  | line {repository type minute : String} (hrepository : FlushLeft 30 n.repo repository)
      (htype : FlushLeft 12 n.subject.type.name type) (hminute : ShowsMinute n.updatedAt minute) :
      Shows n ((if n.unread then "●" else " ") ++ " " ++ repository ++ " " ++ type ++ " " ++
        n.subject.title ++ " (" ++ minute ++ ")\n")

/-- What a line shows of a notification with a total: first the total in a column. -/
inductive ShowsTotal (total : UInt8) (n : Notification) : String → Prop
  | line {number rest : String} (hnumber : FlushRight 3 (toString total.toNat) number)
      (hrest : Shows n rest) : ShowsTotal total n (number ++ " " ++ rest)

theorem shows_notificationLine {n : Notification} (h : n.updatedAt.isValid = true) :
    Shows n (notificationLine none n) := by
  have hline := Shows.line (flushLeft_padEnd 30 n.repo)
    (flushLeft_padEnd 12 n.subject.type.name) (Instant.readLenient?_toMinuteText h)
  simpa [notificationLine] using hline

theorem showsTotal_notificationLine {n : Notification} (h : n.updatedAt.isValid = true)
    (total : UInt8) : ShowsTotal total n (notificationLine (some total) n) := by
  have hline := ShowsTotal.line (flushRight_padStart 3 (toString total.toNat))
    (shows_notificationLine h)
  simpa [notificationLine, String.append_assoc] using hline

/-- A line tells the total. -/
theorem ShowsTotal.total_eq {total total' : UInt8} {n n' : Notification} {line : String}
    (h : ShowsTotal total n line) (h' : ShowsTotal total' n' line) : total = total' := by
  have htext (k : UInt8) : (toString k.toNat).toList = digitsOf k.toNat := Nat.toList_repr
  have hblank (k : UInt8) : ' ' ∉ (toString k.toNat).toList := fun hc => by
    rw [htext] at hc
    exact absurd (isDigit_of_mem_digitsOf hc) (by decide)
  have hlength (k : UInt8) : max 3 (toString k.toNat).length = 3 := by
    have hlt : k.toNat < 10 ^ 3 := Nat.lt_of_lt_of_le k.toNat_lt (by decide)
    have hdigits : (digitsOf k.toNat).length ≤ 3 :=
      (Nat.length_toDigits_le_iff (by decide) (by decide)).2 hlt
    rw [← String.length_toList, htext]
    omega
  obtain @⟨number, rest, hnumber, -⟩ := h
  generalize hline : number ++ " " ++ rest = line at h'
  obtain @⟨number', rest', hnumber', -⟩ := h'
  have hcolumn : number.toList = number'.toList := by
    have hlist := congrArg String.toList hline
    simp only [String.toList_append, List.append_assoc] at hlist
    refine List.append_inj_left hlist ?_
    rw [String.length_toList, String.length_toList, hnumber.length, hnumber'.length, hlength,
      hlength]
  have hdigits : digitsOf total.toNat = digitsOf total'.toNat := by
    rw [← htext, ← htext, ← hnumber.filter_eq (hblank _), ← hnumber'.filter_eq (hblank _), hcolumn]
  exact UInt8.toNat_inj.1 (digitsOf_inj.1 hdigits)

/-! ### Saved filters -/

/-- What a line shows of a saved filter: its name after an `@` in a column, the expression, and the
description, if there is one, as a comment. -/
inductive ShowsFilter (name : String) (f : SavedFilter) : String → Prop
  | plain {column : String} (hname : FlushLeft 16 name column) (hnone : f.description = none) :
      ShowsFilter name f ("@" ++ column ++ " " ++ f.expression ++ "\n")
  | described {column description : String} (hname : FlushLeft 16 name column)
      (hdescription : f.description = some description) :
      ShowsFilter name f ("@" ++ column ++ " " ++ f.expression ++ "  # " ++ description ++ "\n")

theorem showsFilter_savedFilterLine (name : String) (f : SavedFilter) :
    ShowsFilter name f (savedFilterLine name f) := by
  rw [savedFilterLine]
  cases hdescription : f.description with
  | none => exact .plain (flushLeft_padEnd 16 name) hdescription
  | some description => exact .described (flushLeft_padEnd 16 name) hdescription

end Triage.CommandLine
