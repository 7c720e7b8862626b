/-
Timestamps as text.

Instants are written as RFC 3339 asks: date, time, a fraction of a second in groups of three digits
where there is one, and the offset from universal time. They are read in three ways. The strict way
takes RFC 3339 as it stands; the lenient way also allows blanks around the parts, fields of one
digit, signed years and offsets without a colon; a plain date stands for its first second.
-/
import Triage.Calendar.Instant
import Triage.Text.Blank
namespace Triage.Calendar

open Triage.Text

/-! ### Writing -/

/-- Digits of a number, padded with zeros to a width. -/
def padded (width n : Nat) : List Char :=
  let digits := Nat.toDigits 10 n
  List.replicate (width - digits.length) '0' ++ digits

/-- A year in four digits; years before 0 and after 9999 carry a sign. -/
def yearText (year : Int) : List Char :=
  if 0 ≤ year && year ≤ 9999 then padded 4 year.toNat
  else (if year < 0 then '-' else '+') :: padded 4 year.natAbs

/-- The fraction of a second, in three, six or nine digits; nothing for a whole second. -/
def fractionText (nanos : Nat) : List Char :=
  if nanos == 0 then []
  else if nanos % 1000000 == 0 then '.' :: padded 3 (nanos / 1000000)
  else if nanos % 1000 == 0 then '.' :: padded 6 (nanos / 1000)
  else '.' :: padded 9 nanos

namespace Instant

/-- The date of an instant. -/
def date (t : Instant) : Date := Date.ofDays (Int.fdiv t.seconds secondsPerDay)

/-- Year, month and day. -/
def dateText (t : Instant) : List Char :=
  let d := t.date
  yearText d.year ++ '-' :: padded 2 d.month ++ '-' :: padded 2 d.day

/-- Hour and minute. -/
def minuteText (t : Instant) : List Char :=
  let s := t.secondOfDay.toNat
  padded 2 (s / 3600) ++ ':' :: padded 2 (s / 60 % 60)

/-- Date and time without offset. A leap second is numbered sixty. -/
def clockText (t : Instant) : List Char :=
  let leap := nanosPerSecond ≤ t.nanos
  let second := t.secondOfDay.toNat % 60 + (if leap then 1 else 0)
  let nanos := if leap then t.nanos - nanosPerSecond else t.nanos
  t.dateText ++ 'T' :: t.minuteText ++ ':' :: padded 2 second ++ fractionText nanos

/-- RFC 3339 with a numeric offset. -/
def toOffsetText (t : Instant) : String := String.ofList (t.clockText ++ "+00:00".toList)

/-- RFC 3339 with the offset written `Z`. -/
def toZuluText (t : Instant) : String := String.ofList (t.clockText ++ ['Z'])

/-- Date, hour and minute, for listings. -/
def toMinuteText (t : Instant) : String := String.ofList (t.dateText ++ ' ' :: t.minuteText)

end Instant

/-! ### Reading -/

/-- A reader takes something off the front of a text or fails. -/
abbrev Reader (α : Type) := List Char → Option (α × List Char)

/-- Between `least` and `most` decimal digits, as many as there are. -/
def digits (least most : Nat) : Reader Nat := fun cs =>
  let taken := (cs.take most).takeWhile Char.isDigit
  if taken.length < least then none
  else some (taken.foldl (fun n c => n * 10 + (c.toNat - 48)) 0, cs.drop taken.length)

/-- One given character. -/
def literal (c : Char) : Reader Unit
  | d :: rest => if d == c then some ((), rest) else none
  | [] => none

/-- The point and digits of a fraction, as nanoseconds. Digits after the ninth are dropped. -/
def fraction : Reader Nat
  | '.' :: rest => do
    let (value, after) ← digits 1 9 rest
    let count := rest.length - after.length
    some (value * Nat.pow 10 (9 - count), after.dropWhile Char.isDigit)
  | cs => some (0, cs)

/-- An offset from universal time in seconds. Minutes may not exceed 59. -/
def offset (separator : Reader Unit) : Reader Int
  | [] => none
  | c :: rest =>
    if c == 'Z' || c == 'z' then some (0, rest)
    else do
      let negative ←
        if c == '+' then some false
        else if c == '-' || c == '\u2212' then some true
        else none
      let (hours, rest) ← digits 2 2 rest
      let (_, rest) ← separator rest
      let (minutes, rest) ← digits 2 2 rest
      if 59 < minutes then none
      else
        let seconds : Int := hours * 3600 + minutes * 60
        some (if negative then -seconds else seconds, rest)

/-- The fields of a timestamp as they were read. -/
structure Fields where
  date : Date
  hour : Nat
  minute : Nat
  second : Nat
  nanos : Nat
  offset : Int

namespace Fields

/-- The instant that the fields name. The second may be 60, offsets stay below a day. -/
def toInstant? (f : Fields) : Option Instant :=
  if f.date.isValid && f.hour ≤ 23 && f.minute ≤ 59 && f.second ≤ 60 &&
      -86400 < f.offset && f.offset < 86400 then
    let leap := f.second == 60
    let clock : Int := f.hour * 3600 + f.minute * 60 + (if leap then 59 else f.second)
    Instant.checked ⟨f.date.toDays * secondsPerDay + clock - f.offset,
      f.nanos + (if leap then nanosPerSecond else 0)⟩
  else none

end Fields

/-- The letter or blank between date and time. -/
def dateTimeMark : Reader Unit
  | c :: rest => if c == 'T' || c == 't' || c == ' ' then some ((), rest) else none
  | [] => none

/-- A timestamp of RFC 3339. The date and the time may also be separated by a blank. -/
def readStrict? (s : String) : Option Instant := do
  let (year, cs) ← digits 4 4 s.toList
  let (_, cs) ← literal '-' cs
  let (month, cs) ← digits 2 2 cs
  let (_, cs) ← literal '-' cs
  let (day, cs) ← digits 2 2 cs
  let (_, cs) ← dateTimeMark cs
  let (hour, cs) ← digits 2 2 cs
  let (_, cs) ← literal ':' cs
  let (minute, cs) ← digits 2 2 cs
  let (_, cs) ← literal ':' cs
  let (second, cs) ← digits 2 2 cs
  let (nanos, cs) ← fraction cs
  let (offset, cs) ← offset (literal ':') cs
  if cs.isEmpty then Fields.toInstant? ⟨⟨year, month, day⟩, hour, minute, second, nanos, offset⟩
  else none

/-- A year: up to four digits, or a sign and any number of them. Blanks before it are skipped. -/
def signedYear : Reader Int := fun cs =>
  match trimStart cs with
  | '-' :: rest => (digits 1 rest.length rest).map fun (n, after) => (-(n : Int), after)
  | '+' :: rest => (digits 1 rest.length rest).map fun (n, after) => ((n : Int), after)
  | rest => (digits 1 4 rest).map fun (n, after) => ((n : Int), after)

/-- A field of one or two digits. Blanks before it are skipped. -/
def field : Reader Nat := fun cs => digits 1 2 (trimStart cs)

/-- A separator of a date: a hyphen directly after the field. -/
def hyphen : Reader Unit := literal '-'

/-- Year, month and day with the given reader between them. -/
def dateFields (separator : Reader Unit) : Reader Date := fun cs => do
  let (year, cs) ← signedYear cs
  let (_, cs) ← separator cs
  let (month, cs) ← field cs
  let (_, cs) ← separator cs
  let (day, cs) ← field cs
  some (⟨year, month, day⟩, cs)

/-- A plain date, which stands for its first second. -/
def readDate? (s : String) : Option Instant := do
  let (date, cs) ← dateFields hyphen s.toList
  if cs.isEmpty && date.isValid then some ⟨date.toDays * secondsPerDay, 0⟩ else none

/-- A given character, with blanks before it. -/
def spacedLiteral (c : Char) : Reader Unit := fun cs => literal c (trimStart cs)

/-- Colons and blanks in any number. -/
def colonsOrBlanks : Reader Unit := fun cs =>
  some ((), cs.dropWhile fun c => c == ':' || isBlank c)

/-- The name of universal time in any case, or an offset. -/
def namedOffset : Reader Int := fun cs =>
  if (cs.take 3).map Char.toLower == ['u', 't', 'c'] then some (0, cs.drop 3)
  else offset colonsOrBlanks cs

/-- A timestamp in the lenient form. -/
def readLenient? (s : String) : Option Instant := do
  let (date, cs) ← dateFields (spacedLiteral '-') s.toList
  let (_, cs) ← dateTimeMark cs
  let (hour, cs) ← field cs
  let (_, cs) ← spacedLiteral ':' cs
  let (minute, cs) ← field cs
  let (_, cs) ← spacedLiteral ':' cs
  let (second, cs) ← field cs
  let (nanos, cs) ← fraction cs
  let (offset, cs) ← namedOffset (trimStart cs)
  if (trimStart cs).isEmpty then
    Fields.toInstant? ⟨date, hour, minute, second, nanos, offset⟩
  else none

end Triage.Calendar
