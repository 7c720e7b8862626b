/-
Reading numbers, truth values and times of settings files.

A word is what stands between blanks, commas, brackets and comments. It is a truth value, a whole
number of 64 bits in one of four bases, a double, or a date, a time or both. Single underscores may
stand between digits.
-/
import Triage.Calendar.Date
import Triage.Decimal.Reading
import Triage.Json.Reading
import Triage.Toml.Basic
namespace Triage.Toml

/-! ### Whole numbers -/

/-- Digits with single underscores between them, without those. -/
def digitGroups? (isDigit : Char → Bool) : List Char → Option (List Char)
  | [] => none
  | [c] => if isDigit c then some [c] else none
  | c :: '_' :: rest => if isDigit c then (digitGroups? isDigit rest).map (c :: ·) else none
  | c :: rest => if isDigit c then (digitGroups? isDigit rest).map (c :: ·) else none

/-- Whether a whole number fits in 64 bits. -/
def fitsWord (n : Int) : Bool := -0x8000000000000000 ≤ n && n < 0x8000000000000000

/-- A whole number of 64 bits. -/
def integer? (n : Int) : Option Toml := if fitsWord n then some (.scalar (.integer n)) else none

/-- Whether a character is a digit of a base up to sixteen. -/
def isDigitOf (base : Nat) (c : Char) : Bool := (Json.hexDigit? c).any (· < base)

/-- A whole number in a base other than ten, after the letter for the base. -/
def based? (base : Nat) (cs : List Char) : Option Toml := do
  let digits ← digitGroups? (isDigitOf base) cs
  let n : Nat := digits.foldl (fun n c => n * base + (Json.hexDigit? c).getD 0) 0
  integer? n

/-! ### Decimal numbers -/

/-- Splits off leading digits and underscores. -/
def takeGroups (cs : List Char) : List Char × List Char :=
  let isPart (c : Char) := c.isDigit || c == '_'
  (cs.takeWhile isPart, cs.dropWhile isPart)

/-- The digits before a point. There is no leading zero. -/
def whole? (cs : List Char) : Option (List Char) :=
  match cs with
  | '0' :: _ :: _ => none
  | cs => digitGroups? Char.isDigit cs

/-- The exponent after its letter. -/
def exponent? (cs : List Char) : Option Int := do
  let (negative, cs) := Decimal.takeSign cs
  let digits ← digitGroups? Char.isDigit cs
  let n : Int := Decimal.digitsValue digits
  some (if negative then -n else n)

/-- A double. A number beyond all doubles is refused, unless it is negative. -/
def double? (negative : Bool) (whole fraction : List Char) (exponent : Int) : Option Toml :=
  let x := Decimal.nearestFloat negative (Decimal.digitsValue (whole ++ fraction))
    (exponent - fraction.length)
  if x == 1 / 0 then none else some (.scalar (.float x))

/-- Whether a letter starts an exponent. -/
def isExponentMark (c : Char) : Bool := c == 'e' || c == 'E'

/-- What may follow the digits before the point: nothing, a fraction, an exponent or both. -/
def afterWhole? (negative : Bool) (whole : List Char) : List Char → Option Toml
  | [] =>
    let n : Int := Decimal.digitsValue whole
    integer? (if negative then -n else n)
  | '.' :: rest => do
    let (digits, rest) := takeGroups rest
    let fraction ← digitGroups? Char.isDigit digits
    match rest with
    | [] => double? negative whole fraction 0
    | c :: rest =>
      if isExponentMark c then do double? negative whole fraction (← exponent? rest) else none
  | c :: rest => if isExponentMark c then do double? negative whole [] (← exponent? rest) else none

/-- A number in base ten or one of the words for what is no number. -/
def decimal? (cs : List Char) : Option Toml :=
  let (negative, body) := Decimal.takeSign cs
  if body = ['i', 'n', 'f'] then some (.scalar (.float (if negative then -(1 / 0) else 1 / 0)))
  else if body = ['n', 'a', 'n'] then some (.scalar (.float (0 / 0)))
  else
    let (digits, rest) := takeGroups body
    (whole? digits).bind fun whole => afterWhole? negative whole rest

/-! ### Dates and times -/

/-- The number of two digits, if it is within bounds. -/
def twoDigits? (least most : Nat) (a b : Char) : Option Nat :=
  if a.isDigit && b.isDigit then
    let n := Decimal.digitsValue [a, b]
    if least ≤ n && n ≤ most then some n else none
  else none

/-- Whether the rest of a time is an offset from universal time, or nothing. -/
def isOffset : List Char → Bool
  | [] => true
  | ['Z'] | ['z'] => true
  | [s, a, b, ':', c, d] =>
    (s == '+' || s == '-') && (twoDigits? 0 23 a b).isSome && (twoDigits? 0 59 c d).isSome
  | _ => false

/-- Drops a fraction of a second; it has at least one digit. -/
def dropFraction : List Char → List Char
  | '.' :: c :: rest => if c.isDigit then rest.dropWhile Char.isDigit else '.' :: c :: rest
  | cs => cs

/-- What follows hour, minute and second of a time. -/
def afterTime? : List Char → Option (List Char)
  | a :: b :: ':' :: c :: d :: ':' :: e :: f :: rest =>
    if (twoDigits? 0 23 a b).isSome && (twoDigits? 0 59 c d).isSome &&
        (twoDigits? 0 60 e f).isSome then
      some (dropFraction rest)
    else none
  | _ => none

/-- Whether a word is a time with or without offset. -/
def isZonedTime (cs : List Char) : Bool := (afterTime? cs).any isOffset

/-- What follows a date that the calendar has. -/
def afterDate? : List Char → Option (List Char)
  | a :: b :: c :: d :: '-' :: e :: f :: '-' :: g :: h :: rest => do
    let month ← twoDigits? 1 12 e f
    let day ← twoDigits? 1 31 g h
    if [a, b, c, d].all Char.isDigit &&
        day ≤ Calendar.daysInMonth (Decimal.digitsValue [a, b, c, d]) month then
      some rest
    else none
  | _ => none

/-- Whether a word is a date alone. -/
def isDate (cs : List Char) : Bool := (afterDate? cs).any List.isEmpty

/-- Whether a word is a date, a time, or a date and a time joined by a letter. -/
def isMoment (cs : List Char) : Bool :=
  (afterTime? cs).any List.isEmpty ||
    match afterDate? cs with
    | some [] => true
    | some (c :: rest) => (c == 'T' || c == 't') && isZonedTime rest
    | none => false

/-! ### Words -/

/-- Whether a character can only stand behind a word. -/
def endsWord (c : Char) : Bool :=
  c == ' ' || c == '\t' || c == '\n' || c == '\r' || c == '#' || c == ',' || c == ']' || c == '\x7d'

/-- The value of a word. -/
def word? (cs : List Char) : Option Toml :=
  match cs with
  | ['t', 'r', 'u', 'e'] => some (.scalar (.boolean true))
  | ['f', 'a', 'l', 's', 'e'] => some (.scalar (.boolean false))
  | '0' :: 'x' :: digits => based? 16 digits
  | '0' :: 'o' :: digits => based? 8 digits
  | '0' :: 'b' :: digits => based? 2 digits
  | cs => if isMoment cs then some .moment else decimal? cs

/-- A word and what follows it. A date may be followed by a blank and a time. -/
def readWord (cs : List Char) : Option (Toml × List Char) :=
  let word := cs.takeWhile (!endsWord ·)
  let rest := cs.drop word.length
  match rest with
  | ' ' :: more =>
    let next := more.takeWhile (!endsWord ·)
    if isDate word && isZonedTime next then some (.moment, more.drop next.length)
    else (word? word).map (·, rest)
  | rest => (word? word).map (·, rest)

end Triage.Toml
