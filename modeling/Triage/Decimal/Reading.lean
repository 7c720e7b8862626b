/-
Reading decimals.

A decimal is a sign, digits with at most one point among them, and an exponent. It is read exactly
and then rounded once to the nearest double. The words `inf`, `infinity` and `nan` are read in any
case where free text is allowed.
-/
import Triage.Decimal.Binary
namespace Triage.Decimal

/-- The value of a run of decimal digits. -/
def digitsValue (cs : List Char) : Nat := cs.foldl (fun acc c => acc * 10 + (c.toNat - 48)) 0

/-- The double nearest to `digits * 10 ^ exponent`. Numbers beyond every double become infinite,
numbers below half the least double zero. -/
def nearestFloat (negative : Bool) (digits : Nat) (exponent : Int) : Float :=
  let size := (digitCount digits : Int) + exponent
  let magnitude : Float :=
    if digits == 0 || size < -400 then 0
    else if 400 < size then 1 / 0
    else if 0 ≤ exponent then Float.ofScientific (digits * Nat.pow 10 exponent.toNat) false 0
    else Float.ofScientific digits true (-exponent).toNat
  if negative then -magnitude else magnitude

/-- A sign in front of a number, if any: whether it is a minus, and the rest. -/
def takeSign : List Char → Bool × List Char
  | '-' :: rest => (true, rest)
  | '+' :: rest => (false, rest)
  | cs => (false, cs)

/-- Splits off the leading decimal digits. -/
def takeDigits (cs : List Char) : List Char × List Char :=
  (cs.takeWhile Char.isDigit, cs.dropWhile Char.isDigit)

/-- The exponent after the digits: `some 0` where there is none, `none` where it is malformed. -/
def readExponent? : List Char → Option Int
  | [] => some 0
  | c :: rest =>
    if c == 'e' || c == 'E' then
      let (negative, rest) := takeSign rest
      match takeDigits rest with
      | (digits@(_ :: _), []) =>
        let n : Int := digitsValue digits
        some (if negative then -n else n)
      | _ => none
    else none

/-- The value of unsigned decimal text: digits before or after the point, or both. -/
def readMagnitude? (negative : Bool) (cs : List Char) : Option Float :=
  let (whole, rest) := takeDigits cs
  let (fraction, rest) :=
    match rest with
    | '.' :: rest => takeDigits rest
    | rest => ([], rest)
  if whole.isEmpty && fraction.isEmpty then none
  else
    (readExponent? rest).map fun exponent =>
      nearestFloat negative (digitsValue (whole ++ fraction)) (exponent - fraction.length)

/-- The double that a text names. -/
def read? (s : String) : Option Float :=
  let (negative, cs) := takeSign s.toList
  match String.ofList (cs.map Char.toLower) with
  | "inf" | "infinity" => some (if negative then -(1 / 0) else 1 / 0)
  | "nan" => some (0 / 0)
  | _ => readMagnitude? negative cs

/-- The whole number that a text of decimal digits with an optional sign names. -/
def readInt? (s : String) : Option Int :=
  let (negative, cs) := takeSign s.toList
  match takeDigits cs with
  | (digits@(_ :: _), []) =>
    let n : Int := digitsValue digits
    some (if negative then -n else n)
  | _ => none

/-- As `readInt?`, for numbers that fit between two bounds. -/
def readIntWithin? (lo hi : Int) (s : String) : Option Int :=
  (readInt? s).filter fun n => lo ≤ n && n ≤ hi

end Triage.Decimal
