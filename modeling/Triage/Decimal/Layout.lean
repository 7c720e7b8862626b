/-
Decimal text of doubles.

The digits of a double are laid out in one of four ways: without exponent for messages, with a
point in every settings file, with an exponent for very large and very small numbers in JSON, and
with a fixed count of digits for comparison.
-/
import Triage.Decimal.Shortest
namespace Triage.Decimal

/-- Zeros in number `n`. -/
def zeros (n : Nat) : List Char := List.replicate n '0'

/-- The digits of a whole number. -/
def digitsOf (n : Nat) : List Char := Nat.toDigits 10 n

/-- Digits and a point, never an exponent: `1200`, `0.05`, `3.14`. -/
def positional (d : Decimal) : List Char :=
  let digits := digitsOf d.digits
  if 0 ≤ d.exponent then digits ++ zeros d.exponent.toNat
  else
    let places := (-d.exponent).toNat
    if places < digits.length then
      digits.take (digits.length - places) ++ '.' :: digits.drop (digits.length - places)
    else '0' :: '.' :: zeros (places - digits.length) ++ digits

/-- Adds `.0` to digits without a point. -/
def pointed (text : List Char) : List Char :=
  if text.contains '.' then text else text ++ ['.', '0']

/-- A minus sign where one belongs. -/
def signed (negative : Bool) (text : List Char) : List Char :=
  if negative then '-' :: text else text

/-- First digit, point, further digits. -/
def leading (digits : List Char) : List Char :=
  match digits with
  | [] => []
  | [c] => [c]
  | c :: rest => c :: '.' :: rest

/-- The decimal text of messages: shortest digits, no exponent, whole numbers without a point. -/
def plain (x : Float) : String :=
  match Double.ofFloat x with
  | .nan => "NaN"
  | .infinite negative => if negative then "-inf" else "inf"
  | .finite b => String.ofList (signed b.negative (positional (b.shortest .up)))

/-- The decimal text of settings files: as in messages, but always with a point, and no sign on
what is not a number. -/
def settings (x : Float) : String :=
  match Double.ofFloat x with
  | .nan => "nan"
  | .infinite negative => if negative then "-inf" else "inf"
  | .finite b => String.ofList (signed b.negative (pointed (positional (b.shortest .up))))

/-- The decimal text of JSON, where only finite numbers can be written: positional with a point
from a hundred thousandth up to below ten quadrillions, else with a signed exponent. -/
def json? (x : Float) : Option String :=
  match Double.ofFloat x with
  | .nan | .infinite _ => none
  | .finite b =>
    let d := b.shortest .even
    let digits := digitsOf d.digits
    let order := (digits.length : Int) + d.exponent - 1
    let text :=
      if d.digits == 0 || (-5 ≤ order && order < 16) then pointed (positional d)
      else
        leading digits ++ 'e' :: (if order < 0 then '-' else '+') :: digitsOf order.natAbs
    some (String.ofList (signed b.negative text))

/-- Twelve significant digits and an exponent: `2.50000000000e-1`. -/
def scientific (x : Float) : String :=
  match Double.ofFloat x with
  | .nan => "NaN"
  | .infinite negative => if negative then "-inf" else "inf"
  | .finite b =>
    if b.mantissa == 0 then String.ofList (signed b.negative "0.00000000000e0".toList)
    else
      let d := b.rounded 12
      let order := d.exponent + 11
      String.ofList (signed b.negative
        (leading (digitsOf d.digits) ++ 'e' :: signed (order < 0) (digitsOf order.natAbs)))

end Triage.Decimal
