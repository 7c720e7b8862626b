/-
Doubles as exact numbers.

A finite double is a whole number times a power of two, with a sign. All decimal text of doubles is
computed from this form in whole numbers, so that no digit depends on rounding on the way.
-/
namespace Triage.Decimal

/-- The magnitude `mantissa * 2 ^ exponent` with a sign; the two zeros differ in theirs. -/
structure Binary where
  negative : Bool
  mantissa : Nat
  exponent : Int
  /-- The mantissa is the least of its power of two, so the double below is only half as far away. -/
  lowest : Bool
  deriving Repr, DecidableEq

/-- What the sixty-four bits of a double stand for. -/
inductive Double
  | nan
  | infinite (negative : Bool)
  | finite (value : Binary)
  deriving Repr, DecidableEq

namespace Double

/-- Takes the bits of a double apart: a sign, eleven of exponent, fifty-two of mantissa. -/
def ofBits (bits : UInt64) : Double :=
  let negative := bits >>> 63 == 1
  let exponent := ((bits >>> 52) &&& 0x7FF).toNat
  let fraction := (bits &&& 0xFFFFFFFFFFFFF).toNat
  if exponent == 0x7FF then
    if fraction == 0 then .infinite negative else .nan
  else if exponent == 0 then
    .finite ⟨negative, fraction, -1074, false⟩
  else
    .finite ⟨negative, fraction + 0x10000000000000, (exponent : Int) - 1075, fraction == 0 && 1 < exponent⟩

/-- The exact value of a double. -/
def ofFloat (x : Float) : Double := ofBits x.toBits

end Double

/-- `num / den` for the number `mantissa * 2 ^ exponent * 10 ^ scale`. -/
def scaled (mantissa : Nat) (exponent scale : Int) : Nat × Nat :=
  let num := mantissa * Nat.pow 2 exponent.toNat * Nat.pow 10 scale.toNat
  let den := Nat.pow 2 (-exponent).toNat * Nat.pow 10 (-scale).toNat
  (num, den)

/-- How many decimal digits a whole number has; zero has none. -/
def digitCount (n : Nat) : Nat := if n = 0 then 0 else (Nat.toDigits 10 n).length

/-- The decimal order of a positive number: `10 ^ order ≤ value < 10 ^ (order + 1)`. -/
def Binary.order (b : Binary) : Int :=
  let (num, den) := scaled b.mantissa b.exponent 0
  if den ≤ num then (digitCount (num / den) : Int) - 1
  else
    -- `den / num` has `k` digits, so the value is at least `10 ^ -k`
    let k : Nat := digitCount (den / num)
    if num * Nat.pow 10 (k - 1) == den then 1 - (k : Int) else -(k : Int)

end Triage.Decimal
