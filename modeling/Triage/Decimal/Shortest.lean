/-
The fewest digits that read back.

Every real number close enough to a double reads back as that double. Among the decimals in this
interval the shortest is chosen, and of several with equally many digits the nearest. The search
tries one digit, then two, and so on: if a decimal grid has a point in the interval, so has it one
next to the value itself, so two candidates a grid are enough. Seventeen digits always suffice.
-/
import Triage.Decimal.Binary
namespace Triage

/-- The number `digits * 10 ^ exponent`. -/
structure Decimal where
  digits : Nat
  exponent : Int
  deriving Repr, DecidableEq

namespace Decimal

/-- Moves the zeros at the end of the digits into the exponent. -/
def trimZeros (fuel : Nat) (d : Decimal) : Decimal :=
  match fuel with
  | 0 => d
  | fuel + 1 =>
    if d.digits % 10 == 0 && d.digits != 0 then trimZeros fuel ⟨d.digits / 10, d.exponent + 1⟩
    else d

/-- Which of two equally near decimals is taken. -/
inductive Tie
  | up
  | even
  deriving Repr, DecidableEq

namespace Binary

/-- Whether `digits * 10 ^ exponent` reads back as this double. The ends of the interval do so
exactly when the mantissa is even. -/
def accepts (b : Binary) (d : Decimal) : Bool :=
  -- both sides are measured in quarters of the last binary place
  let q := b.exponent - 2
  let num := d.digits * Nat.pow 10 d.exponent.toNat * Nat.pow 2 (-q).toNat
  let den := Nat.pow 10 (-d.exponent).toNat * Nat.pow 2 q.toNat
  let low := (4 * b.mantissa - (if b.lowest then 1 else 2)) * den
  let high := (4 * b.mantissa + 2) * den
  if b.mantissa % 2 == 0 then low ≤ num && num ≤ high else low < num && num < high

/-- The decimal with `n` digits next to the value that reads back, if there is one. -/
def nearest? (tie : Tie) (b : Binary) (n : Nat) : Option Decimal :=
  let exponent := b.order - n + 1
  let (num, den) := scaled b.mantissa b.exponent (-exponent)
  let floor := num / den
  let below : Decimal := ⟨floor, exponent⟩
  let above : Decimal := ⟨floor + 1, exponent⟩
  match b.accepts below, b.accepts above with
  | true, false => some below
  | false, true => some above
  | false, false => none
  | true, true =>
    match compare (2 * (num % den)) den with
    | .lt => some below
    | .gt => some above
    | .eq =>
      match tie with
      | .up => some above
      | .even => some (if floor % 2 == 0 then below else above)

/-- The fewest digits that read back, nearest to the value. Zero has the single digit zero. -/
def shortest (tie : Tie) (b : Binary) : Decimal :=
  if b.mantissa == 0 then ⟨0, 0⟩
  else
    match ((List.range 17).map (· + 1)).findSome? (b.nearest? tie) with
    | some d => d.trimZeros 400
    | none => ⟨0, 0⟩

/-- The value rounded to `n` significant digits, a tie to the even neighbour. -/
def rounded (b : Binary) (n : Nat) : Decimal :=
  if b.mantissa == 0 then ⟨0, 0⟩
  else
    let exponent := b.order - n + 1
    let (num, den) := scaled b.mantissa b.exponent (-exponent)
    let floor := num / den
    let up := den < 2 * (num % den) || (2 * (num % den) == den && floor % 2 == 1)
    let digits := if up then floor + 1 else floor
    if digits == Nat.pow 10 n then ⟨Nat.pow 10 (n - 1), exponent + 1⟩ else ⟨digits, exponent⟩

end Binary
end Decimal
end Triage
