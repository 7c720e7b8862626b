/-
Hashes of bytes.

Whatever needs a hash takes it as a parameter. The one that is used if no other is asked for is
SipHash with one round for each word of eight bytes and three at the end, under a key of zeros.
-/
namespace Triage

/-- A hash makes a word of some bytes. -/
abbrev Hash := List UInt8 → UInt64

namespace Hash

/-- Four words that are stirred. -/
structure State where
  v₀ : UInt64
  v₁ : UInt64
  v₂ : UInt64
  v₃ : UInt64
  deriving Repr, DecidableEq

namespace State

/-- The state before anything is absorbed. -/
def start : State where
  v₀ := 0x736f6d6570736575
  v₁ := 0x646f72616e646f6d
  v₂ := 0x6c7967656e657261
  v₃ := 0x7465646279746573

/-- A word with its bits moved around to the left. -/
def rotated (x count : UInt64) : UInt64 := (x <<< count) ||| (x >>> (64 - count))

/-- One round. -/
def stirred (s : State) : State :=
  let v₀ := s.v₀ + s.v₁
  let v₁ := rotated s.v₁ 13 ^^^ v₀
  let v₀ := rotated v₀ 32
  let v₂ := s.v₂ + s.v₃
  let v₃ := rotated s.v₃ 16 ^^^ v₂
  let v₀ := v₀ + v₃
  let v₃ := rotated v₃ 21 ^^^ v₀
  let v₂ := v₂ + v₁
  let v₁ := rotated v₁ 17 ^^^ v₂
  let v₂ := rotated v₂ 32
  { v₀, v₁, v₂, v₃ }

/-- Absorbs a word. -/
def absorb (s : State) (word : UInt64) : State :=
  let s := { s with v₃ := s.v₃ ^^^ word }.stirred
  { s with v₀ := s.v₀ ^^^ word }

/-- The word that comes of a state at the end. -/
def finish (s : State) : UInt64 :=
  let s := { s with v₂ := s.v₂ ^^^ 0xff }.stirred.stirred.stirred
  s.v₀ ^^^ s.v₁ ^^^ s.v₂ ^^^ s.v₃

end State

/-- The word of some bytes, the least significant one first. -/
def wordOf : List UInt8 → UInt64
  | [] => 0
  | b :: rest => b.toUInt64 ||| (wordOf rest <<< 8)

/-- Absorbs bytes by words. The last word has what is left over, and the number of all bytes in its
highest one. -/
def absorbAll (total : Nat) (s : State) : List UInt8 → State
  | b₀ :: b₁ :: b₂ :: b₃ :: b₄ :: b₅ :: b₆ :: b₇ :: rest =>
    absorbAll total (s.absorb (wordOf [b₀, b₁, b₂, b₃, b₄, b₅, b₆, b₇])) rest
  | rest => s.absorb (wordOf rest ||| (UInt64.ofNat total <<< 56))

/-- The hash that is used if no other is asked for. -/
def standard : Hash := fun bytes => (absorbAll bytes.length .start bytes).finish

example : standard ("hello".toUTF8.toList) = 16350172494705860510 := by decide +kernel

end Hash
end Triage
