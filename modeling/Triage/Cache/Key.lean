/-
Fingerprints in keys.

What a key would tell at length it tells by a fingerprint. The parts are spelled as bytes one after
the other and hashed, and the hash is written in hexadecimal digits. A text ends with a byte that
no text has, and a number takes eight bytes, so that each part can be told from what follows. But
nothing tells which kind of part it is, or how many of a kind there are.
-/
import Triage.Cache.Typed
import Triage.Hash
namespace Triage.Cache

open Triage.MessagePack

/-- A text as it is hashed. -/
def textPart (text : String) : Bytes := bytesOfText text ++ [0xff]

/-- A whole number between `-2 ^ 63` and `2 ^ 63` as it is hashed, the least significant byte
first. Numbers below zero are taken modulo `2 ^ 64`. -/
def intPart (n : Int) : Bytes := (bigEndian 8 (n % UInt64.size).toNat).reverse

/-- Bytes in hexadecimal digits, two for each. -/
def hexText (bytes : Bytes) : String :=
  String.ofList (bytes.flatMap fun b =>
    [Nat.digitChar (b.toNat / 16), Nat.digitChar (b.toNat % 16)])

/-- A fingerprint as it is written. -/
def fingerprintText (fingerprint : UInt64) : String := hexText (bigEndian 8 fingerprint.toNat)

end Triage.Cache
