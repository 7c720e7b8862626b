/-
Envelopes: what a cache keeps for a key.

An envelope is a value with the time at which it expires, if it does. Times are milliseconds since
the start of 1970 in a signed word of 64 bits; an expiry beyond the last such time is that last
time. Stores that outlive the program keep envelopes as bytes: an array of the value, again as an
array of numbers, and of the expiry.
-/
import Triage.MessagePack
namespace Triage.Cache

open Triage.MessagePack

/-- The last time that can be told. -/
def lastTime : Int := 0x7FFFFFFFFFFFFFFF

/-- A value with its expiry. -/
structure Envelope where
  value : Bytes
  expiresAt : Option Int
  deriving Repr, DecidableEq

namespace Envelope

/-- The envelope of a value that is stored now for so many milliseconds, or for ever. -/
def wrap (now : Int) (ttl : Option Nat) (value : Bytes) : Envelope :=
  ⟨value, ttl.map fun ttl : Nat => min (now + min (ttl : Int) lastTime) lastTime⟩

/-- Whether the envelope has expired at a time. -/
def isExpired (e : Envelope) (now : Int) : Bool := e.expiresAt.any (· ≤ now)

/-! ### Bytes -/

/-- The expiry as bytes. -/
def encodeExpiry : Option Int → Bytes
  | some time => encodeInt time
  | none => encodeNil

/-- The envelope as bytes. -/
def encode (e : Envelope) : Bytes :=
  encodeArrayStart 2 ++ encodeArrayStart e.value.length ++
    e.value.flatMap (fun b => encodeNat b.toNat) ++ encodeExpiry e.expiresAt

/-- A number as a byte. -/
def byteOf? : Value → Option UInt8
  | .int n => if 0 ≤ n ∧ n < 256 then some (UInt8.ofNat n.toNat) else none
  | _ => none

/-- The value of an envelope: plain bytes, or an array of numbers. -/
def valueOf? : Value → Option Bytes
  | .bytes true content => some content
  | .array items => items.mapM byteOf?
  | _ => none

/-- The expiry of an envelope. -/
def expiryOf? : Value → Option (Option Int)
  | .nil => some none
  | .int n => if n ≤ lastTime then some (some n) else none
  | _ => none

/-- The fields of an envelope that is written as a map. -/
inductive Field
  | value
  | expiry
  | unknown
  deriving Repr, DecidableEq

/-- The field that a key names, by its name or its place. -/
def Field.ofKey? : Value → Option Field
  | .bytes _ name =>
    if name = "value".toUTF8.toList then some value
    else if name = "expires_at".toUTF8.toList then some expiry
    else some unknown
  | .int n =>
    if n < 0 then none else if n = 0 then some value else if n = 1 then some expiry else some unknown
  | _ => none

/-- Reads the entries of a map, given the fields read so far. Unknown fields are passed over and no
field may come twice. -/
def ofEntries? (value : Option Bytes) (expiry : Option (Option Int)) :
    List (Value × Value) → Option Envelope
  | [] => value.map fun value => ⟨value, expiry.getD none⟩
  | (key, item) :: rest => do
    match ← Field.ofKey? key with
    | .unknown => ofEntries? value expiry rest
    | .value => if value.isSome then none else ofEntries? (some (← valueOf? item)) expiry rest
    | .expiry => if expiry.isSome then none else ofEntries? value (some (← expiryOf? item)) rest

/-- The envelope that a value is, written as an array of both fields or as a map. -/
def ofValue? : Value → Option Envelope
  | .array [value, expiry] => do some ⟨← valueOf? value, ← expiryOf? expiry⟩
  | .map entries => ofEntries? none none entries
  | _ => none

/-- Reads an envelope; further bytes after it do not matter. -/
def decode? (bytes : Bytes) : Option Envelope := (read? bytes).bind ofValue?

end Envelope
end Triage.Cache
