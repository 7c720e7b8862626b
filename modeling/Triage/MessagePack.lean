/-
MessagePack.

A value starts with a marker that tells its kind; small numbers and lengths are part of the marker,
greater ones follow it with their most significant byte first. Numbers and lengths are written in
the shortest form that holds them; the reader takes any form. Values may be nested up to a limit.
-/
namespace Triage.MessagePack

/-- A sequence of bytes. -/
abbrev Bytes := List UInt8

/-! ### Writing -/

/-- The last `width` bytes of a number, the most significant one first. -/
def bigEndian : (width : Nat) → Nat → Bytes
  | 0, _ => []
  | width + 1, n => bigEndian width (n / 256) ++ [UInt8.ofNat (n % 256)]

/-- A marker and a number of some bytes after it. -/
def marked (marker : UInt8) (width n : Nat) : Bytes := marker :: bigEndian width n

/-- A natural number below `2 ^ 64`. -/
def encodeNat (n : Nat) : Bytes :=
  if n < 128 then [UInt8.ofNat n]
  else if n < UInt8.size then marked 0xcc 1 n
  else if n < UInt16.size then marked 0xcd 2 n
  else if n < UInt32.size then marked 0xce 4 n
  else marked 0xcf 8 n

/-- A whole number between `-2 ^ 63` and `2 ^ 64`. Numbers below zero are written as their
difference to a power of two. -/
def encodeInt (n : Int) : Bytes :=
  match n with
  | .ofNat n => encodeNat n
  | .negSucc below =>
    if below < 32 then [UInt8.ofNat (255 - below)]
    else if below < 0x80 then marked 0xd0 1 (UInt8.size - 1 - below)
    else if below < 0x8000 then marked 0xd1 2 (UInt16.size - 1 - below)
    else if below < 0x80000000 then marked 0xd2 4 (UInt32.size - 1 - below)
    else marked 0xd3 8 (UInt64.size - 1 - below)

/-- The start of an array with so many items, of which there are less than `2 ^ 32`. -/
def encodeArrayStart (length : Nat) : Bytes :=
  if length < 16 then [UInt8.ofNat (0x90 + length)]
  else if length < UInt16.size then marked 0xdc 2 length
  else marked 0xdd 4 length

/-- No value. -/
def encodeNil : Bytes := [0xc0]

/-! ### Reading -/

/-- A value as it was read. -/
inductive Value
  | nil
  | bool (value : Bool)
  | int (value : Int)
  | float
  /-- Text or plain bytes; the flag tells plain bytes. -/
  | bytes (plain : Bool) (content : Bytes)
  | array (items : List Value)
  | map (entries : List (Value × Value))
  | extension
  deriving Repr, Inhabited

/-- A reader takes something off the front of some bytes or fails. -/
abbrev Reader (α : Type) := Bytes → Option (α × Bytes)

/-- So many bytes. -/
def takeBytes (length : Nat) : Reader Bytes := fun bytes =>
  let taken := bytes.take length
  if taken.length = length then some (taken, bytes.drop length) else none

/-- The number that some bytes hold, the most significant one first. -/
def natOf (bytes : Bytes) : Nat := bytes.foldl (fun n b => n * 256 + b.toNat) 0

/-- A natural number of so many bytes. -/
def readNat (width : Nat) : Reader Nat := fun bytes => do
  let (taken, rest) ← takeBytes width bytes
  some (natOf taken, rest)

/-- The whole number that so many bytes hold when the upper half of their range stands for numbers
below zero. -/
def signedOf (width n : Nat) : Int :=
  let range := Nat.pow 256 width
  if 2 * n < range then n else (n : Int) - range

/-- As many things as asked for, one after the other. -/
def readMany {α : Type} (read : Reader α) : Nat → Reader (List α)
  | 0, bytes => some ([], bytes)
  | count + 1, bytes => do
    let (first, bytes) ← read bytes
    let (others, bytes) ← readMany read count bytes
    some (first :: others, bytes)

/-- A key and its value. -/
def readEntry (read : Reader Value) : Reader (Value × Value) := fun bytes => do
  let (key, bytes) ← read bytes
  let (value, bytes) ← read bytes
  some ((key, value), bytes)

/-- Whole numbers of so many bytes. -/
def readInt (signed : Bool) (width : Nat) : Reader Value := fun bytes => do
  let (n, bytes) ← readNat width bytes
  some (.int (if signed then signedOf width n else n), bytes)

/-- Text or plain bytes whose length comes first, in so many bytes. -/
def readBytes (plain : Bool) (width : Nat) : Reader Value := fun bytes => do
  let (length, bytes) ← readNat width bytes
  let (content, bytes) ← takeBytes length bytes
  some (.bytes plain content, bytes)

/-- Bytes of an extension, after its type. -/
def readExtension (length : Nat) : Reader Value := fun bytes => do
  let (_, bytes) ← takeBytes (length + 1) bytes
  some (.extension, bytes)

/-- An array of so many items. -/
def readArray (read : Reader Value) (length : Nat) : Reader Value := fun bytes => do
  let (items, bytes) ← readMany read length bytes
  some (.array items, bytes)

/-- A map of so many entries. -/
def readMap (read : Reader Value) (length : Nat) : Reader Value := fun bytes => do
  let (entries, bytes) ← readMany (readEntry read) length bytes
  some (.map entries, bytes)

/-- What follows a marker. Nested values are read by the given reader. -/
def readAfter (read : Reader Value) (marker : UInt8) : Reader Value := fun bytes =>
  let m := marker.toNat
  if m < 0x80 then some (.int m, bytes)
  else if m < 0x90 then readMap read (m - 0x80) bytes
  else if m < 0xa0 then readArray read (m - 0x90) bytes
  else if m < 0xc0 then do
    let (content, bytes) ← takeBytes (m - 0xa0) bytes
    some (.bytes false content, bytes)
  else if 0xe0 ≤ m then some (.int ((m : Int) - 256), bytes)
  else
    match m with
    | 0xc0 => some (.nil, bytes)
    | 0xc2 => some (.bool false, bytes)
    | 0xc3 => some (.bool true, bytes)
    | 0xc4 => readBytes true 1 bytes
    | 0xc5 => readBytes true 2 bytes
    | 0xc6 => readBytes true 4 bytes
    | 0xc7 => do let (length, bytes) ← readNat 1 bytes; readExtension length bytes
    | 0xc8 => do let (length, bytes) ← readNat 2 bytes; readExtension length bytes
    | 0xc9 => do let (length, bytes) ← readNat 4 bytes; readExtension length bytes
    | 0xca => do let (_, bytes) ← takeBytes 4 bytes; some (.float, bytes)
    | 0xcb => do let (_, bytes) ← takeBytes 8 bytes; some (.float, bytes)
    | 0xcc => readInt false 1 bytes
    | 0xcd => readInt false 2 bytes
    | 0xce => readInt false 4 bytes
    | 0xcf => readInt false 8 bytes
    | 0xd0 => readInt true 1 bytes
    | 0xd1 => readInt true 2 bytes
    | 0xd2 => readInt true 4 bytes
    | 0xd3 => readInt true 8 bytes
    | 0xd4 => readExtension 1 bytes
    | 0xd5 => readExtension 2 bytes
    | 0xd6 => readExtension 4 bytes
    | 0xd7 => readExtension 8 bytes
    | 0xd8 => readExtension 16 bytes
    | 0xd9 => readBytes false 1 bytes
    | 0xda => readBytes false 2 bytes
    | 0xdb => readBytes false 4 bytes
    | 0xdc => do let (length, bytes) ← readNat 2 bytes; readArray read length bytes
    | 0xdd => do let (length, bytes) ← readNat 4 bytes; readArray read length bytes
    | 0xde => do let (length, bytes) ← readNat 2 bytes; readMap read length bytes
    | 0xdf => do let (length, bytes) ← readNat 4 bytes; readMap read length bytes
    | _ => none

/-- A value that is nested at most so deeply. -/
def readValue : (depth : Nat) → Reader Value
  | _, [] => none
  | 0, marker :: bytes => readAfter (fun _ => none) marker bytes
  | depth + 1, marker :: bytes => readAfter (readValue depth) marker bytes

/-- How deeply values may be nested. -/
def depthLimit : Nat := 1023

/-- The value at the front of some bytes; what follows it does not matter. -/
def read? (bytes : Bytes) : Option Value := (readValue depthLimit bytes).map (·.1)

end Triage.MessagePack
