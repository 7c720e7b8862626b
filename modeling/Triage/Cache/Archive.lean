/-
What a directory of caches holds, as text.

Stores outlive the program, so what they hold is written down between two runs: tables with their
rows and partitions with their entries, as JSON with the bytes of each entry in hexadecimal.
-/
import Triage.Cache.Storage
import Triage.Json.Decoding
import Triage.Json.Reading
import Triage.Json.Writing
namespace Triage.Cache

open Triage.MessagePack

/-- The two digits of a byte. -/
def byteDigits (b : UInt8) : List Char :=
  [Nat.digitChar (b.toNat / 16), Nat.digitChar (b.toNat % 16)]

/-- Bytes as JSON. -/
def bytesToJson (bytes : Bytes) : Json := .str (String.ofList (bytes.flatMap byteDigits))

/-- The bytes that pairs of digits stand for. -/
def bytesOfDigits : List Char → Option Bytes
  | [] => some []
  | [_] => none
  | a :: b :: rest => do
    let high ← Json.hexDigit? a
    let low ← Json.hexDigit? b
    let bytes ← bytesOfDigits rest
    some (UInt8.ofNat (high * 16 + low) :: bytes)

/-- Reads bytes. -/
def bytesOfJson (json : Json) : Option Bytes := do bytesOfDigits (← json.asString).toList

/-- A row as JSON: its envelope and its expiry. -/
def Row.toJson (row : Row) : Json :=
  .array [bytesToJson row.blob, .ofOption .ofInt row.expiresAt]

/-- Reads a row. -/
def Row.ofJson : Json → Option Row
  | .array [blob, .null] => (bytesOfJson blob).map (⟨·, none⟩)
  | .array [blob, .number text] => do
    some ⟨← bytesOfJson blob, some (← Decimal.readInt? text)⟩
  | _ => none

/-- A map as JSON. -/
def mapToJson {α : Type} (encode : α → Json) (m : SortedMap α) : Json :=
  .obj (m.toList.map fun (name, value) => (name, encode value))

/-- Reads a map. -/
def mapOfJson {α : Type} (decode : Json → Option α) (json : Json) : Option (SortedMap α) :=
  (json.asMembers decode).map .ofList

namespace Storage

/-- What a directory holds, as text. -/
def toText (s : Storage) : String :=
  Json.compact (.obj [("tables", mapToJson (mapToJson Row.toJson) s.tables),
    ("partitions", mapToJson (mapToJson bytesToJson) s.partitions)])

/-- Reads what a directory holds. -/
def ofText? (text : String) : Option Storage := do
  let r ← (← Json.read? text).asRecord ["tables", "partitions"]
  let tables ← r.required "tables" (mapOfJson (mapOfJson Row.ofJson))
  let partitions ← r.required "partitions" (mapOfJson (mapOfJson bytesOfJson))
  some { tables, partitions }

end Storage
end Triage.Cache
