/-
Values of other types in a cache.

A value is kept as the bytes of its compact JSON. Bytes that are not the JSON of such a value count
as if nothing were there.
-/
import Triage.Cache.Basic
import Triage.Json.Reading
import Triage.Json.Writing
namespace Triage.Cache

open Triage.MessagePack

/-- The bytes of a text. -/
def bytesOfText (text : String) : Bytes := text.toUTF8.toList

/-- The text that bytes hold. -/
def textOfBytes? (bytes : Bytes) : Option String := String.fromUTF8? ⟨bytes.toArray⟩

/-- The JSON that bytes hold. -/
def jsonOfBytes? (bytes : Bytes) : Option Json := (textOfBytes? bytes).bind Json.read?

namespace Session

/-- Reads a value of some type. -/
def getJson {α : Type} (s : Session) (now : Int) (key : String) (decode : Json → Option α) :
    Option α × Session :=
  let (bytes, s) := s.get now key
  ((bytes.bind jsonOfBytes?).bind decode, s)

/-- Stores a value that was turned into JSON. -/
def setJson (s : Session) (now : Int) (key : String) (json : Json) (ttl : Option Nat) : Session :=
  s.set now key (bytesOfText json.compact) ttl

end Session
end Triage.Cache
