/-
JSON values.

Numbers keep the text they were written with, so that whole numbers and fractions stay apart and
nothing is rounded before its use is known. Objects keep their members in order, repeated names
included. A string may hold an escape that names half of a surrogate pair and so no character at
all; such a string has a place in the grammar but no content.
-/
import Triage.Decimal.Layout
namespace Triage

/-- A JSON value as it was written. -/
inductive Json
  | null
  | bool (value : Bool)
  | number (text : String)
  /-- The content, unless an escape in it names no character. -/
  | string (content : Option String)
  | array (items : List Json)
  | object (members : List (Option String × Json))
  deriving Repr, Inhabited

namespace Json

/-- A string with content. -/
def str (s : String) : Json := string (some s)

/-- An object whose names have content. -/
def obj (members : List (String × Json)) : Json := object (members.map fun (k, v) => (some k, v))

/-- A natural number. -/
def ofNat (n : Nat) : Json := number (String.ofList (Decimal.digitsOf n))

/-- A whole number. -/
def ofInt (n : Int) : Json :=
  number (String.ofList (Decimal.signed (n < 0) (Decimal.digitsOf n.natAbs)))

/-- A finite double; others have no number and become `null`. -/
def ofFloat (x : Float) : Json :=
  match Decimal.json? x with
  | some text => number text
  | none => null

/-- `null` or a value. -/
def ofOption {α : Type} (encode : α → Json) : Option α → Json
  | some a => encode a
  | none => null

mutual

/-- How deeply arrays and objects are nested. -/
def depth : Json → Nat
  | array items => depthOfItems items + 1
  | object members => depthOfMembers members + 1
  | _ => 0

/-- The deepest nesting among the items of an array. -/
def depthOfItems : List Json → Nat
  | [] => 0
  | item :: rest => max item.depth (depthOfItems rest)

/-- The deepest nesting among the members of an object. -/
def depthOfMembers : List (Option String × Json) → Nat
  | [] => 0
  | (_, value) :: rest => max value.depth (depthOfMembers rest)

end

end Json
end Triage
