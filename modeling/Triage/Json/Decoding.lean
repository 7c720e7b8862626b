/-
Taking JSON values apart.

A record may be written as an object, whose members may come in any order, or as an array of its
fields in order. Unknown members are passed over, whatever they hold; a known one may not be
repeated. A field that is absent takes its default, if it has one. No value is converted into
another: a fraction is no whole number, and `null` fits only where a value may be missing.
-/
import Triage.Decimal.Reading
import Triage.Json.Basic
namespace Triage.Json

/-- The content of a string. -/
def asString : Json → Option String
  | string content => content
  | _ => none

/-- A truth value. -/
def asBool : Json → Option Bool
  | bool value => some value
  | _ => none

/-- A natural number below a bound, written without sign, point or exponent. -/
def asNatBelow (bound : Nat) : Json → Option Nat
  | number text =>
    let cs := text.toList
    if cs.all Char.isDigit then
      let n := Decimal.digitsValue cs
      if n < bound then some n else none
    else none
  | _ => none

/-- A number, rounded to the nearest double; it must not be beyond all of them. -/
def asFloat : Json → Option Float
  | number text => (Decimal.read? text).filter Float.isFinite
  | _ => none

/-- A missing value is `null`. -/
def asOption {α : Type} (decode : Json → Option α) : Json → Option (Option α)
  | null => some none
  | json => (decode json).map some

/-- The items of an array, decoded one by one. -/
def asList {α : Type} (decode : Json → Option α) : Json → Option (List α)
  | array items => items.mapM decode
  | _ => none

/-- Names and values of an object. All names must have content. -/
def asMembers {α : Type} (decode : Json → Option α) : Json → Option (List (String × α))
  | object members => members.mapM fun (name, value) => do some (← name, ← decode value)
  | _ => none

/-- A record: for each of its fields the value, if there is one. -/
abbrev Record := String → Option Json

/-- Reads a record with the given fields. -/
def asRecord (fields : List String) : Json → Option Record
  | object members => do
    let names ← members.mapM (·.1)
    if fields.all fun f => names.count f ≤ 1 then
      some fun field => members.lookup (some field)
    else none
  | array items =>
    if items.length ≤ fields.length then some fun field => (fields.zip items).lookup field
    else none
  | _ => none

/-- A field that must be there. -/
def Record.required {α : Type} (r : Record) (field : String) (decode : Json → Option α) :
    Option α :=
  (r field).bind decode

/-- A field that has a default. -/
def Record.optional {α : Type} (r : Record) (field : String) (initial : α)
    (decode : Json → Option α) : Option α :=
  match r field with
  | some json => decode json
  | none => some initial

/-- The name of a choice: a string, or an object with the name as its only member and `null`. -/
def asChoice : Json → Option String
  | string content => content
  | object [(name, null)] => name
  | _ => none

end Triage.Json
