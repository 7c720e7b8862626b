/-
JSON values in one form.

Of members with one name the last one stays, and members are in the order of their names. Whole
numbers of 64 bits stay as they are; other numbers become the nearest double. A value that holds a
string without content, a number beyond every double or too deep a nesting has no such form.
-/
import Triage.Json.Decoding
import Triage.SortedMap
namespace Triage.Json

/-- How deeply a value may be nested. -/
def depthLimit : Nat := 127

/-- A number in its one form. -/
def canonicalNumber (text : String) : Option Json :=
  let whole :=
    match text.toList with
    | '-' :: digits => digits.all Char.isDigit && Decimal.digitsValue digits != 0
    | digits => digits.all Char.isDigit
  match if whole then Decimal.readIntWithin? (-0x8000000000000000) 0xFFFFFFFFFFFFFFFF text else none with
  | some n => some (.ofInt n)
  | none => (asFloat (.number text)).map .ofFloat

mutual

/-- A value in its one form, however deeply it is nested. -/
def canonicalValue : Json → Option Json
  | null => some .null
  | bool value => some (.bool value)
  | number text => canonicalNumber text
  | string content => content.map .str
  | array items => (canonicalItems items).map .array
  | object members => (canonicalMembers members).map fun members => .obj (SortedMap.ofList members).toList

/-- Items in their one form. -/
def canonicalItems : List Json → Option (List Json)
  | [] => some []
  | item :: rest => do
    let item ← item.canonicalValue
    let rest ← canonicalItems rest
    some (item :: rest)

/-- Members in their one form. -/
def canonicalMembers : List (Option String × Json) → Option (List (String × Json))
  | [] => some []
  | (name, value) :: rest => do
    let name ← name
    let value ← value.canonicalValue
    let rest ← canonicalMembers rest
    some ((name, value) :: rest)

end

/-- A value in its one form. -/
def canonical (json : Json) : Option Json :=
  if json.depth ≤ depthLimit then json.canonicalValue else none

end Triage.Json
