/-
Saved filters.

A saved filter is an expression under a name by which queries refer to it, with a description and
the time at which it was saved. Names are words of ASCII letters, digits, hyphens and underscores.
Saved filters are kept in a file as JSON, in the order of their names.
-/
import Triage.Error
import Triage.Notification.Json
import Triage.SortedMap
namespace Triage

open Triage.Calendar

/-- A saved filter. -/
structure SavedFilter where
  expression : String
  description : Option String
  createdAt : Instant
  deriving Repr, DecidableEq

/-- Saved filters by name. -/
abbrev SavedFilters := SortedMap SavedFilter

namespace SavedFilter

/-- Whether a filter may be saved under this name. -/
def isName (name : String) : Bool :=
  let cs := name.toList
  !cs.isEmpty && cs.all fun c => c.isAlphanum || c == '_' || c == '-'

/-- A saved filter as JSON. -/
def toJson (f : SavedFilter) : Json :=
  .obj [("expression", .str f.expression), ("description", .ofOption .str f.description),
    ("created_at", f.createdAt.toJson)]

/-- Reads a saved filter; the description may be absent. -/
def ofJson (json : Json) : Option SavedFilter := do
  let r ← json.asRecord ["expression", "description", "created_at"]
  let expression ← r.required "expression" Json.asString
  let description ← r.optional "description" none (Json.asOption Json.asString)
  let createdAt ← r.required "created_at" Instant.ofJson
  some { expression, description, createdAt }

end SavedFilter

namespace SavedFilters

/-- Saves a filter, in the place of one with the same name. -/
def save (filters : SavedFilters) (now : Instant) (name expression : String)
    (description : Option String) : Except ConfigFault SavedFilters :=
  if SavedFilter.isName name then
    .ok (filters.insert name { expression, description, createdAt := now })
  else .error (.invalidFilterName name)

/-- The expression under a name. -/
def lookup (filters : SavedFilters) (name : String) : Except ReferenceFault String :=
  match SortedMap.get? filters name with
  | some filter => .ok filter.expression
  | none => .error (.unknown name)

/-- The expressions by name. -/
def expressions (filters : SavedFilters) : SortedMap String := filters.map SavedFilter.expression

/-- Saved filters as JSON. -/
def toJson (filters : SavedFilters) : Json :=
  .obj [("filters", .obj (filters.toList.map fun (name, filter) => (name, filter.toJson)))]

/-- Reads saved filters; the last one under each name stays. -/
def ofJson (json : Json) : Option SavedFilters := do
  let r ← json.asRecord ["filters"]
  r.required "filters" fun json => (json.asMembers SavedFilter.ofJson).map .ofList

/-- The text of a file of saved filters. -/
def toText (filters : SavedFilters) : String := (toJson filters).pretty

/-- Reads the text of a file of saved filters. -/
def ofText (text : String) : Except ConfigFault SavedFilters :=
  match (Json.read? text).bind ofJson with
  | some filters => .ok filters
  | none => .error .unreadableStore

end SavedFilters
end Triage
