/-
Settings files as data.

A settings file is a table: values under keys, where a value may be a table again. What may still
be added to a table depends on how it came to be, so every table remembers that. Dates and times
have a place in the grammar, but no setting uses them, so their content is not kept.
-/
namespace Triage

namespace Toml

/-- A value without parts. -/
inductive Scalar
  | string (value : String)
  | integer (value : Int)
  | float (value : Float)
  | boolean (value : Bool)
  deriving Repr, BEq

/-- Characters of keys that stand without quotes. -/
def isBareKeyChar (c : Char) : Bool := c.isAlphanum || c == '_' || c == '-'

/-- How a table came to be. -/
inductive Origin
  /-- Written in braces; nothing can be added. -/
  | closed
  /-- Opened by a header of its own. -/
  | headed
  /-- Named on the way to the table of a header. -/
  | implied
  /-- Named on the way to the last part of a dotted key. -/
  | dotted
  deriving Repr, DecidableEq

end Toml

/-- A value of a settings file. -/
inductive Toml
  | scalar (value : Toml.Scalar)
  | moment
  | array (items : List Toml)
  /-- Tables under one name that have a header each; more may follow. -/
  | tables (items : List Toml)
  | table (origin : Toml.Origin) (entries : List (String × Toml))
  deriving Inhabited

end Triage
