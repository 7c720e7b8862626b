/-
Case mappings as shifts of code points.

Most case mappings move a whole block of letters, or every second letter of a block, by one fixed
distance. A table of such shifts describes a mapping in a few hundred rows and can be read in
both directions: what a code point is sent to, and which code points are sent to it.
-/
namespace Triage.Text

/-- Sends every `step`-th code point from `first` to `last` by `offset` further on. -/
structure Shift where
  first : Nat
  last : Nat
  step : Nat
  offset : Int
  deriving Repr, DecidableEq

namespace Shift

/-- Whether the rule names this code point. -/
def covers (s : Shift) (n : Nat) : Bool :=
  s.first ≤ n && n ≤ s.last && (n - s.first) % s.step == 0

/-- Where the first rule that names the code point sends it. -/
def image (table : List Shift) (n : Nat) : Nat :=
  match table.find? (·.covers n) with
  | some s => (n + s.offset).toNat
  | none => n

/-- The code points that some rule sends to this one. -/
def preimages (table : List Shift) (n : Nat) : List Nat :=
  table.filterMap fun s =>
    let source : Int := n - s.offset
    if 0 ≤ source && s.covers source.toNat then some source.toNat else none

end Shift
end Triage.Text
