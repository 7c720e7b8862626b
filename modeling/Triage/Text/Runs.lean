/-
Functions on code points that are constant on runs.

A property of all code points is stored as the code points at which its value changes. Looking a
value up is a binary search for the last run that starts at or before the code point.
-/
namespace Triage.Text

/-- Runs in ascending order: each value holds from its code point up to the next one. -/
structure Runs (α : Type) where
  entries : Array (Nat × α)

namespace Runs

/-- The last of the entries `lo, …, hi - 1` that starts at or before `n`. -/
def search {α : Type} (entries : Array (Nat × α)) (n lo hi : Nat) (best : Option α) : Option α :=
  if _h : lo < hi then
    let mid := (lo + hi) / 2
    match entries[mid]? with
    | some (first, value) =>
      if first ≤ n then search entries n (mid + 1) hi (some value)
      else search entries n lo mid best
    | none => best
  else best
termination_by hi - lo

/-- The value that holds at a code point. -/
def get? {α : Type} (runs : Runs α) (n : Nat) : Option α :=
  search runs.entries n 0 runs.entries.size none

end Runs

/-- The entries of a table, which stand between blanks and on several lines. -/
def tableEntries (table : String) : List String :=
  ((table.splitOn "\n").flatMap (·.splitOn " ")).filter (· ≠ "")

/-- The number that upper case hexadecimal digits stand for. -/
def hexValue (cs : List Char) : Nat :=
  cs.foldl (fun acc c =>
    acc * 16 + (if c.toNat ≤ 0x39 then c.toNat - 0x30 else c.toNat - 0x37)) 0

/-- Reads a table whose words are a code point in hexadecimal followed by a code of fixed width. -/
def Runs.read {α : Type} (width : Nat) (decode : List Char → α) (table : String) : Runs α :=
  ⟨((tableEntries table).map fun word =>
      let cs := word.toList
      let split := cs.length - width
      (hexValue (cs.take split), decode (cs.drop split))).toArray⟩

/-- Reads a list of ranges in hexadecimal, such as `30-39 5F 61-7A`. -/
def readRanges (table : String) : List (Nat × Nat) :=
  (tableEntries table).map fun word =>
    let cs := word.toList
    let first := cs.takeWhile (· != '-')
    match cs.drop first.length with
    | _ :: last => (hexValue first, hexValue last)
    | [] => (hexValue first, hexValue first)

/-- Whether one of the inclusive ranges holds the code point. -/
def inRanges (ranges : List (Nat × Nat)) (n : Nat) : Bool :=
  ranges.any fun (first, last) => first ≤ n && n ≤ last

end Triage.Text
