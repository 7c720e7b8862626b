/-
Sets of characters.

A set is built from ranges, general categories and scripts with the operations on sets, and with
closure under case. Membership is decided by structural recursion.
-/
import Triage.Text.Category
import Triage.Text.Folding
import Triage.Text.Script
namespace Triage.Text

/-- A set of code points. -/
inductive CharSet
  | ranges (list : List (Nat × Nat))
  | category (category : Category)
  | script (code : String)
  | usedWith (code : String)
  | anyCase (set : CharSet)
  | anyAsciiCase (set : CharSet)
  | union (a b : CharSet)
  | inter (a b : CharSet)
  | diff (a b : CharSet)
  | symmDiff (a b : CharSet)
  | compl (set : CharSet)
  deriving Repr, DecidableEq

namespace CharSet

/-- Whether a code point belongs to the set. -/
def contains : CharSet → Nat → Bool
  | ranges list, n => inRanges list n
  | category c, n => Category.ofCode n == c
  | script code, n => Script.ofCode n == code
  | usedWith code, n => (Script.usedWith n).contains code
  | anyCase set, n => (Folding.orbit n).any set.contains
  | anyAsciiCase set, n => (Folding.asciiOrbit n).any set.contains
  | union a b, n => a.contains n || b.contains n
  | inter a b, n => a.contains n && b.contains n
  | diff a b, n => a.contains n && !b.contains n
  | symmDiff a b, n => a.contains n != b.contains n
  | compl set, n => !set.contains n

/-- The set without members. -/
def nothing : CharSet := ranges []

/-- The set of all code points. -/
def everything : CharSet := ranges [(0, 0x10FFFF)]

/-- The set with one member. -/
def single (c : Char) : CharSet := ranges [(c.toNat, c.toNat)]

/-- The union of several sets. -/
def unions (sets : List CharSet) : CharSet := sets.foldr union nothing

/-- The code points with one of several categories. -/
def categories (list : List Category) : CharSet := unions (list.map category)

end CharSet
end Triage.Text
