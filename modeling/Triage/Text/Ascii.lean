/-
ASCII case.

Names, keys and repository paths are compared without regard to the case of the twenty-six ASCII
letters; every other character stands for itself.
-/
namespace Triage.Text

/-- The text with its ASCII capitals in lower case. -/
def asciiLower (s : String) : String := String.ofList (s.toList.map Char.toLower)

/-- Equality that disregards ASCII case. -/
def eqIgnoreCase (a b : String) : Bool := asciiLower a == asciiLower b

/-- One of the 128 ASCII characters. -/
def isAscii (c : Char) : Bool := c.toNat < 128

theorem toList_asciiLower (s : String) : (asciiLower s).toList = s.toList.map Char.toLower := by
  simp [asciiLower]

theorem eqIgnoreCase_iff {a b : String} :
    eqIgnoreCase a b = true ↔ asciiLower a = asciiLower b := by
  simp [eqIgnoreCase]

end Triage.Text
