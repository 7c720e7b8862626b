/-
Shell-style patterns over repository names.

`?` stands for one character and `*` for any run of characters, slashes included. `**` must fill a
whole component of the path and stands for any number of components, or for all that is left.
Brackets list characters and ranges, after `!` those that may not occur. Letters match without
regard to ASCII case.

A pattern is matched from its end: for each item in turn the table of the suffixes that the items
from there on match is computed from the table of the items after it, so matching takes time
proportional to the length of the pattern times that of the text.
-/
import Triage.Text.Ascii
namespace Triage

/-- One entry of a bracket: the characters between two, both included. -/
structure Glob.Range where
  first : Char
  last : Char
  deriving Repr, DecidableEq

/-- One item of a pattern. -/
inductive Glob.Item
  | char (c : Char)
  | anyChar
  | within (ranges : List Glob.Range)
  | except (ranges : List Glob.Range)
  | anything
  | components
  deriving Repr, DecidableEq

/-- Why a text is not a pattern. -/
inductive Glob.Fault
  | tooManyStars
  | starsNotAlone
  | invalidRange
  deriving Repr, DecidableEq

/-- A pattern together with the text it was read from. -/
structure Glob where
  text : String
  items : List Glob.Item
  deriving Repr, DecidableEq

namespace Glob

/-- The wording of a fault. -/
def Fault.message : Fault → String
  | tooManyStars => "wildcards are either regular \x60*\x60 or recursive \x60**\x60"
  | starsNotAlone => "recursive wildcards must form a single path component"
  | invalidRange => "invalid range pattern"

/-! ### Reading -/

/-- The entries of a bracket. A hyphen between two characters makes a range of them. -/
def readRanges : List Char → List Range
  | a :: '-' :: b :: rest => ⟨a, b⟩ :: readRanges rest
  | c :: rest => ⟨c, c⟩ :: readRanges rest
  | [] => []

/-- What stands between the brackets, and what follows the closing one. The first character is
listed even if it is a closing bracket. -/
def takeBracket? : List Char → Option (List Char × List Char)
  | first :: more =>
    match more.dropWhile (· != ']') with
    | _ :: rest => some (first :: more.takeWhile (· != ']'), rest)
    | [] => none
  | [] => none

theorem takeBracket?_length {cs content rest : List Char}
    (h : takeBracket? cs = some (content, rest)) : rest.length < cs.length := by
  cases cs with
  | nil => simp [takeBracket?] at h
  | cons first more =>
    rw [takeBracket?] at h
    split at h
    · rename_i c after heq
      injection h with h
      injection h with _ h
      have hlen := (List.dropWhile_sublist (l := more) (· != ']')).length_le
      rw [heq] at hlen
      subst h
      simp only [List.length_cons] at hlen ⊢
      omega
    · simp at h

/-- Reads a pattern, given the character before it. -/
def readItems (previous : Option Char) : List Char → Except Fault (List Item)
  | [] => .ok []
  | '?' :: rest => do return .anyChar :: (← readItems (some '?') rest)
  | '*' :: '*' :: '*' :: _ => .error .tooManyStars
  | '*' :: '*' :: rest =>
    if previous == none || previous == some '/' then
      match rest with
      | '/' :: rest => do return .components :: (← readItems (some '/') rest)
      | [] => .ok [.components]
      | _ => .error .starsNotAlone
    else .error .starsNotAlone
  | '*' :: rest => do return .anything :: (← readItems (some '*') rest)
  | '[' :: '!' :: rest =>
    match _h : takeBracket? rest with
    | some (content, after) => do
      return .except (readRanges content) :: (← readItems (some ']') after)
    | none => .error .invalidRange
  | '[' :: rest =>
    match _h : takeBracket? rest with
    | some (content, after) => do
      return .within (readRanges content) :: (← readItems (some ']') after)
    | none => .error .invalidRange
  | c :: rest => do return .char c :: (← readItems (some c) rest)
termination_by cs => cs.length
decreasing_by
  · simp only [List.length_cons]; omega
  · simp only [List.length_cons]; omega
  · simp only [List.length_cons]; omega
  · have := takeBracket?_length _h
    simp only [List.length_cons]; omega
  · have := takeBracket?_length _h
    simp only [List.length_cons]; omega
  · simp only [List.length_cons]; omega

/-- Reads a pattern. -/
def ofText (text : String) : Except Fault Glob :=
  (Glob.mk text ·) <$> readItems none text.toList

/-- Whether the pattern stands for itself only. -/
def isLiteral (text : String) : Bool :=
  !text.toList.any fun c => c == '*' || c == '?' || c == '['

/-! ### Matching -/

/-- Equality of characters up to the case of ASCII letters. -/
def sameChar (a b : Char) : Bool := a.toLower == b.toLower

/-- Whether a character lies in a range. Between two ASCII letters case does not matter. -/
def Range.contains (r : Range) (c : Char) : Bool :=
  (r.first == r.last && sameChar c r.first) ||
    (Text.isAscii c && r.first.isAlpha && r.last.isAlpha &&
      r.first.toLower ≤ c.toLower && c.toLower ≤ r.last.toLower) ||
    (r.first ≤ c && c ≤ r.last)

namespace Item

/-- Whether an item for a single character takes this one. -/
def takes : Item → Char → Bool
  | char a, c => sameChar a c
  | anyChar, _ => true
  | within ranges, c => ranges.any (·.contains c)
  | except ranges, c => !ranges.any (·.contains c)
  | anything, _ => false
  | components, _ => false

/-- The suffixes that one character and then the later items match. -/
def afterOne (item : Item) : List Char → List Bool → List Bool
  | c :: cs, _ :: later => (item.takes c && later.headD false) :: afterOne item cs later
  | _, _ => [false]

/-- The suffixes that some characters and then the later items match. -/
def afterAny : List Bool → List Bool
  | [] => []
  | b :: later =>
    let tail := afterAny later
    (b || tail.headD false) :: tail

/-- The suffixes in which the later items match directly after some slash. -/
def afterSlash : List Char → List Bool → List Bool
  | c :: cs, _ :: later =>
    let tail := afterSlash cs later
    ((c == '/' && later.headD false) || tail.headD false) :: tail
  | _, _ => [false]

/-- The suffixes that the item and the later items match, from those that the later ones match. -/
def extend (item : Item) (cs : List Char) (later : List Bool) : List Bool :=
  match item with
  | anything => afterAny later
  | components =>
    let atEnd := later.getLast?.getD false
    List.zipWith (fun here slash => here || slash || atEnd) later (afterSlash cs later)
  | item => afterOne item cs later

end Item

/-- For each suffix of the text, the longest first, whether the items match all of it. -/
def suffixes : List Item → List Char → List Bool
  | [], cs => cs.map (fun _ => false) ++ [true]
  | item :: items, cs => item.extend cs (suffixes items cs)

/-- Whether the pattern matches the whole text. -/
def isMatch (g : Glob) (s : String) : Bool := (suffixes g.items s.toList).headD false

end Glob
end Triage
