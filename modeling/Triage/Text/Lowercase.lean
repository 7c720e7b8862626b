/-
Lower case for all of Unicode.

Each character is replaced by its lower case form, which is one character for all but one of them.
The Greek capital sigma looks at its surroundings: at the end of a word it becomes the final form
of the letter, elsewhere the ordinary one. A sigma ends a word when a letter with case stands
before it and none stands after it, where characters that case ignores are passed over.
-/
import Triage.Text.Runs
import Triage.Text.Lowercase.Table
namespace Triage.Text

namespace Lowercase

/-- Letters with case. -/
def isCased (c : Char) : Bool := inRanges casedRanges c.toNat

/-- Characters that are passed over in the search for a neighbouring letter. -/
def isIgnorable (c : Char) : Bool := inRanges ignorableRanges c.toNat

/-- Whether the first character that case does not ignore is a letter with case. -/
def meetsLetter (cs : List Char) : Bool :=
  match cs.dropWhile isIgnorable with
  | c :: _ => isCased c
  | [] => false

/-- The lower case form of a character by itself. -/
def ofChar (c : Char) : List Char :=
  if c.toNat < 128 then [c.toLower]
  else if c == 'İ' then ['i', '\u0307']
  else [Char.ofNat (Shift.image shifts c.toNat)]

/-- Lower case of a text, given the characters before it in reverse order. -/
def ofChars (before : List Char) : List Char → List Char
  | [] => []
  | c :: rest =>
    (if c == 'Σ' then [if meetsLetter before && !meetsLetter rest then 'ς' else 'σ']
      else ofChar c) ++ ofChars (c :: before) rest

end Lowercase

/-- The text in lower case. -/
def lowercase (s : String) : String := String.ofList (Lowercase.ofChars [] s.toList)

end Triage.Text
