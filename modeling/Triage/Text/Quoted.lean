/-
Text in double quotes, for messages.

A quoted text shows each character of a text unambiguously: quotes and backslashes are
escaped, the common control characters have short escapes, and whatever would not show up as a
character of its own is written as its code point. Printable ASCII stands as it is.
-/
import Triage.Text.Property
namespace Triage.Text

/-- Whether a character merges with the one before it, so that it cannot be shown alone. -/
def isAttaching (c : Char) : Bool := Property.attaching.contains c.toNat

/-- Whether a character shows up on its own. Of the ASCII characters, blank to tilde do. -/
def isShown (c : Char) : Bool :=
  if c.toNat < 128 then 0x20 ≤ c.toNat && c.toNat < 0x7F
  else !isAttaching c && !(Category.ofChar c).isInvisible

/-- The code point of a character in lower case hexadecimal. -/
def hexOf (c : Char) : List Char := Nat.toDigits 16 c.toNat

/-- One character of a quoted text. -/
def quoteChar (c : Char) : List Char :=
  match c with
  | '"' => ['\\', '"']
  | '\\' => ['\\', '\\']
  | '\t' => ['\\', 't']
  | '\n' => ['\\', 'n']
  | '\r' => ['\\', 'r']
  | '\x00' => ['\\', '0']
  | c => if isShown c then [c] else ['\\', 'u', '\x7b'] ++ hexOf c ++ ['\x7d']

/-- The text in double quotes. -/
def quote (s : String) : String :=
  String.ofList ('"' :: s.toList.flatMap quoteChar ++ ['"'])

end Triage.Text
