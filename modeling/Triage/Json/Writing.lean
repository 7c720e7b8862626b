/-
Writing JSON.

There are two layouts: compact, without any blanks, and indented by two blanks a level with one
item or member a line. Strings escape quotes, backslashes and control characters, and nothing else.
-/
import Triage.Json.Basic
namespace Triage.Json

/-- The two hexadecimal digits of a control character. -/
def controlDigits (c : Char) : List Char :=
  [Nat.digitChar (c.toNat / 16), Nat.digitChar (c.toNat % 16)]

/-- One character of a string. -/
def escapeChar (c : Char) : List Char :=
  match c with
  | '"' => ['\\', '"']
  | '\\' => ['\\', '\\']
  | '\x08' => ['\\', 'b']
  | '\x0c' => ['\\', 'f']
  | '\n' => ['\\', 'n']
  | '\r' => ['\\', 'r']
  | '\t' => ['\\', 't']
  | c => if c.toNat < 0x20 then ['\\', 'u', '0', '0'] ++ controlDigits c else [c]

/-- A string in quotes. -/
def quoted (s : String) : List Char := '"' :: s.toList.flatMap escapeChar ++ ['"']

/-- A string, or a quoted nothing where it has no content. -/
def quotedContent (content : Option String) : List Char := quoted (content.getD "")

mutual

/-- The compact layout. -/
def compactChars : Json → List Char
  | null => ['n', 'u', 'l', 'l']
  | bool true => ['t', 'r', 'u', 'e']
  | bool false => ['f', 'a', 'l', 's', 'e']
  | number text => text.toList
  | string content => quotedContent content
  | array items => '[' :: compactItems items ++ [']']
  | object members => '\x7b' :: compactMembers members ++ ['\x7d']

/-- The items of an array with commas between them. -/
def compactItems : List Json → List Char
  | [] => []
  | [item] => item.compactChars
  | item :: rest => item.compactChars ++ ',' :: compactItems rest

/-- The members of an object with commas between them. -/
def compactMembers : List (Option String × Json) → List Char
  | [] => []
  | [(name, value)] => quotedContent name ++ ':' :: value.compactChars
  | (name, value) :: rest =>
    quotedContent name ++ ':' :: value.compactChars ++ ',' :: compactMembers rest

end

/-- The start of a line at a level. -/
def lineStart (level : Nat) : List Char := '\n' :: List.replicate (2 * level) ' '

mutual

/-- The indented layout of a value at a level. -/
def prettyChars (level : Nat) : Json → List Char
  | array [] => ['[', ']']
  | array items => '[' :: prettyItems (level + 1) items ++ lineStart level ++ [']']
  | object [] => ['\x7b', '\x7d']
  | object members => '\x7b' :: prettyMembers (level + 1) members ++ lineStart level ++ ['\x7d']
  | null => compactChars null
  | bool value => compactChars (bool value)
  | number text => compactChars (number text)
  | string content => compactChars (string content)

/-- The items of an array, each on a line of its own. -/
def prettyItems (level : Nat) : List Json → List Char
  | [] => []
  | [item] => lineStart level ++ item.prettyChars level
  | item :: rest => lineStart level ++ item.prettyChars level ++ ',' :: prettyItems level rest

/-- The members of an object, each on a line of its own. -/
def prettyMembers (level : Nat) : List (Option String × Json) → List Char
  | [] => []
  | [(name, value)] =>
    lineStart level ++ quotedContent name ++ ':' :: ' ' :: value.prettyChars level
  | (name, value) :: rest =>
    lineStart level ++ quotedContent name ++ ':' :: ' ' :: value.prettyChars level ++
      ',' :: prettyMembers level rest

end

/-- The value in the compact layout. -/
def compact (json : Json) : String := String.ofList json.compactChars

/-- The value in the indented layout. -/
def pretty (json : Json) : String := String.ofList (json.prettyChars 0)

end Triage.Json
