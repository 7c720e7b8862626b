/-
Writing settings files.

A file is written section by section, each under a header, with an empty line between two. A string
is written in the plainest way that can hold it: in double quotes if nothing needs an escape, else
in single quotes, else in three of the one or the other, and with escapes only if there is no other
way.
-/
import Triage.Decimal.Layout
import Triage.Json.Writing
import Triage.Toml.Basic
namespace Triage.Toml

/-! ### Strings -/

/-- Control characters that need an escape everywhere. -/
def isControl (c : Char) : Bool :=
  (c.toNat < 0x20 || c.toNat == 0x7F) && c != '\t' && c != '\n'

/-- The length of the longest run of a character, given the length of the run under way. -/
def longestRun (c : Char) (current : Nat) : List Char → Nat
  | [] => current
  | d :: rest =>
    if d == c then longestRun c (current + 1) rest else max current (longestRun c 0 rest)

/-- Four hexadecimal digits in capitals. -/
def fourDigits (c : Char) : List Char :=
  let digits := (Nat.toDigits 16 c.toNat).map Char.toUpper
  List.replicate (4 - digits.length) '0' ++ digits

/-- The escape for a character, if it needs one. A line break needs one within a line, and a double
quote where one may not stand. -/
def escape? (inLine quotesEnd : Bool) (c : Char) : Option (List Char) :=
  match c with
  | '"' => if quotesEnd then some ['\\', '"'] else none
  | '\\' => some ['\\', '\\']
  | '\x08' => some ['\\', 'b']
  | '\t' => some ['\\', 't']
  | '\n' => if inLine then some ['\\', 'n'] else none
  | '\x0c' => some ['\\', 'f']
  | '\r' => some ['\\', 'r']
  | c => if isControl c then some ('\\' :: 'u' :: fourDigits c) else none

/-- A text with escapes, where up to `allowed` double quotes may stand in a row; `quotes` counts
those that stand right before it. -/
def escaped (inLine : Bool) (allowed quotes : Nat) : List Char → List Char
  | [] => []
  | c :: rest =>
    let quotes := if c == '"' then quotes + 1 else 0
    match escape? inLine (allowed < quotes) c with
    | some text => text ++ escaped inLine allowed 0 rest
    | none => c :: escaped inLine allowed quotes rest

/-- Ways to write a string. -/
inductive Style
  | basic
  | literal
  | longBasic
  | longLiteral
  deriving Repr, DecidableEq

/-- The plainest way to write a string. -/
def Style.of (cs : List Char) : Style :=
  let controls := cs.any isControl
  let backslashes := cs.contains '\\'
  let breaks := cs.contains '\n'
  let doubles := longestRun '"' 0 cs
  let singles := longestRun '\'' 0 cs
  if !controls && !backslashes && doubles = 0 && !breaks then .basic
  else if !controls && singles = 0 && !breaks then .literal
  else if !controls && !backslashes && doubles ≤ 2 then .longBasic
  else if !controls && singles ≤ 2 then .longLiteral
  else if breaks then .longBasic
  else .basic

/-- A line break after the opening quotes where more than one line follows. -/
def opening (cs : List Char) : List Char := if cs.contains '\n' then ['\n'] else []

/-- A string in one of the ways. -/
def Style.write (style : Style) (cs : List Char) : List Char :=
  match style with
  | .basic => '"' :: escaped true 0 0 cs ++ ['"']
  | .literal => '\'' :: cs ++ ['\'']
  | .longBasic => ['"', '"', '"'] ++ opening cs ++ escaped false 2 0 cs ++ ['"', '"', '"']
  | .longLiteral => ['\'', '\'', '\''] ++ opening cs ++ cs ++ ['\'', '\'', '\'']

/-- A string as a value. -/
def quoted (s : String) : List Char := (Style.of s.toList).write s.toList

/-! ### Keys -/

/-- The way to write a key that needs quotes. It has to fit on its line. -/
def Style.ofKey (cs : List Char) : Style :=
  let controls := cs.any fun c => isControl c || c == '\n'
  if !controls && !cs.contains '\\' && !cs.contains '"' then .basic
  else if !controls && !cs.contains '\'' then .literal
  else .basic

/-- A key, without quotes if it can be. -/
def key (name : String) : List Char :=
  let cs := name.toList
  if !cs.isEmpty && cs.all isBareKeyChar then cs else (Style.ofKey cs).write cs

/-- The header of a table. -/
def header (path : List String) : List Char :=
  '[' :: List.intercalate ['.'] (path.map key) ++ [']', '\n']

/-! ### Values and sections -/

/-- A value without parts. -/
def Scalar.write : Scalar → List Char
  | .string value => quoted value
  | .integer value => Decimal.signed (value < 0) (Decimal.digitsOf value.natAbs)
  | .float value => (Decimal.settings value).toList
  | .boolean true => ['t', 'r', 'u', 'e']
  | .boolean false => ['f', 'a', 'l', 's', 'e']

/-- What a setting holds: one value or a list of them. -/
inductive Setting
  | one (value : Scalar)
  | many (values : List Scalar)
  deriving Repr

/-- A setting. Two values or more stand on a line each. -/
def Setting.write : Setting → List Char
  | one value => value.write
  | many [] => ['[', ']']
  | many [value] => '[' :: value.write ++ [']']
  | many values =>
    ['[', '\n'] ++ values.flatMap (fun v => [' ', ' ', ' ', ' '] ++ v.write ++ [',', '\n']) ++ [']']

/-- Settings under a header. -/
structure Section where
  path : List String
  settings : List (String × Setting)
  deriving Repr

/-- A section. -/
def Section.write (s : Section) : List Char :=
  header s.path ++ s.settings.flatMap fun (name, setting) =>
    key name ++ [' ', '=', ' '] ++ setting.write ++ ['\n']

/-- A settings file. -/
def write (sections : List Section) : String :=
  String.ofList (List.intercalate ['\n'] (sections.map Section.write))

end Triage.Toml
