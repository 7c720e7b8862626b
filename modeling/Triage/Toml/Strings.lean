/-
Reading strings of settings files.

There are four kinds. Single quotes hold text as it stands, double quotes text with escapes. Three
quotes in place of one allow lines: a line break right after the opening quotes does not count, and
a run of one or two quotes is content. At the end of such a string up to two quotes may precede
the closing three.
-/
import Triage.Json.Reading
namespace Triage.Toml

/-! ### Characters -/

/-- Blanks within a line. -/
def isSpace (c : Char) : Bool := c == ' ' || c == '\t'

/-- Characters that may stand in comments and strings: all but controls other than the tab. -/
def isText (c : Char) : Bool := c == '\t' || (0x20 ≤ c.toNat && c.toNat != 0x7F)

/-- What follows a line break. -/
def afterBreak? : List Char → Option (List Char)
  | '\n' :: rest => some rest
  | '\r' :: '\n' :: rest => some rest
  | _ => none

/-- Drops one line break. -/
def dropBreak (cs : List Char) : List Char := (afterBreak? cs).getD cs

/-- Whether a line ends here, but for blanks. -/
def endsLine (cs : List Char) : Bool := (afterBreak? (cs.dropWhile isSpace)).isSome

/-! ### Escapes -/

/-- The character that a one-letter escape stands for. -/
def shortEscape? (c : Char) : Option Char :=
  match c with
  | 'b' => some '\x08'
  | 't' => some '\t'
  | 'n' => some '\n'
  | 'f' => some '\x0c'
  | 'r' => some '\r'
  | '"' => some '"'
  | '\\' => some '\\'
  | _ => none

/-- The number that hexadecimal digits stand for. -/
def hexValue? (digits : List Char) : Option Nat :=
  digits.foldlM (fun n c => (Json.hexDigit? c).map (n * 16 + ·)) 0

/-- The character with a code point in hexadecimal. -/
def codePoint? (digits : List Char) : Option Char := do
  let n ← hexValue? digits
  if h : n.isValidChar then some (Char.ofNatAux n h) else none

/-! ### Short strings -/

/-- A string in double quotes, given what was read of it with the last character first, and what
follows it. -/
def readBasic (seen : List Char) : List Char → Option (String × List Char)
  | [] => none
  | '"' :: rest => some (String.ofList seen.reverse, rest)
  | '\\' :: 'u' :: a :: b :: c :: d :: rest =>
    match codePoint? [a, b, c, d] with
    | some x => readBasic (x :: seen) rest
    | none => none
  | '\\' :: 'U' :: a :: b :: c :: d :: e :: f :: g :: h :: rest =>
    match codePoint? [a, b, c, d, e, f, g, h] with
    | some x => readBasic (x :: seen) rest
    | none => none
  | '\\' :: c :: rest =>
    match shortEscape? c with
    | some x => readBasic (x :: seen) rest
    | none => none
  | c :: rest => if isText c then readBasic (c :: seen) rest else none

/-- A string in single quotes, likewise. -/
def readLiteral (seen : List Char) : List Char → Option (String × List Char)
  | [] => none
  | '\'' :: rest => some (String.ofList seen.reverse, rest)
  | c :: rest => if isText c then readLiteral (c :: seen) rest else none

/-! ### Strings of lines -/

/-- The end of a string after three of the closing quotes. Up to two more come before them. -/
def closeLong (quote : Char) (seen : List Char) (rest : List Char) : String × List Char :=
  let extra := (rest.takeWhile (· == quote)).take 2
  (String.ofList (extra.reverse ++ seen).reverse, rest.drop extra.length)

/-- A string in three double quotes, given what was read of it with the last character first, and
what follows it. A backslash at the end of a line skips to the next character that is not blank;
`skip` tells whether that goes on. -/
def readLongBasic (skip : Bool) (seen : List Char) : List Char → Option (String × List Char)
  | [] => none
  | '"' :: '"' :: '"' :: rest => some (closeLong '"' seen rest)
  | '\\' :: 'u' :: a :: b :: c :: d :: rest =>
    match codePoint? [a, b, c, d] with
    | some x => readLongBasic false (x :: seen) rest
    | none => none
  | '\\' :: 'U' :: a :: b :: c :: d :: e :: f :: g :: h :: rest =>
    match codePoint? [a, b, c, d, e, f, g, h] with
    | some x => readLongBasic false (x :: seen) rest
    | none => none
  | '\\' :: c :: rest =>
    match shortEscape? c with
    | some x => readLongBasic false (x :: seen) rest
    | none => if endsLine (c :: rest) then readLongBasic true seen (c :: rest) else none
  | '\r' :: '\n' :: rest =>
    if skip then readLongBasic true seen rest else readLongBasic false ('\n' :: seen) rest
  | c :: rest =>
    if skip && (isSpace c || c == '\n') then readLongBasic true seen rest
    else if c == '\n' || isText c then readLongBasic false (c :: seen) rest
    else none

/-- A string in three single quotes, likewise. -/
def readLongLiteral (seen : List Char) : List Char → Option (String × List Char)
  | [] => none
  | '\'' :: '\'' :: '\'' :: rest => some (closeLong '\'' seen rest)
  | '\r' :: '\n' :: rest => readLongLiteral ('\n' :: seen) rest
  | c :: rest => if c == '\n' || isText c then readLongLiteral (c :: seen) rest else none

/-! ### All strings -/

/-- A string without line breaks, as values and keys may be. -/
def readShort? : List Char → Option (String × List Char)
  | '"' :: rest => readBasic [] rest
  | '\'' :: rest => readLiteral [] rest
  | _ => none

/-- A string of any kind. -/
def readString? : List Char → Option (String × List Char)
  | '"' :: '"' :: '"' :: rest => readLongBasic false [] (dropBreak rest)
  | '\'' :: '\'' :: '\'' :: rest => readLongLiteral [] (dropBreak rest)
  | cs => readShort? cs

end Triage.Toml
