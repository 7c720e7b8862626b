/-
Reading settings files.

A file holds a header or an entry on each line, with blank lines and comments between them. A value
may extend over several lines within the brackets of an array or the quotes of a long string, but
not within braces. Brackets and braces nest, and dotted keys have parts, up to a limit.
-/
import Triage.Toml.Document
import Triage.Toml.Numbers
import Triage.Toml.Strings
namespace Triage.Toml

/-- How deep values nest at most. -/
def deepest : Nat := 79

/-- How many parts a dotted key has at most. -/
def longestPath : Nat := 79

/-! ### Blanks and comments -/

/-- Skips blanks within a line. -/
def skipSpaces (cs : List Char) : List Char := cs.dropWhile isSpace

/-- Skips a comment. -/
def skipComment : List Char → List Char
  | '#' :: rest => rest.dropWhile isText
  | cs => cs

/-- The end of a line: blanks, a comment, and a line break or the end of the file. -/
def finishLine? (cs : List Char) : Option (List Char) :=
  match skipComment (skipSpaces cs) with
  | [] => some []
  | cs => afterBreak? cs

/-- Skips blanks, line breaks, and comments that a line break ends. Each round takes a line, so the
length of the text bounds their number. -/
def skipLines : Nat → List Char → List Char
  | 0, cs => cs
  | fuel + 1, cs =>
    let cs := skipSpaces cs
    match afterBreak? (skipComment cs) with
    | some rest => skipLines fuel rest
    | none => cs

/-- Skips blanks, line breaks and comments. -/
def skipGaps (cs : List Char) : List Char := skipLines cs.length cs

/-! ### Keys -/

/-- One part of a key. -/
def readKey (cs : List Char) : Option (String × List Char) :=
  match readShort? cs with
  | some found => some found
  | none =>
    let name := cs.takeWhile isBareKeyChar
    if name.isEmpty then none else some (String.ofList name, cs.drop name.length)

/-- The parts of a dotted key, with blanks around them. -/
def readParts : Nat → List Char → Option (List String × List Char)
  | 0, _ => none
  | fuel + 1, cs => do
    let (key, rest) ← readKey (skipSpaces cs)
    match skipSpaces rest with
    | '.' :: rest => do
      let (path, rest) ← readParts fuel rest
      some (key :: path, rest)
    | rest => some ([key], rest)

/-- A dotted key. -/
def readPath (cs : List Char) : Option (List String × List Char) := readParts longestPath cs

/-- A dotted key, an equals sign and a value, as `read` reads it. -/
def readPair (read : List Char → Option (Toml × List Char)) (cs : List Char) :
    Option ((List String × Toml) × List Char) := do
  let (path, rest) ← readPath cs
  match rest with
  | '=' :: rest =>
    let (value, rest) ← read (skipSpaces rest)
    some ((path, value), rest)
  | _ => none

/-! ### Values -/

/-- The items of an array up to its end, where `read` reads one; those read so far are given the
last one first. Every item takes a character, so the length of the text bounds their number. -/
def readItems (read : List Char → Option (Toml × List Char)) :
    Nat → List Toml → List Char → Option (Toml × List Char)
  | 0, _, _ => none
  | fuel + 1, items, cs =>
    match skipGaps cs with
    | ']' :: rest => some (.array items.reverse, rest)
    | cs => do
      let (item, rest) ← read cs
      match skipGaps rest with
      | ',' :: rest => readItems read fuel (item :: items) rest
      | ']' :: rest => some (.array (item :: items).reverse, rest)
      | _ => none

/-- The entries of a table in braces up to its end, likewise. There is at least one. -/
def readPairs (read : List Char → Option (Toml × List Char)) :
    Nat → List (List String × Toml) → List Char → Option (Toml × List Char)
  | 0, _, _ => none
  | fuel + 1, pairs, cs => do
    let (pair, rest) ← readPair read cs
    match skipSpaces rest with
    | ',' :: rest => readPairs read fuel (pair :: pairs) rest
    | '\x7d' :: rest => do
      let table ← ofPairs (pair :: pairs).reverse
      some (table, rest)
    | _ => none

/-- A value without parts, and what follows it. -/
def readPlain (cs : List Char) : Option (Toml × List Char) :=
  match cs with
  | '"' :: _ | '\'' :: _ =>
    (readString? cs).map fun (value, rest) => (.scalar (.string value), rest)
  | cs => readWord cs

/-- A value that nests no deeper than a limit, and what follows it. -/
def readValue : Nat → List Char → Option (Toml × List Char)
  | 0, cs =>
    match cs with
    | '[' :: _ => none
    | '\x7b' :: _ => none
    | cs => readPlain cs
  | limit + 1, cs =>
    match cs with
    | '[' :: rest => readItems (readValue limit) (rest.length + 1) [] rest
    | '\x7b' :: rest =>
      match skipSpaces rest with
      | '\x7d' :: rest => some (.table .closed [], rest)
      | rest => readPairs (readValue limit) (rest.length + 1) [] rest
    | cs => readPlain cs

/-! ### Files -/

/-- One header or entry with the end of its line. -/
def readLine (cs : List Char) : Option (Line × List Char) :=
  match cs with
  | '[' :: '[' :: rest => do
    let (path, rest) ← readPath rest
    match rest with
    | ']' :: ']' :: rest => (finishLine? rest).map (.element path, ·)
    | _ => none
  | '[' :: rest => do
    let (path, rest) ← readPath rest
    match rest with
    | ']' :: rest => (finishLine? rest).map (.header path, ·)
    | _ => none
  | cs => do
    let ((path, value), rest) ← readPair (readValue deepest) cs
    (finishLine? rest).map (.entry path value, ·)

/-- The lines of a file. Every line takes a character, so the length of the text bounds their
number. -/
def readLines : Nat → List Char → Option (List Line)
  | 0, _ => none
  | fuel + 1, cs =>
    match skipGaps cs with
    | [] => some []
    | '#' :: rest => if (rest.dropWhile isText).isEmpty then some [] else none
    | cs => do
      let (line, rest) ← readLine cs
      let lines ← readLines fuel rest
      some (line :: lines)

/-- Drops the mark that some editors put in front of a text. -/
def dropMark : List Char → List Char
  | '\ufeff' :: rest => rest
  | cs => cs

/-- Reads a settings file. -/
def read? (text : String) : Option Toml :=
  let cs := dropMark text.toList
  (readLines (cs.length + 1) cs).bind ofLines

end Triage.Toml
