/-
Reading JSON.

The reader takes exactly the grammar of JSON: no comments, no trailing commas, no bare control
characters in strings, no leading zeros. Blanks are the four that JSON knows. A value must fill the
whole text.
-/
import Triage.Json.Basic
namespace Triage.Json

/-- The blanks that may stand between tokens. -/
def isBlank (c : Char) : Bool := c == ' ' || c == '\n' || c == '\t' || c == '\r'

/-- Skips blanks. -/
def skipBlanks (cs : List Char) : List Char := cs.dropWhile isBlank

/-! ### Strings -/

/-- What one character or escape of a string contributes: a character, or half of a surrogate
pair. -/
inductive Piece
  | char (c : Char)
  | half (n : Nat)
  deriving Repr, DecidableEq

/-- The value of a hexadecimal digit. -/
def hexDigit? (c : Char) : Option Nat :=
  if c.isDigit then some (c.toNat - 48)
  else if 'a' ≤ c && c ≤ 'f' then some (c.toNat - 87)
  else if 'A' ≤ c && c ≤ 'F' then some (c.toNat - 55)
  else none

/-- What four hexadecimal digits after `\u` contribute. -/
def hexPiece? (a b c d : Char) : Option Piece := do
  let n := (← hexDigit? a) * 4096 + (← hexDigit? b) * 256 + (← hexDigit? c) * 16 + (← hexDigit? d)
  if h : n.isValidChar then some (.char (Char.ofNatAux n h)) else some (.half n)

/-- The character that a one-letter escape stands for. -/
def shortEscape? (c : Char) : Option Char :=
  match c with
  | '"' => some '"'
  | '\\' => some '\\'
  | '/' => some '/'
  | 'b' => some '\x08'
  | 'f' => some '\x0c'
  | 'n' => some '\n'
  | 'r' => some '\r'
  | 't' => some '\t'
  | _ => none

/-- The pieces up to the closing quote, the last one first, and what follows it. -/
def pieces (seen : List Piece) : List Char → Option (List Piece × List Char)
  | [] => none
  | '"' :: rest => some (seen, rest)
  | '\\' :: 'u' :: a :: b :: c :: d :: rest =>
    match hexPiece? a b c d with
    | some piece => pieces (piece :: seen) rest
    | none => none
  | '\\' :: c :: rest =>
    match shortEscape? c with
    | some c => pieces (.char c :: seen) rest
    | none => none
  | c :: rest => if c.toNat < 0x20 then none else pieces (.char c :: seen) rest

/-- Joins pieces that are given the last one first; a surrogate pair makes one character. -/
def join (joined : List Char) : List Piece → Option (List Char)
  | [] => some joined
  | .char c :: rest => join (c :: joined) rest
  | .half low :: .half high :: rest =>
    if 0xDC00 ≤ low && low ≤ 0xDFFF && 0xD800 ≤ high && high ≤ 0xDBFF then
      join (Char.ofNat ((high - 0xD800) * 1024 + (low - 0xDC00) + 0x10000) :: joined) rest
    else none
  | .half _ :: _ => none

/-- A string after its opening quote. -/
def readString (cs : List Char) : Option (Option String × List Char) :=
  (pieces [] cs).map fun (seen, rest) => ((join [] seen).map String.ofList, rest)

/-! ### Numbers -/

/-- At least one digit. -/
def someDigits (cs : List Char) : Option (List Char × List Char) :=
  let digits := cs.takeWhile Char.isDigit
  if digits.isEmpty then none else some (digits, cs.drop digits.length)

/-- The digits before the point, without leading zeros. -/
def wholePart : List Char → Option (List Char × List Char)
  | '0' :: rest => some (['0'], rest)
  | cs => someDigits cs

/-- A point and digits, if there is a point. -/
def fractionPart : List Char → Option (List Char × List Char)
  | '.' :: rest => (someDigits rest).map fun (digits, rest) => ('.' :: digits, rest)
  | cs => some ([], cs)

/-- An exponent, if there is one. -/
def exponentPart : List Char → Option (List Char × List Char)
  | [] => some ([], [])
  | e :: rest =>
    if e == 'e' || e == 'E' then
      match rest with
      | s :: more =>
        if s == '+' || s == '-' then
          (someDigits more).map fun (digits, rest) => (e :: s :: digits, rest)
        else (someDigits (s :: more)).map fun (digits, rest) => (e :: digits, rest)
      | [] => none
    else some ([], e :: rest)

/-- A number. A digit may not follow a leading zero. -/
def readNumber (cs : List Char) : Option (Json × List Char) := do
  let (sign, cs) := match cs with
    | '-' :: rest => (['-'], rest)
    | cs => ([], cs)
  let (whole, cs) ← wholePart cs
  if cs.head?.any Char.isDigit then none
  else do
    let (fraction, cs) ← fractionPart cs
    let (exponent, cs) ← exponentPart cs
    some (.number (String.ofList (sign ++ whole ++ fraction ++ exponent)), cs)

/-! ### Values -/

mutual

/-- A value and what follows it. -/
def readValue : Nat → List Char → Option (Json × List Char)
  | 0, _ => none
  | fuel + 1, cs =>
    match skipBlanks cs with
    | 'n' :: 'u' :: 'l' :: 'l' :: rest => some (.null, rest)
    | 't' :: 'r' :: 'u' :: 'e' :: rest => some (.bool true, rest)
    | 'f' :: 'a' :: 'l' :: 's' :: 'e' :: rest => some (.bool false, rest)
    | '"' :: rest => (readString rest).map fun (content, rest) => (.string content, rest)
    | '[' :: rest =>
      match skipBlanks rest with
      | ']' :: rest => some (.array [], rest)
      | rest => readItems fuel [] rest
    | '\x7b' :: rest =>
      match skipBlanks rest with
      | '\x7d' :: rest => some (.object [], rest)
      | rest => readMembers fuel [] rest
    | cs => readNumber cs

/-- The items of an array up to its end; those read so far are given the last one first. -/
def readItems : Nat → List Json → List Char → Option (Json × List Char)
  | 0, _, _ => none
  | fuel + 1, items, cs =>
    match readValue fuel cs with
    | none => none
    | some (item, rest) =>
      match skipBlanks rest with
      | ',' :: rest => readItems fuel (item :: items) rest
      | ']' :: rest => some (.array (item :: items).reverse, rest)
      | _ => none

/-- The members of an object up to its end; those read so far are given the last one first. -/
def readMembers : Nat → List (Option String × Json) → List Char → Option (Json × List Char)
  | 0, _, _ => none
  | fuel + 1, members, cs =>
    match skipBlanks cs with
    | '"' :: rest =>
      match readString rest with
      | none => none
      | some (name, rest) =>
        match skipBlanks rest with
        | ':' :: rest =>
          match readValue fuel rest with
          | none => none
          | some (value, rest) =>
            match skipBlanks rest with
            | ',' :: rest => readMembers fuel ((name, value) :: members) rest
            | '\x7d' :: rest => some (.object ((name, value) :: members).reverse, rest)
            | _ => none
        | _ => none
    | _ => none

end

/-- Reads a text that holds one value and blanks around it. Every step of the reader takes a
character, so twice the length of the text bounds their number. -/
def read? (s : String) : Option Json :=
  let cs := s.toList
  match readValue (2 * cs.length + 2) cs with
  | some (json, rest) => if (skipBlanks rest).isEmpty then some json else none
  | none => none

end Triage.Json
