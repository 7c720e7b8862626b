/-
The smallest parts of pattern text: settings, escapes and what they stand for.

Every reader takes the text from its position on and returns what follows. In verbose text, blanks
and comments between parts are skipped; a comment reaches from a number sign to the end of the line.
-/
import Triage.Pattern.Basic
import Triage.Text.Blank
import Triage.Text.Property
import Triage.Text.Ascii
namespace Triage.Pattern

open Triage.Text

/-- What may be switched inside a pattern. -/
structure Settings where
  ignoreCase : Bool := true
  multiLine : Bool := false
  dotAll : Bool := false
  swapGreed : Bool := false
  unicode : Bool := true
  crlf : Bool := false
  verbose : Bool := false
  deriving Repr, DecidableEq

/-- A reader of pattern text: the part that it read and the text after it. -/
abbrev Reader (α : Type) := List Char → Except Fault (α × List Char)

/-- Skips blanks and comments. The flag tells that a comment is open. -/
def skipComments : Bool → List Char → List Char
  | _, [] => []
  | true, c :: rest => skipComments (c != '\n') rest
  | false, c :: rest =>
    if isBlank c then skipComments false rest
    else if c == '#' then skipComments true rest
    else c :: rest

/-- Skips what verbose text does not count. -/
def Settings.skip (s : Settings) (cs : List Char) : List Char :=
  if s.verbose then skipComments false cs else cs

/-! ### Numbers -/

/-- The value of a hexadecimal digit. -/
def hexDigit? (c : Char) : Option Nat :=
  if c.isDigit then some (c.toNat - 48)
  else if 'a' ≤ c && c ≤ 'f' then some (c.toNat - 87)
  else if 'A' ≤ c && c ≤ 'F' then some (c.toNat - 55)
  else none

/-- The character with a code point, unless there is none. -/
def charOfCode (n : Nat) : Except Fault Char :=
  if h : n.isValidChar then .ok (Char.ofNatAux n h) else .error .escape

/-- So many hexadecimal digits. -/
def hexDigits (s : Settings) : Nat → Nat → Reader Nat
  | 0, value, cs => .ok (value, cs)
  | count + 1, value, c :: rest =>
    match hexDigit? c with
    | some d => hexDigits s count (value * 16 + d) (s.skip rest)
    | none => .error .escape
  | _ + 1, _, [] => .error .escape

/-- Hexadecimal digits up to a closing brace. -/
def hexBraced (s : Settings) : Nat → (seen : Bool) → (value : Nat) → Reader Nat
  | 0, _, _, _ => .error .escape
  | fuel + 1, seen, value, cs =>
    match cs with
    | [] => .error .escape
    | '\x7d' :: rest => if seen then .ok (value, s.skip rest) else .error .escape
    | c :: rest =>
      match hexDigit? c with
      | some d => hexBraced s fuel true (value * 16 + d) (s.skip rest)
      | none => .error .escape

/-- Decimal digits, with what verbose text skips between them. -/
def decimalDigits (s : Settings) : Nat → (digits : List Char) → List Char → List Char × List Char
  | 0, digits, cs => (digits, cs)
  | _ + 1, digits, [] => (digits, [])
  | fuel + 1, digits, c :: rest =>
    if c.isDigit then decimalDigits s fuel (digits ++ [c]) (s.skip rest) else (digits, c :: rest)

/-- A bound of a repetition, with blanks around it; `none` if there are no digits. -/
def decimal (s : Settings) : Reader (Option Nat) := fun cs =>
  let (digits, rest) := decimalDigits s cs.length [] (trimStart cs)
  let rest := s.skip (trimStart rest)
  if digits.isEmpty then .ok (none, rest)
  else
    let n := digits.foldl (fun n c => n * 10 + (c.toNat - 48)) 0
    if n < UInt32.size then .ok (some n, rest) else .error .repetition

/-! ### Settings -/

/-- One switch of a settings group. -/
inductive Switch
  | negation
  | letter (c : Char)
  deriving Repr, DecidableEq

/-- The switches up to a colon or a closing bracket, which stays in the text. -/
def switches : List Switch → Reader (List Switch)
  | _, [] => .error .settings
  | seen, c :: rest =>
    if c == ':' || c == ')' then
      if seen.getLast? == some .negation then .error .settings else .ok (seen, c :: rest)
    else
      let switch := if c == '-' then Switch.negation else .letter c
      if seen.contains switch then .error .settings
      else if c == '-' || "imsUuRx".toList.contains c then switches (seen ++ [switch]) rest
      else .error .settings

/-- The settings after one letter was switched. -/
def Settings.set (s : Settings) (on : Bool) : Char → Settings
  | 'i' => { s with ignoreCase := on }
  | 'm' => { s with multiLine := on }
  | 's' => { s with dotAll := on }
  | 'U' => { s with swapGreed := on }
  | 'u' => { s with unicode := on }
  | 'R' => { s with crlf := on }
  | 'x' => { s with verbose := on }
  | _ => s

/-- The settings after several switches. Letters after a negation are switched off. -/
def Settings.apply (s : Settings) : (on : Bool) → List Switch → Settings
  | _, [] => s
  | _, .negation :: rest => s.apply false rest
  | on, .letter c :: rest => (s.set on c).apply on rest

/-! ### Primitives -/

/-- The three classes that have a letter of their own. -/
inductive Shorthand
  | digit
  | space
  | word
  deriving Repr, DecidableEq

/-- What a single character or an escape stands for. A literal that was written with two
hexadecimal digits can also mean a byte. -/
inductive Primitive
  | literal (c : Char) (byte : Bool)
  | shorthand (name : Shorthand) (negated : Bool)
  | property (set : CharSet) (negated : Bool)
  | look (assertion : Look)
  | dot

/-- Characters with a meaning in patterns. -/
def isMeta (c : Char) : Bool := "\\.+*?()|[]\x7b\x7d^$#&-~".toList.contains c

/-- Characters that a backslash leaves as they are. -/
def isPlainEscape (c : Char) : Bool :=
  isMeta c || (isAscii c && !c.isAlphanum && c != '<' && c != '>')

/-- The name in braces after `p`, without the closing brace. -/
def bracedName (s : Settings) : Nat → (name : List Char) → Reader (List Char)
  | 0, _, _ => .error .escape
  | fuel + 1, name, cs =>
    match cs with
    | [] => .error .escape
    | '\x7d' :: rest => .ok (name, rest)
    | c :: rest => bracedName s fuel (name ++ [c]) (s.skip rest)

/-- Splits a text at the first occurrence of a mark. -/
def splitAt? (mark : List Char) : List Char → Option (List Char × List Char)
  | [] => none
  | c :: rest =>
    if mark.isPrefixOf (c :: rest) then some ([], (c :: rest).drop mark.length)
    else (splitAt? mark rest).map fun (before, after) => (c :: before, after)

/-- The set that a property in braces names, and whether its complement is meant. -/
def propertySet (name : List Char) : Except Fault (CharSet × Bool) :=
  let found (set : Option CharSet) (negated : Bool) : Except Fault (CharSet × Bool) :=
    match set with
    | some set => .ok (set, negated)
    | none => .error .unknownProperty
  let value (pair : List Char × List Char) : Option CharSet :=
    Property.ofValue? (String.ofList pair.1) (String.ofList pair.2)
  match splitAt? ['!', '='] name with
  | some pair => found (value pair) true
  | none =>
    match splitAt? [':'] name with
    | some pair => found (value pair) false
    | none =>
      match splitAt? ['='] name with
      | some pair => found (value pair) false
      | none => found (Property.ofName? (String.ofList name)) false

/-- A property after `p` or `P`. -/
def property (s : Settings) (negated : Bool) : Reader Primitive := fun cs => do
  match s.skip cs with
  | [] => .error .escape
  | '\x7b' :: rest =>
    let rest := s.skip rest
    let (name, rest) ← bracedName s (rest.length + 1) [] rest
    let (set, flipped) ← propertySet name
    .ok (.property set (negated != flipped), rest)
  | c :: rest =>
    if c == '\\' then .error .escape
    else do
      let (set, _) ← propertySet [c]
      .ok (.property set negated, rest)

/-- A code point after `x`, `u` or `U`: so many digits, or any number in braces. -/
def codePoint (s : Settings) (width : Nat) : Reader Primitive := fun cs => do
  match s.skip cs with
  | [] => .error .escape
  | '\x7b' :: rest =>
    let rest := s.skip rest
    let (value, rest) ← hexBraced s (rest.length + 1) false 0 rest
    .ok (.literal (← charOfCode value) false, rest)
  | cs =>
    let (value, rest) ← hexDigits s width 0 cs
    .ok (.literal (← charOfCode value) (width == 2), rest)

/-- The characters of a name in braces after `b`. -/
def boundaryName (s : Settings) : Nat → (name : List Char) → List Char → List Char × List Char
  | 0, name, cs => (name, cs)
  | _ + 1, name, [] => (name, [])
  | fuel + 1, name, c :: rest =>
    if c.isAlpha || c == '-' then boundaryName s fuel (name ++ [c]) (s.skip rest)
    else (name, c :: rest)

/-- The assertion after `b`: a boundary of words, or the one named in braces. Braces that do not
start with a letter belong to a repetition instead. -/
def boundary (s : Settings) : Reader Primitive
  | '\x7b' :: rest =>
    match s.skip rest with
    | [] => .error .escape
    | c :: more =>
      if !(c.isAlpha || c == '-') then
        .ok (.look (.boundary s.unicode), '\x7b' :: rest)
      else
        match boundaryName s (more.length + 1) [] (c :: more) with
        | (name, '\x7d' :: rest) =>
          match String.ofList name with
          | "start" => .ok (.look (.wordStart s.unicode), rest)
          | "end" => .ok (.look (.wordEnd s.unicode), rest)
          | "start-half" => .ok (.look (.wordStartHalf s.unicode), rest)
          | "end-half" => .ok (.look (.wordEndHalf s.unicode), rest)
          | _ => .error .escape
        | _ => .error .escape
  | cs => .ok (.look (.boundary s.unicode), cs)

/-- What an escape stands for, from the character after the backslash on. -/
def escape (s : Settings) : Reader Primitive
  | [] => .error .escape
  | c :: rest =>
    if c.isDigit then .error .backReference
    else if c == 'x' then codePoint s 2 rest
    else if c == 'u' then codePoint s 4 rest
    else if c == 'U' then codePoint s 8 rest
    else if c == 'p' then property s false rest
    else if c == 'P' then property s true rest
    else if isPlainEscape c then .ok (.literal c false, rest)
    else
      match c with
      | 'd' => .ok (.shorthand .digit false, rest)
      | 'D' => .ok (.shorthand .digit true, rest)
      | 's' => .ok (.shorthand .space false, rest)
      | 'S' => .ok (.shorthand .space true, rest)
      | 'w' => .ok (.shorthand .word false, rest)
      | 'W' => .ok (.shorthand .word true, rest)
      | 'a' => .ok (.literal '\x07' false, rest)
      | 'f' => .ok (.literal '\x0c' false, rest)
      | 't' => .ok (.literal '\t' false, rest)
      | 'n' => .ok (.literal '\n' false, rest)
      | 'r' => .ok (.literal '\r' false, rest)
      | 'v' => .ok (.literal '\x0b' false, rest)
      | 'A' => .ok (.look .textStart, rest)
      | 'z' => .ok (.look .textEnd, rest)
      | 'b' => boundary s rest
      | 'B' => .ok (.look (.notBoundary s.unicode), rest)
      | '<' => .ok (.look (.wordStart s.unicode), rest)
      | '>' => .ok (.look (.wordEnd s.unicode), rest)
      | _ => .error .escape

/-! ### What primitives match -/

/-- The set closed under case, if case is ignored. -/
def Settings.fold (s : Settings) (set : CharSet) : CharSet :=
  if !s.ignoreCase then set
  else if s.unicode then .anyCase set
  else .anyAsciiCase set

/-- The set of one character and those that are the same to the settings. -/
def Settings.singleSet (s : Settings) (c : Char) : CharSet :=
  if !s.ignoreCase then .single c
  else
    let orbit := if s.unicode then Folding.orbit c.toNat else Folding.asciiOrbit c.toNat
    .ranges (orbit.map fun n => (n, n))

/-- The class of a shorthand. Without Unicode it is one of ASCII, whose complement would reach
beyond ASCII. -/
def Settings.shorthandSet (s : Settings) (name : Shorthand) (negated : Bool) :
    Except Fault CharSet :=
  if s.unicode then
    let set := match name with
      | .digit => Property.decimalDigits
      | .space => Property.whiteSpace
      | .word => Property.wordChars
    .ok (if negated then .compl set else set)
  else if negated then .error .beyondAscii
  else
    .ok <| .ranges <| match name with
      | .digit => [(0x30, 0x39)]
      | .space => [(0x9, 0xD), (0x20, 0x20)]
      | .word => [(0x30, 0x39), (0x41, 0x5A), (0x5F, 0x5F), (0x61, 0x7A)]

/-- The set of a property, closed under case before its complement is taken. -/
def Settings.propertySet (s : Settings) (set : CharSet) (negated : Bool) :
    Except Fault CharSet :=
  if s.unicode then .ok (if negated then .compl (s.fold set) else s.fold set)
  else .error .beyondAscii

/-- The part of a pattern that a primitive stands for. -/
def Primitive.node (s : Settings) : Primitive → Except Fault Node
  | .literal c byte =>
    if !s.unicode && byte && !isAscii c then .error .beyondAscii
    else .ok (.chars (s.singleSet c) 0)
  | .shorthand name negated => return .chars (← s.shorthandSet name negated) 0
  | .property set negated => return .chars (← s.propertySet set negated) 0
  | .look assertion => .ok (.look assertion)
  | .dot =>
    if !s.unicode then .error .beyondAscii
    else if s.dotAll then .ok (.chars .everything 0)
    else if s.crlf then .ok (.chars (.compl (.ranges [(0xA, 0xA), (0xD, 0xD)])) 0)
    else .ok (.chars (.compl (.ranges [(0xA, 0xA)])) 0)

end Triage.Pattern
