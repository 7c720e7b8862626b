/-
Bracketed character classes.

A class lists characters, ranges, shorthands and further classes between brackets, negated after a
caret. Two classes may be combined with `&&`, `--` and `~~`, which all bind equally and to the left,
and less tightly than listing.
-/
import Triage.Pattern.Lexeme
namespace Triage.Pattern

open Triage.Text

/-- An item of a class: a set, and how deeply its description is nested. -/
structure Listed where
  set : CharSet
  nesting : Nat
  deriving Repr

/-- The items of a class read so far, the last one first. -/
abbrev Listing := List Listed

/-- All items of a listing as one. -/
def Listing.toListed : Listing → Listed
  | [] => ⟨.nothing, 0⟩
  | [item] => item
  | items =>
    ⟨.unions (items.reverse.map (·.set)), 1 + items.foldl (fun n item => max n item.nesting) 0⟩

/-- The operations between two classes. -/
inductive Combination
  | intersection
  | difference
  | symmetricDifference
  deriving Repr, DecidableEq

/-- What is pending while a class is read: an outer listing with the sign of the class inside it,
or the left side of an operation. -/
inductive Pending
  | opened (outer : Listing) (negated : Bool)
  | combined (kind : Combination) (left : Listed)
  deriving Repr

/-- The sets that a name between `[:` and `:]` stands for. -/
def asciiClass? (name : String) : Option (List (Nat × Nat)) :=
  match name with
  | "alnum" => some [(0x30, 0x39), (0x41, 0x5A), (0x61, 0x7A)]
  | "alpha" => some [(0x41, 0x5A), (0x61, 0x7A)]
  | "ascii" => some [(0, 0x7F)]
  | "blank" => some [(0x9, 0x9), (0x20, 0x20)]
  | "cntrl" => some [(0, 0x1F), (0x7F, 0x7F)]
  | "digit" => some [(0x30, 0x39)]
  | "graph" => some [(0x21, 0x7E)]
  | "lower" => some [(0x61, 0x7A)]
  | "print" => some [(0x20, 0x7E)]
  | "punct" => some [(0x21, 0x2F), (0x3A, 0x40), (0x5B, 0x60), (0x7B, 0x7E)]
  | "space" => some [(0x9, 0xD), (0x20, 0x20)]
  | "upper" => some [(0x41, 0x5A)]
  | "word" => some [(0x30, 0x39), (0x41, 0x5A), (0x5F, 0x5F), (0x61, 0x7A)]
  | "xdigit" => some [(0x30, 0x39), (0x41, 0x46), (0x61, 0x66)]
  | _ => none

/-- A named class, from the colon after the bracket on: its ranges, its sign and the rest. -/
def namedClass? (cs : List Char) : Option (List (Nat × Nat) × Bool × List Char) :=
  match cs with
  | ':' :: rest =>
    let (negated, rest) := match rest with
      | '^' :: rest => (true, rest)
      | rest => (false, rest)
    let name := rest.takeWhile (· != ':')
    match rest.drop name.length with
    | ':' :: ']' :: after =>
      (asciiClass? (String.ofList name)).map fun ranges => (ranges, negated, after)
    | _ => none
  | _ => none

/-- Closes a set under case and takes its complement if it is negated. -/
def Settings.signed (s : Settings) (set : CharSet) (negated : Bool) : Except Fault CharSet :=
  if !negated then .ok (s.fold set)
  else if s.unicode then .ok (.compl (s.fold set))
  else .error .beyondAscii

/-- The item for a primitive. Assertions and the dot have no place in a class. -/
def Primitive.listed (s : Settings) : Primitive → Except Fault Listed
  | .literal c _ =>
    if !s.unicode && !isAscii c then .error .beyondAscii else .ok ⟨.single c, 0⟩
  | .shorthand name negated => return ⟨← s.shorthandSet name negated, 0⟩
  | .property set negated => return ⟨← s.propertySet set negated, 0⟩
  | .look _ | .dot => .error .characterClass

/-- A literal or an escape inside a class. -/
def classPrimitive (s : Settings) : Reader Primitive
  | [] => .error .characterClass
  | '\\' :: rest => escape s rest
  | c :: rest => .ok (.literal c false, rest)

/-- One item or a range. A hyphen before the closing bracket or another hyphen makes no range. -/
def classItem (s : Settings) : Reader Listed := fun cs => do
  let (first, rest) ← classPrimitive s cs
  match s.skip rest with
  | [] => .error .characterClass
  | '-' :: after =>
    let next := (s.skip after).head?
    if next == some ']' || next == some '-' then
      .ok (← first.listed s, '-' :: after)
    else
      match s.skip after with
      | [] => .error .characterClass
      | after => do
        let (last, rest) ← classPrimitive s after
        match first, last with
        | .literal a _, .literal b _ =>
          if b < a then .error .characterClass
          else if !s.unicode && !isAscii b then .error .beyondAscii
          else .ok (⟨.ranges [(a.toNat, b.toNat)], 0⟩, rest)
        | _, _ => .error .characterClass
  | rest => .ok (← first.listed s, rest)

/-- Hyphens directly after the opening bracket stand for themselves. -/
def leadingHyphens (s : Settings) : Nat → Listing → List Char → Listing × List Char
  | 0, listing, cs => (listing, cs)
  | fuel + 1, listing, '-' :: rest =>
    leadingHyphens s fuel (⟨.single '-', 0⟩ :: listing) (s.skip rest)
  | _ + 1, listing, cs => (listing, cs)

/-- The start of a class after its bracket: a caret, hyphens, and a closing bracket that stands for
itself if nothing was listed before. -/
def classStart (s : Settings) : Reader (Bool × Listing) := fun cs =>
  let cs := s.skip cs
  let (negated, cs) := match cs with
    | '^' :: rest => (true, s.skip rest)
    | cs => (false, cs)
  let (listing, cs) := leadingHyphens s cs.length [] cs
  match listing, cs with
  | _, [] => .error .characterClass
  | [], ']' :: rest =>
    match s.skip rest with
    | [] => .error .characterClass
    | rest => .ok ((negated, [⟨.single ']', 0⟩]), rest)
  | listing, cs => .ok ((negated, listing), cs)

/-- Completes an operation whose right side is known. -/
def Settings.combine (s : Settings) (kind : Combination) (left right : Listed) : Listed :=
  let a := s.fold left.set
  let b := s.fold right.set
  let set := match kind with
    | .intersection => CharSet.inter a b
    | .difference => .diff a b
    | .symmetricDifference => .symmDiff a b
  ⟨set, 1 + max left.nesting right.nesting⟩

/-- The operand that a listing completes, and what is still pending. -/
def Settings.complete (s : Settings) (listing : Listing) : List Pending → Listed × List Pending
  | .combined kind left :: pending => (s.combine kind left listing.toListed, pending)
  | pending => (listing.toListed, pending)

/-- Reads a class from inside its first bracket to its end. -/
def classBody (s : Settings) : Nat → List Pending → Listing → Reader Listed
  | 0, _, _, _ => .error .characterClass
  | fuel + 1, pending, listing, cs => do
    match s.skip cs with
    | [] => .error .characterClass
    | '[' :: rest =>
      match namedClass? rest with
      | some (ranges, negated, rest) =>
        let set ← s.signed (.ranges ranges) negated
        classBody s fuel pending (⟨set, 0⟩ :: listing) rest
      | none => do
        let ((negated, inner), rest) ← classStart s rest
        classBody s fuel (.opened listing negated :: pending) inner rest
    | ']' :: rest =>
      match s.complete listing pending with
      | (item, .opened outer negated :: pending) => do
        let set ← s.signed item.set negated
        let closed : Listed := ⟨set, item.nesting + 1⟩
        if pending.isEmpty then .ok (closed, rest)
        else classBody s fuel pending (closed :: outer) rest
      | _ => .error .characterClass
    | '&' :: '&' :: rest =>
      let (left, pending) := s.complete listing pending
      classBody s fuel (.combined .intersection left :: pending) [] rest
    | '-' :: '-' :: rest =>
      let (left, pending) := s.complete listing pending
      classBody s fuel (.combined .difference left :: pending) [] rest
    | '~' :: '~' :: rest =>
      let (left, pending) := s.complete listing pending
      classBody s fuel (.combined .symmetricDifference left :: pending) [] rest
    | cs => do
      let (item, rest) ← classItem s cs
      classBody s fuel pending (item :: listing) rest

/-- Reads a class from after its opening bracket on. -/
def characterClass (s : Settings) : Reader Node := fun cs => do
  let ((negated, listing), rest) ← classStart s cs
  let (item, rest) ← classBody s (rest.length + 1) [.opened [] negated] listing rest
  .ok (.chars item.set item.nesting, rest)

end Triage.Pattern
