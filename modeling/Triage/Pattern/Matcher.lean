/-
Searching a text for a pattern.

A pattern is read as a function on sets of positions: from the positions where a match may start
to the positions where it may end. A text of `n` characters has `n + 1` positions, and a set of
them is a list of that many truth values. Sequences compose these functions, choices unite their
results, and a repetition unites them until nothing new is reached. The text holds a match when
some position can be reached from some other.
-/
import Triage.Pattern.Basic
import Triage.Text.Property
namespace Triage.Pattern

open Triage.Text

/-- What surrounds a position: the character before it and the one after it. -/
structure Place where
  before : Option Char
  after : Option Char
  deriving Repr, DecidableEq

/-- The places of a text in order, given the character before it. -/
def places (before : Option Char) : List Char → List Place
  | [] => [⟨before, none⟩]
  | c :: rest => ⟨before, some c⟩ :: places (some c) rest

/-- A set of positions. -/
abbrev Positions := List Bool

namespace Positions

/-- The positions in either set. -/
def union (a b : Positions) : Positions := List.zipWith (· || ·) a b

/-- The positions of the first set that are not in the second. -/
def minus (a b : Positions) : Positions := List.zipWith (fun x y => x && !y) a b

/-- Whether there is a position in the set. -/
def isInhabited (a : Positions) : Bool := a.any id

end Positions

/-- Whether a character belongs to words. -/
def isWordChar (unicode : Bool) (c : Char) : Bool :=
  if c.toNat < 128 then c.isAlphanum || c == '_'
  else unicode && Property.wordChars.contains c.toNat

/-- Whether an assertion holds at a place. -/
def Look.holds (look : Look) (place : Place) : Bool :=
  let word (unicode : Bool) (c : Option Char) : Bool := c.any (isWordChar unicode)
  match look with
  | textStart => place.before == none
  | textEnd => place.after == none
  | lineStart => place.before == none || place.before == some '\n'
  | lineEnd => place.after == none || place.after == some '\n'
  | lineStartCrlf =>
    place.before == none || place.before == some '\n' ||
      (place.before == some '\r' && place.after != some '\n')
  | lineEndCrlf =>
    place.after == none || place.after == some '\r' ||
      (place.after == some '\n' && place.before != some '\r')
  | boundary unicode => word unicode place.before != word unicode place.after
  | notBoundary unicode => word unicode place.before == word unicode place.after
  | wordStart unicode => !word unicode place.before && word unicode place.after
  | wordEnd unicode => word unicode place.before && !word unicode place.after
  | wordStartHalf unicode => !word unicode place.before
  | wordEndHalf unicode => !word unicode place.after

/-- The positions after one character of a set. -/
def takeOne (set : CharSet) : List Place → Positions → Positions
  | place :: places, start :: starts =>
    (start && place.after.any fun c => set.contains c.toNat) :: takeOne set places starts
  | _, _ => []

/-- Applies a function on sets of positions so many times, or until no position is left. -/
def iterate (f : Positions → Positions) : Nat → Positions → Positions
  | 0, s => s
  | n + 1, s => if s.isInhabited then iterate f n (f s) else s

/-- Unites what is reached in up to `n` rounds; each round starts from the positions that the one
before it reached first. -/
def closure (f : Positions → Positions) : Nat → (frontier reached : Positions) → Positions
  | 0, _, reached => reached
  | n + 1, frontier, reached =>
    let next := (f frontier).minus reached
    if next.isInhabited then closure f n next (reached.union next) else reached

mutual

/-- The positions where a match may end, from those where it may start. -/
def Node.ends (text : List Place) : Node → Positions → Positions
  | .empty, s => s
  | .switch, s => s
  | .chars set _, s => false :: (takeOne set text s).dropLast
  | .look assertion, s => List.zipWith (fun place b => b && assertion.holds place) text s
  | .repeated least most node, s =>
    let first := iterate (node.ends text) least s
    let rounds := match most with
      | none => text.length
      | some most => min (most - least) text.length
    closure (node.ends text) rounds first first
  | .group node, s => node.ends text s
  | .sequence nodes, s => Node.endsInTurn text nodes s
  | .choice nodes, s => Node.endsOfAny text nodes s

/-- The ends of matches of several patterns one after the other. -/
def Node.endsInTurn (text : List Place) : List Node → Positions → Positions
  | [], s => s
  | node :: rest, s => Node.endsInTurn text rest (node.ends text s)

/-- The ends of matches of one of several patterns. -/
def Node.endsOfAny (text : List Place) : List Node → Positions → Positions
  | [], s => s.map fun _ => false
  | node :: rest, s => (node.ends text s).union (Node.endsOfAny text rest s)

end

/-- Whether the pattern matches somewhere in the text. -/
def Node.search (node : Node) (s : String) : Bool :=
  let text := places none s.toList
  (node.ends text (text.map fun _ => true)).isInhabited

end Triage.Pattern
