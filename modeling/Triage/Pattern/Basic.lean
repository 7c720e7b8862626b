/-
Patterns: what a search over a field can ask for.

A pattern is a tree of character sets, assertions about the position, sequences, alternatives and
repetitions. All settings that may be switched inside a pattern, such as case, are resolved into
the tree when it is read, so that the tree has one meaning.
-/
import Triage.Text.CharSet
namespace Triage.Pattern

open Triage.Text

/-- An assertion about a position in the text, which takes no characters. For assertions about
words, the argument tells whether all letters count or those of ASCII only. -/
inductive Look
  | textStart
  | textEnd
  | lineStart
  | lineEnd
  | lineStartCrlf
  | lineEndCrlf
  | boundary (unicode : Bool)
  | notBoundary (unicode : Bool)
  | wordStart (unicode : Bool)
  | wordEnd (unicode : Bool)
  | wordStartHalf (unicode : Bool)
  | wordEndHalf (unicode : Bool)
  deriving Repr, DecidableEq

/-- A pattern. -/
inductive Node
  /-- Nothing, in an alternative without content. -/
  | empty
  /-- The place where settings were switched; it takes nothing and cannot be repeated. -/
  | switch
  /-- One character of a set. The number tells how deeply brackets are nested in its description. -/
  | chars (set : CharSet) (nesting : Nat)
  | look (assertion : Look)
  | repeated (least : Nat) (most : Option Nat) (node : Node)
  | group (node : Node)
  | sequence (nodes : List Node)
  | choice (nodes : List Node)
  deriving Repr

/-- Why a text is not a pattern. -/
inductive Fault
  | unclosedGroup
  | unopenedGroup
  | lookAround
  | groupName
  | settings
  | nothingToRepeat
  | repetition
  | escape
  | backReference
  | characterClass
  | unknownProperty
  | beyondAscii
  | tooDeep
  | tooLarge
  deriving Repr, DecidableEq

/-- The wording of a fault. -/
def Fault.message : Fault → String
  | unclosedGroup => "unclosed group"
  | unopenedGroup => "unopened group"
  | lookAround => "look-around is not supported"
  | groupName => "invalid group name"
  | settings => "invalid flags"
  | nothingToRepeat => "repetition operator missing expression"
  | repetition => "invalid repetition"
  | escape => "invalid escape sequence"
  | backReference => "backreferences are not supported"
  | characterClass => "invalid character class"
  | unknownProperty => "unknown character property"
  | beyondAscii => "a part restricted to ASCII reaches beyond it"
  | tooDeep => "nested too deeply"
  | tooLarge => "compiled size exceeds the limit"

/-! ### Limits -/

/-- How many levels of brackets, groups, sequences, choices and repetitions may be nested. -/
def nestingLimit : Nat := 250

/-- How large the automaton of a pattern may become, in bytes. -/
def sizeLimit : Nat := 10 * 1024 * 1024

mutual

/-- How deeply a pattern is nested. -/
def Node.nesting : Node → Nat
  | .empty | .switch | .look _ => 0
  | .chars _ nesting => nesting
  | .repeated _ _ node => node.nesting + 1
  | .group node => node.nesting + 1
  | .sequence nodes => Node.deepest nodes + 1
  | .choice nodes => Node.deepest nodes + 1

/-- The deepest nesting among several patterns. -/
def Node.deepest : List Node → Nat
  | [] => 0
  | node :: rest => max node.nesting (Node.deepest rest)

end

/-- An estimate of how many ranges it takes to list a set. -/
def rangeEstimate : CharSet → Nat
  | .ranges list => list.length
  | .category c => if c == .lo then 500 else if c == .lu || c == .ll || c == .cn then 650 else 60
  | .script _ | .usedWith _ => 20
  | .anyCase set => 2 * rangeEstimate set
  | .anyAsciiCase set => 2 * rangeEstimate set
  | .union a b | .inter a b | .diff a b | .symmDiff a b => rangeEstimate a + rangeEstimate b
  | .compl set => rangeEstimate set + 1

mutual

/-- An estimate of the size of a pattern's automaton in bytes: each part takes some states, and a
repetition takes as many copies of its part as its bounds ask for. -/
def Node.sizeEstimate : Node → Nat
  | .empty | .switch => 32
  | .look _ => 32
  | .chars set _ =>
    let count := rangeEstimate set
    if count ≤ 4 then 48 else 20 * count
  | .repeated least most node =>
    let size := node.sizeEstimate
    match most with
    | none => (least + 1) * size + 64
    | some most => least * size + (most - least) * (size + 40)
  | .group node => node.sizeEstimate + 64
  | .sequence nodes => Node.totalSize nodes
  | .choice nodes => Node.totalSize nodes + 40

/-- The sum of the size estimates of several patterns. -/
def Node.totalSize : List Node → Nat
  | [] => 0
  | node :: rest => node.sizeEstimate + Node.totalSize rest

end

end Triage.Pattern
