/-
Reading patterns.

The text is read from left to right with a stack of the groups that are open. Settings hold to the
end of the group in which they are switched. A repetition takes the part directly before it; bounds
in braces must be whole numbers in order. Groups may have names, each of them once.
-/
import Triage.Pattern.Bracket
namespace Triage.Pattern

open Triage.Text

/-- A group under way: the settings around it, its finished alternatives and the parts of the
current one, both the last one first. -/
structure Level where
  settings : Settings
  finished : List Node := []
  parts : List Node := []

/-- The parts of an alternative as one pattern. -/
def Level.alternative (level : Level) : Node :=
  match level.parts with
  | [] => .empty
  | [node] => node
  | parts => .sequence parts.reverse

/-- The alternatives of a group as one pattern. -/
def Level.close (level : Level) : Node :=
  match level.finished with
  | [] => level.alternative
  | finished => .choice (finished.reverse ++ [level.alternative])

/-- The level with one part more. -/
def Level.push (level : Level) (node : Node) : Level :=
  { level with parts := node :: level.parts }

/-- What is known while a pattern is read: the settings in force, the innermost group, the groups
around it, and the group names seen so far. -/
structure State where
  settings : Settings
  level : Level
  outer : List Level
  names : List String

/-- Takes the last part off for a repetition. -/
def Level.takeLast (level : Level) : Except Fault (Node × Level) :=
  match level.parts with
  | [] | .empty :: _ | .switch :: _ => .error .nothingToRepeat
  | node :: parts => .ok (node, { level with parts })

/-- Repeats the last part. -/
def State.repeatLast (state : State) (least : Nat) (most : Option Nat) : Except Fault State := do
  let (node, level) ← state.level.takeLast
  .ok { state with level := level.push (.repeated least most node) }

/-- Skips the mark of a reluctant repetition, which finds no other matches. -/
def skipReluctant : List Char → List Char
  | '?' :: rest => rest
  | cs => cs

/-- The bounds of a repetition, from after the opening brace on. -/
def bounds (s : Settings) : Reader (Nat × Option Nat) := fun cs => do
  match s.skip cs with
  | [] => .error .repetition
  | cs =>
    let (least, cs) ← decimal s cs
    match least, cs with
    | some least, '\x7d' :: rest => .ok ((least, some least), rest)
    | some least, ',' :: rest =>
      match s.skip rest with
      | [] => .error .repetition
      | '\x7d' :: rest => .ok ((least, none), rest)
      | rest => do
        let (most, rest) ← decimal s rest
        match most, rest with
        | some most, '\x7d' :: rest =>
          if most < least then .error .repetition else .ok ((least, some most), rest)
        | _, _ => .error .repetition
    | _, _ => .error .repetition

/-- Letters that may start a group's name. -/
def isNameStart (c : Char) : Bool := c == '_' || Property.alphabetic.contains c.toNat

/-- Characters that may follow in a group's name. -/
def isNameChar (c : Char) : Bool :=
  c == '_' || c == '.' || c == '[' || c == ']' ||
    (CharSet.union Property.alphabetic (.categories [.nd, .nl, .no])).contains c.toNat

/-- The name of a group up to the closing angle bracket. -/
def groupName : Reader String := fun cs =>
  let name := cs.takeWhile (· != '>')
  match name, cs.drop name.length with
  | first :: more, _ :: rest =>
    if isNameStart first && more.all isNameChar then .ok (String.ofList name, rest)
    else .error .groupName
  | _, _ => .error .groupName

namespace State

/-- Opens a group whose content has the given settings. -/
def openGroup (state : State) (settings : Settings) : State :=
  { state with
    settings
    level := { settings := state.settings }
    outer := state.level :: state.outer }

/-- Reads the start of a group, from after its bracket on. -/
def groupStart (state : State) : Reader State := fun cs => do
  let cs := state.settings.skip cs
  let named (rest : List Char) : Except Fault (State × List Char) := do
    let (name, rest) ← groupName rest
    if state.names.contains name then .error .groupName
    else .ok ({ state.openGroup state.settings with names := name :: state.names }, rest)
  match cs with
  | '?' :: '=' :: _ | '?' :: '!' :: _ | '?' :: '<' :: '=' :: _ | '?' :: '<' :: '!' :: _ =>
    .error .lookAround
  | '?' :: 'P' :: '<' :: rest => named rest
  | '?' :: '<' :: rest => named rest
  | '?' :: rest => do
    let (switched, rest) ← switches [] rest
    let settings := state.settings.apply true switched
    match rest with
    | ')' :: rest =>
      if switched.isEmpty then .error .nothingToRepeat
      else .ok ({ state with settings, level := state.level.push .switch }, rest)
    | _ :: rest => .ok (state.openGroup settings, rest)
    | [] => .error .settings
  | cs => .ok (state.openGroup state.settings, cs)

/-- Closes the innermost group. -/
def closeGroup (state : State) : Except Fault State :=
  match state.outer with
  | [] => .error .unopenedGroup
  | level :: outer =>
    .ok { state with
      settings := state.level.settings
      level := level.push (.group state.level.close)
      outer }

/-- Adds a part to the innermost group. -/
def push (state : State) (node : Node) : State := { state with level := state.level.push node }

/-- Starts another alternative. -/
def nextAlternative (state : State) : State :=
  { state with
    level := { state.level with
      finished := state.level.alternative :: state.level.finished, parts := [] } }

/-- Reads one part of a pattern. -/
def step (state : State) : Reader State
  | [] => .ok (state, [])
  | '(' :: rest => state.groupStart rest
  | ')' :: rest => return (← state.closeGroup, rest)
  | '|' :: rest => .ok (state.nextAlternative, rest)
  | '[' :: rest => do
    let (node, rest) ← characterClass state.settings rest
    .ok (state.push node, rest)
  | '?' :: rest => return (← state.repeatLast 0 (some 1), skipReluctant rest)
  | '*' :: rest => return (← state.repeatLast 0 none, skipReluctant rest)
  | '+' :: rest => return (← state.repeatLast 1 none, skipReluctant rest)
  | '\x7b' :: rest => do
    let _ ← state.level.takeLast
    let ((least, most), rest) ← bounds state.settings rest
    .ok (← state.repeatLast least most, skipReluctant (state.settings.skip rest))
  | '\\' :: rest => do
    let (primitive, rest) ← escape state.settings rest
    .ok (state.push (← primitive.node state.settings), rest)
  | '.' :: rest => return (state.push (← Primitive.dot.node state.settings), rest)
  | '^' :: rest =>
    let s := state.settings
    let assertion :=
      if !s.multiLine then Look.textStart else if s.crlf then .lineStartCrlf else .lineStart
    .ok (state.push (.look assertion), rest)
  | '$' :: rest =>
    let s := state.settings
    let assertion :=
      if !s.multiLine then Look.textEnd else if s.crlf then .lineEndCrlf else .lineEnd
    .ok (state.push (.look assertion), rest)
  | c :: rest => return (state.push (← (Primitive.literal c false).node state.settings), rest)

/-- Reads parts to the end of the text. Each takes at least one character. -/
def run : Nat → State → List Char → Except Fault State
  | 0, state, _ => .ok state
  | fuel + 1, state, cs => do
    match state.settings.skip cs with
    | [] => .ok state
    | cs =>
      let (state, rest) ← state.step cs
      run fuel state rest

end State

/-- Reads a pattern that ignores case from the start. -/
def ofText (text : String) : Except Fault Node := do
  let start : State := ⟨{}, ⟨{}, [], []⟩, [], []⟩
  let state ← State.run text.length start text.toList
  if !state.outer.isEmpty then .error .unclosedGroup
  else
    let node := state.level.close
    if nestingLimit < node.nesting then .error .tooDeep
    else if sizeLimit < node.sizeEstimate then .error .tooLarge
    else .ok node

end Triage.Pattern

namespace Triage

/-- A pattern together with the text it was read from. -/
structure Pattern where
  text : String
  node : Pattern.Node
  deriving Repr

namespace Pattern

/-- Reads a pattern. -/
def read (text : String) : Except Fault Pattern := (Pattern.mk text ·) <$> ofText text

end Pattern
end Triage
