/-
What the terms of a query mean.

A word is looked for in several fields. A key with a value asks for the read state, the repository
or its owner, the kind of subject, the reason, the time of the last change or the score; any other
key names a field that a pattern is searched in. Keys are read in any case.
-/
import Triage.Decimal.Reading
import Triage.Query.Predicate
import Triage.Query.Token
namespace Triage.Query

open Triage.Calendar Triage.Text

/-! ### Scores -/

/-- How a value is compared with a bound. -/
inductive Comparison
  | atLeast
  | atMost
  | above
  | below
  | exactly
  deriving Repr, DecidableEq

/-- Splits the comparison off the front of a value. -/
def Comparison.split : List Char → Comparison × List Char
  | '>' :: '=' :: rest => (atLeast, rest)
  | '<' :: '=' :: rest => (atMost, rest)
  | '>' :: rest => (above, rest)
  | '<' :: rest => (below, rest)
  | rest => (exactly, rest)

/-- The scores that compare so with a number. -/
def Comparison.range (c : Comparison) (n : Int) : ScoreRange :=
  match c with
  | atLeast => ⟨some n, none⟩
  | above => ⟨some (n + 1), none⟩
  | atMost => ⟨none, some n⟩
  | below => ⟨none, some (n - 1)⟩
  | exactly => ⟨some n, some n⟩

/-- The range of scores that a value names: a whole number from 0 to 100 after an optional
comparison. -/
def scoreRange? (value : String) : Option ScoreRange :=
  let (comparison, number) := Comparison.split value.toList
  (Decimal.readIntWithin? 0 100 (trim (String.ofList number))).map comparison.range

/-! ### Times -/

/-- Units in which ages are given. -/
inductive AgeUnit
  | hour
  | day
  | week
  deriving Repr, DecidableEq

namespace AgeUnit

/-- The unit with this letter. -/
def ofChar? (c : Char) : Option AgeUnit :=
  if c.toLower = 'h' then some hour
  else if c.toLower = 'd' then some day
  else if c.toLower = 'w' then some week
  else none

/-- How many seconds the unit has. -/
def seconds : AgeUnit → Nat
  | hour => 3600
  | day => 86400
  | week => 604800

end AgeUnit

/-- An amount of time may not be longer than the milliseconds in a signed 64-bit word. -/
def longestAge : Nat := 0x7FFFFFFFFFFFFFFF / 1000

/-- What a text says about a span of time before now. -/
inductive Age
  | seconds (n : Nat)
  | outOfRange
  | unrecognized
  deriving Repr, DecidableEq

/-- Reads a number and the letter of a unit. A number beyond a signed 64-bit word is out of range,
whatever follows it. -/
def Age.ofChars (cs : List Char) : Age :=
  match cs.reverse with
  | [] => unrecognized
  | unit :: digits =>
    if digits.isEmpty || !digits.all Char.isDigit then unrecognized
    else
      let amount := Decimal.digitsValue digits.reverse
      if 0x8000000000000000 ≤ amount then outOfRange
      else
        match AgeUnit.ofChar? unit with
        | none => unrecognized
        | some unit =>
          if longestAge < amount * unit.seconds then outOfRange
          else seconds (amount * unit.seconds)

/-- The instant that a text names: so long before now, a timestamp, or the start of a day. -/
def cutoff (now : Instant) (cs : List Char) : Except QueryFault Instant :=
  match Age.ofChars cs with
  | .seconds n =>
    match now.minusSeconds? n with
    | some t => .ok t
    | none => .error .durationOutOfRange
  | .outOfRange => .error .durationOutOfRange
  | .unrecognized =>
    let text := String.ofList cs
    match (readStrict? text).or (readDate? text) with
    | some t => .ok t
    | none => .error .unknownTime

/-- The window that a value names: before its instant after `<`, otherwise from it on. -/
def window (now : Instant) (value : String) : Except QueryFault Window :=
  match value.toList with
  | '<' :: rest => do return ⟨none, some (← cutoff now rest)⟩
  | '>' :: rest => do return ⟨some (← cutoff now rest), none⟩
  | cs => do return ⟨some (← cutoff now cs), none⟩

/-! ### Terms -/

/-- The keys that have a meaning of their own. -/
inductive Key
  | status
  | repository
  | organization
  | type
  | reason
  | updated
  | score
  | field (name : String)
  deriving Repr, DecidableEq

/-- The key with this name. -/
def Key.ofText (text : String) : Key :=
  let name := asciiLower text
  if name = "is" then status
  else if name = "repo" ∨ name = "repository" then repository
  else if name = "org" ∨ name = "organization" then organization
  else if name = "type" then type
  else if name = "reason" then reason
  else if name = "updated" ∨ name = "since" then updated
  else if name = "score" then score
  else field name

/-- The condition that a key with a value stands for. -/
def fieldPredicate (now : Instant) (key value : String) : Except Error Predicate :=
  let refuse {α : Type} (fault : QueryFault) : Except Error α :=
    .error (.query (Term.field key value).text fault)
  if value = "" then refuse .missingValue
  else
    match Key.ofText key with
    | .status =>
      if asciiLower value = "unread" then .ok (.unread true)
      else if asciiLower value = "read" then .ok (.unread false)
      else refuse .unknownStatus
    | .repository => Predicate.ofRepository value
    | .organization => Predicate.ofOrganization value
    | .type => .ok (Predicate.ofType value)
    | .reason => .ok (Predicate.ofReason value)
    | .updated =>
      match window now value with
      | .ok window => .ok (.updated window)
      | .error fault => refuse fault
    | .score =>
      match scoreRange? value with
      | some range => .ok (.score range)
      | none => refuse .invalidScore
    | .field name => Predicate.ofField name value

end Triage.Query
