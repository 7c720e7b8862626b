/-
Conditions on a single notification.

A condition never fails: a notification without the field that a condition looks at does not meet
it. Conditions on the repository, its owner, the kind of subject and the read state may name a
bucket of an index in which everything that meets them can be found.
-/
import Triage.Calendar.Timestamp
import Triage.Error
import Triage.Notification
import Triage.Pattern.Matcher
import Triage.Pattern.Reading
import Triage.Query.Formula
import Triage.Text.Lowercase
namespace Triage

open Triage.Calendar Triage.Text

/-- A bucket of an index: the notifications with one value of a field. Names are in lower case. -/
inductive IndexKey
  | repository (name : String)
  | organization (name : String)
  | type (name : String)
  | unread (value : Bool)
  deriving Repr, DecidableEq

/-- A stretch of time. The first instant belongs to it, the second one does not, and either side
may be open. -/
structure Window where
  since : Option Instant
  before : Option Instant
  deriving Repr, DecidableEq

namespace Window

/-- Whether an instant lies in the window. -/
def contains (w : Window) (t : Instant) : Bool :=
  w.since.all (fun since => !t.before since) && w.before.all fun before => t.before before

/-- The window as text. -/
def describe (w : Window) : String :=
  let side (t : Option Instant) : String := (t.map Instant.toOffsetText).getD ""
  "updated:[" ++ side w.since ++ ", " ++ side w.before ++ ")"

end Window

/-- A range of scores, both ends included and each of them optional. -/
structure ScoreRange where
  least : Option Int
  most : Option Int
  deriving Repr, DecidableEq

namespace ScoreRange

/-- Whether a score lies in the range. -/
def contains (r : ScoreRange) (total : UInt8) : Bool :=
  let n : Int := total.toNat
  r.least.all (· ≤ n) && r.most.all (n ≤ ·)

/-- The range as text. -/
def describe (r : ScoreRange) : String :=
  match r.least, r.most with
  | some least, some most =>
    if least = most then "score:" ++ toString least
    else "score:" ++ toString least ++ ".." ++ toString most
  | some least, none => "score:>=" ++ toString least
  | none, some most => "score:<=" ++ toString most
  | none, none => "score:*"

/-- The range between two bounds of which a zero leaves its side open. -/
def ofBounds (least most : Nat) : ScoreRange :=
  let bound (n : Nat) : Option Int := if n = 0 then none else some n
  ⟨bound least, bound most⟩

end ScoreRange

/-- A condition on a notification. -/
inductive Predicate
  | anything
  | type (kind : SubjectType)
  | reason (name : String)
  | unread (value : Bool)
  | repository (glob : Glob)
  | organization (glob : Glob)
  /-- A text in lower case that occurs in one of the fields that words are looked for in. -/
  | text (needle : String)
  | field (name : String) (pattern : Pattern)
  | updated (window : Window)
  | score (range : ScoreRange)

/-- A filter is a formula over conditions. -/
abbrev Filter := Formula Predicate

namespace Predicate

/-! ### Building -/

/-- The condition on the kind of subject, in any spelling. -/
def ofType (text : String) : Predicate := type (SubjectType.ofText text)

/-- The condition on the reason, in any case and with hyphens or underscores. -/
def ofReason (text : String) : Predicate :=
  reason (String.ofList
    ((asciiLower (trim text)).toList.map fun c => if c == '-' then '_' else c))

/-- The condition on the full name of the repository. -/
def ofRepository (text : String) : Except Error Predicate :=
  match Glob.ofText text with
  | .ok glob => .ok (repository glob)
  | .error fault => .error (.query ("repo:" ++ text) (.glob fault))

/-- The condition on the owner of the repository. -/
def ofOrganization (text : String) : Except Error Predicate :=
  match Glob.ofText text with
  | .ok glob => .ok (organization glob)
  | .error fault => .error (.query ("org:" ++ text) (.glob fault))

/-- The condition that a text occurs somewhere. -/
def ofText (needle : String) : Predicate := text (lowercase needle)

/-- The condition that a pattern is found in a field. -/
def ofField (name pattern : String) : Except Error Predicate :=
  match Pattern.read pattern with
  | .ok pattern => .ok (field (asciiLower name) pattern)
  | .error fault => .error (.query (name ++ ":" ++ pattern) (.pattern fault))

/-! ### Meaning -/

/-- The fields in which words are looked for. -/
def searched (n : Notification) : List String := [n.title, n.repo, n.typeName, n.reason.name]

/-- Whether one text occurs in another. -/
def occursIn (needle : List Char) : List Char → Bool
  | [] => needle.isEmpty
  | c :: rest => needle.isPrefixOf (c :: rest) || occursIn needle rest

/-- The value of a field that patterns can be asked of. -/
def fieldValue? (name : String) (n : Notification) : Option String :=
  if name == "title" || name == "subject" then some n.title
  else if name == "id" then some n.id
  else if name == "url" then some n.url
  else if name == "owner" then some n.owner
  else if name == "name" then some n.repository.name
  else if name == "full_name" then some n.repo
  else if name == "type" then some n.typeName
  else if name == "reason" then some n.reason.name
  else none

/-- Whether a notification meets a condition, given the scores. -/
def holds (score : Notification → UInt8) (n : Notification) : Predicate → Bool
  | anything => true
  | type kind => eqIgnoreCase n.typeName kind.name
  | reason name => n.reason.name == name
  | unread value => n.unread == value
  | repository glob => glob.isMatch n.repo
  | organization glob => glob.isMatch n.owner
  | text needle => (searched n).any fun text => occursIn needle.toList (lowercase text).toList
  | field name pattern => (fieldValue? name n).any pattern.node.search
  | updated window => window.contains n.updatedAt
  | .score range => range.contains (score n)

/-- As `holds`, where asking for a score may have an effect. -/
def check {m : Type → Type} [Monad m] (score : Notification → m UInt8) (n : Notification) :
    Predicate → m Bool
  | .score range => do return range.contains (← score n)
  | p => pure (p.holds (fun _ => 0) n)

theorem check_pure {m : Type → Type} [Monad m] [LawfulMonad m] (score : Notification → UInt8)
    (n : Notification) (p : Predicate) :
    p.check (fun n => (pure (score n) : m UInt8)) n = pure (p.holds score n) := by
  cases p <;> simp [check, holds]

/-! ### Text and index -/

/-- The condition as text. -/
def describe : Predicate → String
  | anything => "all"
  | type kind => "type:" ++ kind.name
  | reason name => "reason:" ++ name
  | unread value => if value then "is:unread" else "is:read"
  | repository glob => "repo:" ++ glob.text
  | organization glob => "org:" ++ glob.text
  | text needle => quote needle
  | field name pattern => name ++ ":/" ++ pattern.text ++ "/"
  | updated window => window.describe
  | score range => range.describe

/-- The bucket that holds everything that meets the condition. -/
def key? : Predicate → Option IndexKey
  | type kind => some (.type (asciiLower kind.name))
  | unread value => some (.unread value)
  | repository glob =>
    if Glob.isLiteral glob.text then some (.repository (asciiLower glob.text)) else none
  | organization glob =>
    if Glob.isLiteral glob.text then some (.organization (asciiLower glob.text)) else none
  | _ => none

end Predicate

namespace Filter

/-- Whether the filter accepts a notification, given the scores. -/
def accepts (f : Filter) (score : Notification → UInt8) (n : Notification) : Bool :=
  Formula.holds (Predicate.holds score n) f

/-- As `accepts`, where asking for a score may have an effect. -/
def acceptsM {m : Type → Type} [Monad m] (f : Filter) (score : Notification → m UInt8)
    (n : Notification) : m Bool :=
  Formula.check (Predicate.check score n) f

/-- The filter as text. -/
def describe (f : Filter) : String := Formula.describe Predicate.describe f

/-- The bucket that holds everything that the filter accepts. -/
def key? (f : Filter) : Option IndexKey := Formula.key? Predicate.key? f

end Filter
end Triage
