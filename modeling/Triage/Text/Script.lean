/-
Scripts.

Every code point belongs to one script, named by a four-letter code; some are also used with other
scripts.
-/
import Triage.Text.Runs
import Triage.Text.Script.Table
namespace Triage.Text.Script

/-- The scripts of all code points. -/
def table : Runs String := Runs.read 4 String.ofList runs

/-- The code of the script that a code point belongs to. -/
def ofCode (n : Nat) : String := (table.get? n).getD "Zzzz"

/-- Cuts a text into pieces of four characters. -/
def fours : List Char → List String
  | a :: b :: c :: d :: rest => String.ofList [a, b, c, d] :: fours rest
  | _ => []

/-- The ranges of code points that several scripts share, with the codes of these scripts. -/
def shared : List ((Nat × Nat) × List String) :=
  (tableEntries extensions).flatMap fun entry =>
    match entry.splitOn "=" with
    | [range, codes] => (readRanges range).map fun r => (r, fours codes.toList)
    | _ => []

/-- The codes of the scripts that a code point is used with. -/
def usedWith (n : Nat) : List String :=
  match shared.find? fun ((first, last), _) => first ≤ n && n ≤ last with
  | some (_, codes) => codes
  | none => [ofCode n]

/-- Each script's code, with all its names. -/
def named : List (String × List String) :=
  (tableEntries names).filterMap fun entry =>
    match entry.splitOn "/" with
    | code :: more => some (code, code :: more)
    | [] => none

end Triage.Text.Script
