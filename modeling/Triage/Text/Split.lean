/-
Parts of a text.

A separator between two parts belongs to neither, so `n` separators make `n + 1` parts, some of
which may be empty. Columns are made by padding; a text that is too long for its column stays whole.
-/
namespace Triage.Text

/-- The parts of a text between separators, given the part under way with its last character
first. -/
def partsFrom (sep : Char) (current : List Char) : List Char → List (List Char)
  | [] => [current.reverse]
  | c :: rest =>
    if c = sep then current.reverse :: partsFrom sep [] rest else partsFrom sep (c :: current) rest

/-- The parts of a text between separators. -/
def split (sep : Char) (s : String) : List String :=
  (partsFrom sep [] s.toList).map String.ofList

/-- What stands before and after the first separator, if there is one. -/
def cut? (sep : Char) (s : String) : Option (String × String) :=
  let cs := s.toList
  match cs.dropWhile (· != sep) with
  | [] => none
  | _ :: after => some (String.ofList (cs.takeWhile (· != sep)), String.ofList after)

/-- What follows a fixed beginning of a text. -/
def after? (start text : String) : Option String :=
  if start.toList.isPrefixOf text.toList then
    some (String.ofList (text.toList.drop start.length))
  else none

/-- A text with blanks after it up to a width. -/
def padEnd (width : Nat) (s : String) : String :=
  s ++ String.ofList (List.replicate (width - s.length) ' ')

/-- A text with blanks before it up to a width. -/
def padStart (width : Nat) (s : String) : String :=
  String.ofList (List.replicate (width - s.length) ' ') ++ s

/-- A text has at least one part. -/
theorem partsFrom_ne_nil (sep : Char) (current cs : List Char) :
    partsFrom sep current cs ≠ [] := by
  induction cs generalizing current with
  | nil => simp [partsFrom]
  | cons c rest ih =>
    rw [partsFrom]
    split
    · simp
    · exact ih _

end Triage.Text
