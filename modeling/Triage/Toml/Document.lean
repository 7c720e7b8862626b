/-
From lines to a table.

The lines of a settings file are headers, which open tables, and entries, which put a value under a
dotted key below the table opened last. A table is opened once and a key gets one value. Headers may
come in any order, and a table that was only named on the way to another may still be opened. A
table that a dotted key has made takes further dotted keys, but no header.
-/
import Triage.Toml.Basic
namespace Triage.Toml

/-- What stands under keys, in the order in which the keys were first named. -/
abbrev Entries := List (String × Toml)

/-- A line of a settings file that is not blank. -/
inductive Line
  /-- The header of a table. -/
  | header (path : List String)
  /-- The header of one of several tables under a name. -/
  | element (path : List String)
  | entry (path : List String) (value : Toml)

/-- Puts a value in the place of the one under a key. -/
def replace (key : String) (value : Toml) (entries : Entries) : Entries :=
  entries.map fun e => if e.1 == key then (key, value) else e

/-- Changes the table at the end of a path. Tables on the way are made where there are none, and
of several tables under a name the last one is meant. A dotted key does not lead into tables that
have a header of their own. -/
def descend (byKey : Bool) (change : Origin → Entries → Option Entries) :
    List String → Origin → Entries → Option Entries
  | [], origin, entries => change origin entries
  | key :: path, _, entries =>
    match entries.lookup key with
    | none =>
      let origin := if byKey then Origin.dotted else Origin.implied
      (descend byKey change path origin []).map fun inner => entries ++ [(key, .table origin inner)]
    | some (.table origin inner) =>
      if origin == .closed || (byKey && origin == .headed) then none
      else
        (descend byKey change path origin inner).map fun inner =>
          replace key (.table origin inner) entries
    | some (.tables items) =>
      match items.getLast? with
      | some (.table origin inner) =>
        (descend byKey change path origin inner).map fun inner =>
          replace key (.tables (items.dropLast ++ [.table origin inner])) entries
      | _ => none
    | some _ => none

/-- Puts a value under a new key of a table. The table must be one that dotted keys made if and only
if the key is dotted. -/
def addEntry (isDotted : Bool) (key : String) (value : Toml) (origin : Origin)
    (entries : Entries) : Option Entries :=
  if (origin == .dotted) == isDotted && (entries.lookup key).isNone then
    some (entries ++ [(key, value)])
  else none

/-- Opens a table. -/
def openTable (key : String) (entries : Entries) : Option Entries :=
  match entries.lookup key with
  | none => some (entries ++ [(key, .table .headed [])])
  | some (.table .implied inner) => some (replace key (.table .headed inner) entries)
  | some _ => none

/-- Opens one more of several tables under a name. -/
def openElement (key : String) (entries : Entries) : Option Entries :=
  match entries.lookup key with
  | none => some (entries ++ [(key, .tables [.table .headed []])])
  | some (.tables items) =>
    some (replace key (.tables (items ++ [.table .headed []])) entries)
  | some _ => none

/-- Splits off the last part of a path. -/
def splitLast (path : List String) : List String × String := (path.dropLast, path.getLastD "")

/-- Puts a value under a dotted key of a table. -/
def assign (path : List String) (value : Toml) (origin : Origin) (entries : Entries) :
    Option Entries :=
  let (way, key) := splitLast path
  descend true (addEntry (!way.isEmpty) key value) way origin entries

/-- A settings file as far as it was read: its table, and the path of the table opened last. -/
structure Draft where
  entries : Entries := []
  current : List String := []

/-- What one more line makes of a settings file. -/
def Draft.add (d : Draft) : Line → Option Draft
  | .header path =>
    let (way, key) := splitLast path
    (descend false (fun _ => openTable key) way .headed d.entries).map (⟨·, path⟩)
  | .element path =>
    let (way, key) := splitLast path
    (descend false (fun _ => openElement key) way .headed d.entries).map (⟨·, path⟩)
  | .entry path value =>
    (descend false (assign path value) d.current .headed d.entries).map (⟨·, d.current⟩)

/-- The table that all lines of a settings file amount to. -/
def ofLines (lines : List Line) : Option Toml :=
  (lines.foldlM Draft.add {}).map fun d => .table .headed d.entries

/-- The table that dotted keys with values between braces amount to. -/
def ofPairs (pairs : List (List String × Toml)) : Option Toml :=
  (pairs.foldlM (fun entries (path, value) => assign path value .closed entries) []).map
    (.table .closed)

end Triage.Toml
