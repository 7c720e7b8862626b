/-
Files and directories.

Files form a tree below the root. A path is a text of names between slashes; it starts at the root
if it starts with a slash, and in the working directory otherwise. One dot stands for the directory
itself and two dots for the one above. Every name but the last has to be that of a directory.
-/
import Triage.Error
import Triage.SortedMap
import Triage.Text.Split
namespace Triage

open Triage.Text

/-- What a name in a directory may stand for. -/
inductive FileNode
  | file (text : String)
  | directory
  deriving Repr, DecidableEq

/-- The names on the way from the root to a file or directory. -/
abbrev Route := List String

/-- The text of a route. -/
def Route.text (route : Route) : String := "/" ++ String.intercalate "/" route

/-- A tree of files with a working directory. -/
structure Files where
  nodes : SortedMap FileNode := .empty
  workingDirectory : Route := []

namespace Files

/-- What a route leads to. -/
def node? (f : Files) (route : Route) : Option FileNode :=
  if route = [] then some .directory else f.nodes.get? (Route.text route)

/-- Puts a file or directory at the end of a route. -/
def put (f : Files) (route : Route) (node : FileNode) : Files :=
  { f with nodes := f.nodes.insert (Route.text route) node }

/-- Where names lead to from a directory. -/
def walk (f : Files) (here : Route) : List String → Except FileFault Route
  | [] => .ok here
  | name :: rest =>
    match f.node? here with
    | none => .error .notFound
    | some (.file _) => .error .notDirectory
    | some .directory =>
      if name = "" ∨ name = "." then f.walk here rest
      else if name = ".." then f.walk here.dropLast rest
      else f.walk (here ++ [name]) rest

/-- Where the names of a path start. -/
def start (f : Files) (path : String) : Route :=
  if path.toList.head? = some '/' then [] else f.workingDirectory

/-- The route that a path stands for. -/
def route (f : Files) (path : String) : Except FileFault Route :=
  if path = "" then .error .notFound else f.walk (f.start path) (split '/' path)

/-- Whether a path leads to a file or directory. -/
def contains (f : Files) (path : String) : Bool :=
  match f.route path with
  | .ok route => (f.node? route).isSome
  | .error _ => false

/-- The text of a file. -/
def read (f : Files) (path : String) : Except FileFault String := do
  let route ← f.route path
  match f.node? route with
  | none => .error .notFound
  | some .directory => .error .isDirectory
  | some (.file text) => .ok text

/-- Makes the directories that names lead to, as far as they are missing, and tells where that is. -/
def make (f : Files) (here : Route) : List String → Except FileFault (Files × Route)
  | [] => .ok (f, here)
  | name :: rest =>
    if name = "" ∨ name = "." then f.make here rest
    else if name = ".." then f.make here.dropLast rest
    else
      let next := here ++ [name]
      match f.node? next with
      | none => (f.put next .directory).make next rest
      | some .directory => f.make next rest
      | some (.file _) => .error (if rest = [] then .alreadyExists else .notDirectory)

/-- Makes the directory at a path with all directories above it. -/
def makeDirectories (f : Files) (path : String) : Except FileFault (Files × Route) :=
  f.make (f.start path) (split '/' path)

/-- Writes a file and makes the directories above it. -/
def save (f : Files) (path text : String) : Except FileFault Files := do
  let names := split '/' path
  let (f, here) ← f.make (f.start path) names.dropLast
  let route := here ++ [names.getLastD ""]
  if f.node? route = some .directory then .error .isDirectory
  else .ok (f.put route (.file text))

end Files
end Triage
