/-
The program.

Files that a command may touch are read before it runs, and those that it has changed are written
after it. What stores keep is in one file of their directory.
-/
import Triage.Cache.Archive
import Triage.CommandLine.Run
import Std.Time.DateTime.Timestamp

namespace Triage.Program

open Triage.CommandLine

/-- The variables of the environment that matter. -/
def variableNames : List String :=
  ["HOME", "XDG_CONFIG_HOME", "XDG_DATA_HOME", "XDG_CACHE_HOME", configVariable]

/-- The environment. -/
def readEnvironment : IO Environment :=
  variableNames.foldlM (fun env name => do
    match ← IO.getEnv name with
    | some value => return env.insert name value
    | none => return env) SortedMap.empty

/-- Adds a file or directory to the known ones, if there is one at the end of a route. -/
def addNode (files : Files) (route : Route) : IO Files := do
  try
    return files.put route (.file (← IO.FS.readFile route.text))
  catch e =>
    match e with
    | .inappropriateType .. => return files.put route .directory
    | _ => return files

/-- Adds a path to the known ones, with all directories on its way. -/
def addPath (files : Files) (path : String) : IO Files :=
  let route := files.start path ++ (Text.split '/' path).filter (· ≠ "")
  (List.range route.length).foldlM (fun files n => addNode files (route.take (n + 1))) files

/-- The paths that a command line may read or write. -/
def paths (inv : Invocation) (env : Environment) : List String :=
  let input := match inv.command with
    | some (.filter input ..) => [input]
    | some (.score input _) => [input]
    | _ => []
  input ++ inv.config.toList ++ env.configFile?.toList ++ env.storeFile?.toList

/-- The file of a directory in which stores keep their entries. -/
def archiveName : String := "cache.json"

/-- The world that a command line runs in. -/
def readWorld (args : List String) : IO World := do
  let environment ← readEnvironment
  let here := (Text.split '/' (← IO.currentDir).toString).filter (· ≠ "")
  let files : Files := { workingDirectory := here }
  match Invocation.ofArguments (environment.get? configVariable) args with
  | .error _ => return { files, environment }
  | .ok inv =>
    let files ← (paths inv environment).foldlM addPath files
    let w : World := { files, environment }
    match settingsFor inv w with
    | .error _ => return w
    | .ok config =>
      let settings := config.cache.opening environment
      let files ← addPath files settings.directory
      let w := { w with files }
      match files.makeDirectories settings.directory with
      | .error _ => return w
      | .ok (_, route) =>
        let files ← addNode files (route ++ [archiveName])
        match files.node? (route ++ [archiveName]) with
        | some (.file text) =>
          match Cache.Storage.ofText? text with
          | some storage => return { w with storages := w.storages.insert route.text storage }
          | none => return w
        | _ => return w

/-- Writes what a command has changed. -/
def writeWorld (before after : World) : IO Unit := do
  for (path, node) in after.files.nodes.toList do
    if before.files.nodes.get? path ≠ some node then
      match node with
      | .directory => IO.FS.createDirAll path
      | .file text => IO.FS.writeFile path text
  for (path, storage) in after.storages.toList do
    IO.FS.writeFile (joinPath path archiveName) storage.toText

/-- The current time. -/
def readClock : IO Calendar.Instant := do
  let t ← Std.Time.Timestamp.now
  return ⟨t.val.second.val, t.val.nano.val.toNat⟩

end Triage.Program

open Triage Triage.Program in
/-- Runs the program. -/
def main (args : List String) : IO UInt32 := do
  let before ← readWorld args
  let (answer, after) := CommandLine.execute (← readClock) args before
  writeWorld before after
  IO.print answer.stdout
  IO.eprint answer.stderr
  return answer.code
