/-
Directories of a user.

Settings, data and caches live in one directory each. A variable of the environment may name it by
an absolute path; otherwise it is a fixed place below the home directory.
-/
import Triage.SortedMap
namespace Triage

/-- The variables of an environment. -/
abbrev Environment := SortedMap String

/-- The name of the program's own directory among those of a user. -/
def programDirectory : String := "notifscout"

/-- A path and a name below it. -/
def joinPath (path name : String) : String :=
  if path.toList.getLast? = some '/' then path ++ name else path ++ "/" ++ name

namespace Environment

/-- Whether a path starts at the root. -/
def isAbsolute (path : String) : Bool := path.toList.head? == some '/'

/-- The directory that a variable names, or else a fixed one below the home directory. -/
def directory? (env : Environment) (name belowHome : String) : Option String :=
  match (SortedMap.get? env name).filter isAbsolute with
  | some path => some path
  | none => ((SortedMap.get? env "HOME").filter (· ≠ "")).map (joinPath · belowHome)

/-- The directory for settings. -/
def configDirectory? (env : Environment) : Option String :=
  directory? env "XDG_CONFIG_HOME" ".config"

/-- The directory for data. -/
def dataDirectory? (env : Environment) : Option String :=
  directory? env "XDG_DATA_HOME" ".local/share"

/-- The directory for caches. -/
def cacheDirectory? (env : Environment) : Option String :=
  directory? env "XDG_CACHE_HOME" ".cache"

/-- The file of settings. -/
def configFile? (env : Environment) : Option String :=
  (configDirectory? env).map fun path => joinPath (joinPath path programDirectory) "config.toml"

/-- The file of saved filters. -/
def storeFile? (env : Environment) : Option String :=
  (dataDirectory? env).map fun path => joinPath (joinPath path programDirectory) "filters.json"

end Environment
end Triage
