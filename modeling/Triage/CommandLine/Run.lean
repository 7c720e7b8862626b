/-
Running a command line.

Settings are read first and overridden, whatever the command. Saved filters are read when a command
needs them and written back when it changes them. A cache is opened for the time of one command;
what a store keeps in its directory stays, also if the command fails after that.
-/
import Triage.CommandLine.Arguments
import Triage.CommandLine.Report
import Triage.Config.Overrides
import Triage.Config.Toml
import Triage.Files
import Triage.Pipeline
namespace Triage.CommandLine

open Triage.Calendar Triage.Text

/-- All that a command may read or change. -/
structure World where
  files : Files := {}
  /-- What stores keep, by the text of the route to their directory. -/
  storages : SortedMap Cache.Storage := .empty
  environment : Environment := .empty

/-- What a command prints or why it fails, and the world after it. -/
abbrev Outcome := Except Failure String × World

/-! ### Settings and saved filters -/

/-- A fault with the settings as a failure. -/
def orFail {α : Type} (result : Except ConfigFault α) : Except Failure α :=
  result.mapError fun fault => .error (.config fault)

/-- A fault with a file as a failure. -/
def orFileFail {α : Type} (result : Except FileFault α) : Except Failure α :=
  result.mapError fun fault => .error (.file fault)

/-- Reads a file of settings. -/
def readConfig (files : Files) (path : String) : Except Failure Config := do
  let text ← orFileFail (files.read path)
  orFail (Config.load text)

/-- The settings: those of the file that is named, else those of the user's own file if there is
one. -/
def loadConfig (path : Option String) (w : World) : Except Failure Config :=
  match path with
  | some path => readConfig w.files path
  | none =>
    match w.environment.configFile? with
    | none => .error (.error (.config .noConfigDirectory))
    | some path => if w.files.contains path then readConfig w.files path else .ok {}

/-- Reads one override. -/
def readOverride (text : String) : Except Failure (String × String) :=
  match cut? '=' text with
  | some (key, value) => .ok (trim key, value)
  | none => .error (.malformedOverride text)

/-- Reads overrides; of several for one key the last one counts. -/
def readOverrides (texts : List String) : Except Failure (SortedMap String) :=
  (texts.mapM readOverride).map .ofList

/-- The settings that hold for a command. -/
def settingsFor (inv : Invocation) (w : World) : Except Failure Config := do
  let config ← loadConfig inv.config w
  let overrides ← readOverrides inv.overrides
  orFail (config.apply overrides)

/-- The path of the file of saved filters. -/
def storePath (w : World) : Except Failure String :=
  match w.environment.storeFile? with
  | some path => .ok path
  | none => .error (.error (.config .noDataDirectory))

/-- The saved filters; there are none if there is no file. -/
def loadFilters (w : World) : Except Failure SavedFilters := do
  let path ← storePath w
  if w.files.contains path then
    let text ← orFileFail (w.files.read path)
    orFail (SavedFilters.ofText text)
  else return .empty

/-- Writes the saved filters. -/
def storeFilters (filters : SavedFilters) (w : World) : Except Failure World := do
  let path ← storePath w
  let files ← orFileFail (w.files.save path filters.toText)
  return { w with files }

/-! ### Caches -/

/-- Makes the directory that a cache keeps its entries in, if it does keep them, and tells where
that is. -/
def makeCacheDirectory (settings : Cache.Settings) (files : Files) :
    Except FileFault (Files × Route) :=
  if settings.backend.isPersistent then files.makeDirectories settings.directory
  else .ok (files, [])

/-- Does something with the cache that settings ask for, in the world with its directory. -/
def withCache (config : Config) (w : World)
    (action : World → WithCache (Except Failure String)) : Outcome :=
  let settings := config.cache.opening w.environment
  let place := makeCacheDirectory settings w.files
  let storage := place.map fun (_, route) => (w.storages.get? route.text).getD {}
  match Cache.ofSettings settings storage, place with
  | .error fault, _ => (.error (.cache fault), w)
  | .ok session, .error _ => (((action w).run (some session)).1, w)
  | .ok session, .ok (files, route) =>
    let w := { w with files }
    let (result, session) := (action w).run (some session)
    let storage := (session.map (·.storage)).getD {}
    let storages :=
      if settings.backend.isPersistent then w.storages.insert route.text storage else w.storages
    (result, { w with storages })

/-! ### Commands -/

/-- Lists the notifications of a file that a query matches. -/
def filter (now : Instant) (config : Config) (w : World) (input query : String)
    (criteria : List String) (unreadOnly : Bool) : Outcome :=
  match criteria.mapM SortCriterion.ofText with
  | .error fault => (.error (.error (.config fault)), w)
  | .ok _ =>
    let config := if criteria = [] then config else config.withSort ({ · with criteria })
    withCache config w fun w session =>
      let prepared := do
        let filters ← loadFilters w
        orFail (Pipeline.ofConfig config (some filters.expressions))
      match prepared with
      | .error failure => (.error failure, session)
      | .ok pipeline =>
        let (result, session) := (pipeline.fetchAndRun .still now query
          (.file (w.files.read input)) { unreadOnly }).run session
        match result with
        | .error e => (.error (.error e), session)
        | .ok list =>
          (.ok (String.join (list.map (notificationLine none)) ++ "\n" ++
            toString list.length ++ " notifications\n"), session)

/-- The first notifications by score, the highest first; equal scores keep their order. -/
def ranked (scores : Scores) (list : List Notification) (top : Nat) :
    List (UInt8 × Notification) :=
  let scored := list.filterMap fun n => (scores.get? n.id).map fun s => (s.total, n)
  (scored.mergeSort fun a b => b.1 ≤ a.1).take top

/-- Lists the notifications of a file with the highest scores. -/
def score (now : Instant) (config : Config) (w : World) (input : String) (top : Nat) : Outcome :=
  withCache config w fun w session =>
    match Scorer.make config.score config.scoring none with
    | .error fault => (.error (.error (.config fault)), session)
    | .ok scorer =>
      match (Source.file (w.files.read input)).all with
      | .error fault => (.error (.unreadInput input fault), session)
      | .ok list =>
        let (result, session) := (scorer.scoreAll .still now list).run session
        match result with
        | .error interrupted => (.error (.error interrupted.toError), session)
        | .ok scores =>
          (.ok (String.join ((ranked scores list top).map fun (total, n) =>
            notificationLine (some total) n)), session)

/-- The filter that a query stands for, given the saved filters. -/
def parse (now : Instant) (config : Config) (filters : SavedFilters) (query : String) :
    Except Failure Filter := do
  let pipeline ← orFail (Pipeline.ofConfig config (some filters.expressions))
  (pipeline.filterOf now query).mapError .error

/-- Tells how a query is read. -/
def explain (now : Instant) (config : Config) (w : World) (query : String) :
    Except Failure String := do
  let filter ← parse now config (← loadFilters w) query
  let index := match filter.key? with
    | some key => "index: " ++ indexText key ++ "\n"
    | none => ""
  return filter.describe ++ "\n" ++ index

/-- Lists the saved filters in the order of their names. -/
def listFilters (w : World) : Except Failure String := do
  let filters ← loadFilters w
  return String.join (filters.toList.map fun (name, f) => savedFilterLine name f)

/-- Adds a filter to those that are saved, if it can be read with them. -/
def addFilter (now : Instant) (config : Config) (filters : SavedFilters) (name expression : String)
    (description : Option String) : Except Failure SavedFilters := do
  let _ ← parse now config filters expression
  orFail (filters.save now name expression description)

/-- Saves a filter, if it can be read. -/
def saveFilter (now : Instant) (config : Config) (w : World) (name expression : String)
    (description : Option String) : Except Failure (String × World) := do
  let filters ← addFilter now config (← loadFilters w) name expression description
  let w ← storeFilters filters w
  return ("Saved @" ++ name ++ "\n", w)

/-- Removes a saved filter. -/
def removeFilter (w : World) (name : String) : Except Failure (String × World) := do
  let filters ← loadFilters w
  if (filters.get? name).isNone then throw (.noSuchFilter name)
  let w ← storeFilters (filters.erase name) w
  return ("Removed @" ++ name ++ "\n", w)

/-- What a command that may change the world amounts to. -/
def changing (w : World) : Except Failure (String × World) → Outcome
  | .ok (text, w) => (.ok text, w)
  | .error failure => (.error failure, w)

/-- Runs a command with given settings. -/
def runCommand (now : Instant) (config : Config) (w : World) : Option Command → Outcome
  | some (.filter input query criteria unreadOnly) =>
    filter now config w input query criteria unreadOnly
  | some (.score input top) => score now config w input top
  | some (.explain query) => (explain now config w query, w)
  | some .listFilters => (listFilters w, w)
  | some (.saveFilter name expression description) =>
    changing w (saveFilter now config w name expression description)
  | some (.removeFilter name) => changing w (removeFilter w name)
  | some .config => (.ok config.toText, w)
  | none => (.ok "No command specified. Try --help\n", w)

/-- Runs a command line. -/
def run (now : Instant) (inv : Invocation) (w : World) : Outcome :=
  match settingsFor inv w with
  | .error failure => (.error failure, w)
  | .ok config => runCommand now config w inv.command

/-! ### Answers -/

/-- What a run of the program leaves behind: its exit code and what it printed. -/
structure Answer where
  code : UInt32
  stdout : String := ""
  stderr : String := ""
  deriving Repr, DecidableEq

/-- What is printed in place of running a command. -/
def Answer.ofUsage : Usage → Answer
  | .wrong => { code := 2, stderr := usageText }
  | .help => { code := 0, stdout := usageText }
  | .version => { code := 0, stdout := versionText }

/-- What is printed for a command. -/
def Answer.ofResult : Except Failure String → Answer
  | .ok text => { code := 0, stdout := text }
  | .error failure => { code := 1, stderr := failure.report }

/-- The name of the variable that may name the file of settings. -/
def configVariable : String := "NOTIFSCOUT_CONFIG"

/-- Runs the program with arguments. -/
def execute (now : Instant) (args : List String) (w : World) : Answer × World :=
  match Invocation.ofArguments (w.environment.get? configVariable) args with
  | .error usage => (Answer.ofUsage usage, w)
  | .ok inv =>
    let (result, w) := run now inv w
    (Answer.ofResult result, w)

end Triage.CommandLine
