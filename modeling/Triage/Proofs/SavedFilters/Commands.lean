/-
The saved filters of a command line are a map that lasts.

Each command starts from the file that the one before it has left.  It reads the filters, checks
what it is to do, and only then writes, so that a command that fails writes nothing.  What is
written is read back by the next one.  Hence a run of commands is a run over maps.
-/
import Triage.Proofs.CommandLine.Lines
import Triage.Proofs.Config.Settings
import Triage.Proofs.Files
import Triage.Proofs.SavedFilters
import Triage.Proofs.SavedFilters.Text

namespace Triage

open Calendar Text

/-! ### The path of the file -/

theorem toList_joinPath (path name : String) :
    ∃ above, (joinPath path name).toList = above ++ '/' :: name.toList := by
  rw [joinPath]
  split
  · rename_i hslash
    obtain ⟨above, habove⟩ := List.getLast?_eq_some_iff.1 hslash
    exact ⟨above, by rw [String.toList_append, habove]; simp⟩
  · exact ⟨path.toList, by simp⟩

theorem isNamed_storeFile {env : Environment} {path : String} (h : env.storeFile? = some path) :
    Files.IsNamed path := by
  obtain ⟨directory, -, rfl⟩ := Option.map_eq_some_iff.1 h
  obtain ⟨above, habove⟩ := toList_joinPath (joinPath directory programDirectory) "filters.json"
  have hlast : Files.lastName "filters.json" = "filters.json" := by decide +kernel
  rw [Files.IsNamed, Files.lastName_of_below habove, hlast]
  decide

namespace CommandLine

open SavedFilters

variable {w w' : World} {filters filters' : SavedFilters} {inv : Invocation} {config : Config}
  {now : Instant}

/-! ### Worlds that keep filters -/

/-- The saved filters can be read, and their file can be written. -/
structure Keeps (w : World) (filters : SavedFilters) : Prop where
  loaded : loadFilters w = .ok filters
  grounded : w.files.Grounded
  writable : ∃ filters w', storeFilters filters w = .ok w'

theorem storeFilters_ok_iff : storeFilters filters w = .ok w' ↔
    ∃ path files, w.environment.storeFile? = some path ∧
      w.files.save path filters.toText = .ok files ∧ w' = { w with files } := by
  rw [storeFilters, storePath]
  cases hpath : w.environment.storeFile? with
  | none => exact ⟨nofun, nofun⟩
  | some path =>
      refine bind_ok_iff.trans ⟨?_, ?_⟩
      · rintro ⟨_, hsome, h⟩
        cases hsome
        obtain ⟨files, hsave, h⟩ := bind_ok_iff.1 h
        cases h
        exact ⟨path, files, rfl, mapError_ok_iff.1 hsave, rfl⟩
      · rintro ⟨_, files, hsome, hsave, rfl⟩
        cases hsome
        exact ⟨path, rfl, bind_ok_iff.2 ⟨files, mapError_ok_iff.2 hsave, rfl⟩⟩

theorem dated_of_loadFilters (h : loadFilters w = .ok filters) : filters.Dated := by
  obtain ⟨path, -, h⟩ := bind_ok_iff.1 h
  split at h
  · obtain ⟨text, -, h⟩ := bind_ok_iff.1 h
    exact dated_of_ofText (mapError_ok_iff.1 h)
  · cases h
    exact dated_empty

/-- Filters that were written are read back, and of two writes the second one alone counts. -/
theorem keeps_of_storeFilters (hground : w.files.Grounded) (hdated : filters'.Dated)
    (h : storeFilters filters' w = .ok w') :
    Keeps w' filters' ∧ ∀ filters, storeFilters filters w' = storeFilters filters w := by
  obtain ⟨path, files, hpath, hsave, rfl⟩ := storeFilters_ok_iff.1 h
  have hwritten := Files.written_of_save hground hsave
  obtain ⟨hcontains, hread⟩ := hwritten.reads (isNamed_storeFile hpath)
  have hagain (filters : SavedFilters) :
      storeFilters filters { w with files } = storeFilters filters w := by
    simp only [storeFilters, storePath, hpath]
    show (orFileFail (files.save path filters.toText) >>= fun files => .ok { w with files }) =
      (orFileFail (w.files.save path filters.toText) >>= fun files => .ok { w with files })
    rw [hwritten.again]
  refine ⟨⟨?_, hwritten.grounded, filters', { w with files }, (hagain filters').trans h⟩, hagain⟩
  simp only [loadFilters, storePath, hpath]
  show (if files.contains path = true then _ else _) = _
  rw [if_pos hcontains, hread]
  show orFail (ofText filters'.toText) = _
  rw [ofText_toText hdated]
  rfl

/-- Whatever filters there are can be written. -/
theorem Keeps.exists_storeFilters (h : Keeps w filters) (filters' : SavedFilters) :
    ∃ w', storeFilters filters' w = .ok w' := by
  obtain ⟨some, w', hstore⟩ := h.writable
  obtain ⟨path, files, hpath, hsave, rfl⟩ := storeFilters_ok_iff.1 hstore
  obtain ⟨g, there, hmake, hnode, -⟩ := Files.save_ok_iff.1 hsave
  exact ⟨_, storeFilters_ok_iff.2
    ⟨path, _, hpath, Files.save_ok_iff.2 ⟨g, there, hmake, hnode, rfl⟩, rfl⟩⟩

/-- The settings of an invocation can be read, and they do not depend on the saved filters. -/
def Configured (w : World) (inv : Invocation) : Prop :=
  ∃ config, settingsFor inv w = .ok config ∧
    ∀ filters w', storeFilters filters w = .ok w' → settingsFor inv w' = .ok config

theorem Configured.of_storeFilters (h : Configured w inv)
    (hstore : storeFilters filters w = .ok w')
    (hagain : ∀ filters, storeFilters filters w' = storeFilters filters w) :
    Configured w' inv := by
  obtain ⟨config, -, hothers⟩ := h
  exact ⟨config, hothers filters w' hstore, fun filters w'' hw'' =>
    hothers filters w'' ((hagain filters).symm.trans hw'')⟩

/-! ### Settings and queries -/

theorem validate_of_settingsFor (h : settingsFor inv w = .ok config) :
    config.validate = .ok () := by
  obtain ⟨_, -, h⟩ := bind_ok_iff.1 h
  obtain ⟨_, -, h⟩ := bind_ok_iff.1 h
  obtain ⟨next, -, h⟩ := bind_ok_iff.1 (mapError_ok_iff.1 h)
  obtain ⟨⟨⟩, hvalidate, h⟩ := bind_ok_iff.1 h
  cases h
  exact hvalidate

/-- Valid settings make a pipeline. -/
theorem exists_ofConfig (h : config.validate = .ok ()) (saved : Option (SortedMap String)) :
    ∃ p, Pipeline.ofConfig config saved = .ok p := by
  have hall := h
  rw [Config.validate, Config.check_ok_iff, Config.check_ok_iff, Config.check_ok_iff,
    Config.check_ok_iff] at hall
  obtain ⟨hengine, hscoring, hscore, hsort, -⟩ := hall
  obtain ⟨-, criteria, hcriteria⟩ := Config.sort_ok_iff.1 hsort
  have hscorer : ∃ scorer, Scorer.make config.score config.scoring none = .ok scorer :=
    ⟨_, bind_ok_iff.2 ⟨(), hscore, bind_ok_iff.2 ⟨(), hscoring, rfl⟩⟩⟩
  have hsorter : ∃ sorter, Sorter.ofSettings criteria config.sort = .ok sorter :=
    ⟨_, bind_ok_iff.2 ⟨(), hsort, rfl⟩⟩
  obtain ⟨scorer, hscorer⟩ := hscorer
  obtain ⟨sorter, hsorter⟩ := hsorter
  have hmake : Pipeline.make scorer saved config.engine sorter = .ok _ :=
    bind_ok_iff.2 ⟨(), hengine, rfl⟩
  exact ⟨_, bind_ok_iff.2 ⟨(), h, bind_ok_iff.2 ⟨scorer, hscorer, bind_ok_iff.2
    ⟨criteria, hcriteria, bind_ok_iff.2 ⟨sorter, hsorter, bind_ok_iff.2 ⟨_, hmake, rfl⟩⟩⟩⟩⟩⟩

/-- With valid settings a query is read exactly if it stands for a filter. -/
theorem parse_isOk (h : config.validate = .ok ()) (now : Instant) (filters : SavedFilters)
    (query : String) :
    (parse now config filters query).isOk = (Query.filterOf (filters.context now) query).isOk := by
  obtain ⟨p, hp⟩ := exists_ofConfig h (some filters.expressions)
  have hread : p.filterOf now query = Query.filterOf (filters.context now) query := by
    rw [Pipeline.filterOf, saved_of_ofConfig hp]
    rfl
  rw [parse, hp]
  show ((p.filterOf now query).mapError Failure.error).isOk = _
  rw [hread]
  cases Query.filterOf (filters.context now) query <;> rfl

/-! ### Commands as steps of a map -/

/-- A command about saved filters. -/
inductive FilterCommand
  | save (name expression : String) (description : Option String)
  | remove (name : String)
  | list

namespace FilterCommand

/-- The command as it is given on the command line. -/
def command : FilterCommand → Command
  | save name expression description => .saveFilter name expression description
  | remove name => .removeFilter name
  | list => .listFilters

/-- Whether the command succeeds on filters. -/
def accepts (now : Instant) (filters : SavedFilters) : FilterCommand → Bool
  | save name expression _ =>
    (Query.filterOf (filters.context now) expression).isOk && SavedFilter.isName name
  | remove name => (filters.get? name).isSome
  | list => true

/-- What the command makes of the filters. -/
def update (now : Instant) (filters : SavedFilters) : FilterCommand → SavedFilters
  | save name expression description => filters.insert name ⟨expression, description, now⟩
  | remove name => filters.erase name
  | list => filters

/-- What the command prints. -/
def prints (filters : SavedFilters) : FilterCommand → String
  | save name _ _ => "Saved @" ++ name ++ "\n"
  | remove name => "Removed @" ++ name ++ "\n"
  | list => String.join (filters.toList.map fun (name, f) => savedFilterLine name f)

theorem dated_update {c : FilterCommand} (h : filters.Dated) (hnow : now.isValid = true) :
    (c.update now filters).Dated := by
  cases c with
  | save name expression description => exact h.insert hnow
  | remove name => exact h.erase name
  | list => exact h

end FilterCommand

/-- What a command that changes the filters comes to: it succeeds and has written the new ones, or
it fails and has written nothing. -/
def Comes (w : World) (now : Instant) (filters : SavedFilters) (c : FilterCommand)
    (result : Except Failure (String × World)) : Prop :=
  if c.accepts now filters then
    ∃ w', result = .ok (c.prints filters, w') ∧ storeFilters (c.update now filters) w = .ok w'
  else ∃ failure, result = .error failure

theorem addFilter_eq (h : config.validate = .ok ()) (now : Instant) (filters : SavedFilters)
    (name expression : String) (description : Option String) :
    (addFilter now config filters name expression description).toOption =
      if (FilterCommand.save name expression description).accepts now filters then
        some ((FilterCommand.save name expression description).update now filters)
      else none := by
  have hread := parse_isOk h now filters expression
  rw [FilterCommand.accepts, ← hread, addFilter, SavedFilters.save]
  cases parse now config filters expression with
  | error failure => rfl
  | ok f =>
      show (orFail (if SavedFilter.isName name = true then _ else _)).toOption =
        if SavedFilter.isName name = true then _ else none
      split <;> rfl

/-- Saving asks whether the expression can be read and whether the name is one, before it writes. -/
theorem comes_saveFilter (h : Keeps w filters) (hvalid : config.validate = .ok ())
    (name expression : String) (description : Option String) :
    Comes w now filters (.save name expression description)
      (saveFilter now config w name expression description) := by
  have hadd := addFilter_eq hvalid now filters name expression description
  rw [Comes, saveFilter, h.loaded]
  show if _ then ∃ w', (addFilter now config filters name expression description >>= _) = _ ∧ _
    else ∃ failure, (addFilter now config filters name expression description >>= _) = _
  split at hadd
  · rename_i haccepts
    rw [if_pos haccepts]
    cases hadded : addFilter now config filters name expression description with
    | error failure =>
        rw [hadded] at hadd
        cases hadd
    | ok added =>
        rw [hadded] at hadd
        cases hadd
        obtain ⟨w', hstore⟩ := h.exists_storeFilters
          ((FilterCommand.save name expression description).update now filters)
        exact ⟨w', bind_ok_iff.2 ⟨_, rfl, bind_ok_iff.2 ⟨w', hstore, rfl⟩⟩, hstore⟩
  · rename_i haccepts
    rw [if_neg haccepts]
    cases hadded : addFilter now config filters name expression description with
    | error failure => exact ⟨failure, rfl⟩
    | ok added =>
        rw [hadded] at hadd
        cases hadd

/-- Removing asks whether the name is there, before it writes. -/
theorem comes_removeFilter (h : Keeps w filters) (name : String) :
    Comes w now filters (.remove name) (removeFilter w name) := by
  rw [Comes, removeFilter, h.loaded]
  cases hname : filters.get? name with
  | none =>
      rw [FilterCommand.accepts, if_neg (by simp [hname])]
      refine ⟨.noSuchFilter name, ?_⟩
      simp only [bind, Except.bind, hname]
      rfl
  | some f =>
      rw [FilterCommand.accepts, if_pos (by simp [hname])]
      obtain ⟨w', hstore⟩ := h.exists_storeFilters (filters.erase name)
      refine ⟨w', ?_, hstore⟩
      simp only [bind, Except.bind, hname, hstore]
      rfl

/-- What a command comes to: it succeeds, and has written the new filters unless they are the old
ones, or it fails and leaves the world as it was. -/
def Does (w : World) (now : Instant) (filters : SavedFilters) (c : FilterCommand)
    (outcome : Outcome) : Prop :=
  if c.accepts now filters then
    ∃ w', outcome = (.ok (c.prints filters), w') ∧
      (w' = w ∧ c.update now filters = filters ∨ storeFilters (c.update now filters) w = .ok w')
  else ∃ failure, outcome = (.error failure, w)

theorem Comes.does {c : FilterCommand} {result : Except Failure (String × World)}
    (h : Comes w now filters c result) : Does w now filters c (changing w result) := by
  rw [Comes] at h
  rw [Does]
  split at h
  · rename_i haccepts
    obtain ⟨w', rfl, hstore⟩ := h
    rw [if_pos haccepts]
    exact ⟨w', rfl, .inr hstore⟩
  · rename_i haccepts
    obtain ⟨failure, rfl⟩ := h
    rw [if_neg haccepts]
    exact ⟨failure, rfl⟩

/-- A command does to the filters in their file what it does to the map. -/
theorem does_run (h : Keeps w filters) (now : Instant) (c : FilterCommand)
    (hcommand : inv.command = some c.command) (hconfig : settingsFor inv w = .ok config) :
    Does w now filters c (run now inv w) := by
  have hvalid := validate_of_settingsFor hconfig
  have hrun : run now inv w = runCommand now config w (some c.command) := by
    rw [run, hconfig, hcommand]
  rw [hrun]
  cases c with
  | save name expression description =>
      exact (comes_saveFilter h hvalid name expression description).does
  | remove name => exact (comes_removeFilter h name).does
  | list =>
      rw [Does, FilterCommand.accepts, if_pos rfl]
      refine ⟨w, ?_, .inl ⟨rfl, rfl⟩⟩
      show (listFilters w, w) = _
      rw [listFilters, h.loaded]
      rfl

/-! ### Runs of commands -/

/-- A command about saved filters, with the time at which it is given and the options around it. -/
structure FilterCall where
  now : Instant
  config : Option String := none
  overrides : List String := []
  command : FilterCommand

/-- The invocation of the program that a call is. -/
def FilterCall.invocation (c : FilterCall) : Invocation :=
  { config := c.config, overrides := c.overrides, command := some c.command.command }

/-- The outcomes of commands that are given one after the other. -/
def runCalls : World → List FilterCall → List Outcome
  | _, [] => []
  | w, c :: rest => run c.now c.invocation w :: runCalls (run c.now c.invocation w).2 rest

/-- What a map of filters answers to a command, and the map after it. -/
inductive Answers (now : Instant) (before : SavedFilters) :
    FilterCommand → Except Failure String → SavedFilters → Prop
  | saved {name expression : String} {description : Option String} {after : SavedFilters}
      (hreads : (Query.filterOf (before.context now) expression).isOk = true)
      (hname : SavedFilter.isName name = true)
      (hafter : ∀ other, after.get? other =
        if other = name then some ⟨expression, description, now⟩ else before.get? other) :
      Answers now before (.save name expression description) (.ok ("Saved @" ++ name ++ "\n")) after
  | notSaved {name expression : String} {description : Option String} {failure : Failure}
      (hwrong : ¬((Query.filterOf (before.context now) expression).isOk = true ∧
        SavedFilter.isName name = true)) :
      Answers now before (.save name expression description) (.error failure) before
  | removed {name : String} {after : SavedFilters}
      (hthere : (before.get? name).isSome = true)
      (hafter : ∀ other, after.get? other = if other = name then none else before.get? other) :
      Answers now before (.remove name) (.ok ("Removed @" ++ name ++ "\n")) after
  | notRemoved {name : String} {failure : Failure} (hnone : before.get? name = none) :
      Answers now before (.remove name) (.error failure) before
  | listed {entries : List (String × SavedFilter)} {lines : List String}
      (hascending : entries.Pairwise fun a b => a.1 < b.1)
      (hentries : ∀ name f, (name, f) ∈ entries ↔ before.get? name = some f)
      (hlines : List.Forall₂ (fun entry line => ShowsFilter entry.1 entry.2 line) entries lines) :
      Answers now before .list (.ok (String.join lines)) before

/-- The outcomes are those of a map that starts with these filters, and in each world that they
leave the filters that are read are those of the map. -/
inductive Lasts : SavedFilters → List FilterCall → List Outcome → Prop
  | done {filters : SavedFilters} : Lasts filters [] []
  | step {before after : SavedFilters} {c : FilterCall} {result : Except Failure String}
      {w : World} {rest : List FilterCall} {outcomes : List Outcome}
      (hanswers : Answers c.now before c.command result after)
      (hloads : loadFilters w = .ok after)
      (hrest : Lasts after rest outcomes) : Lasts before (c :: rest) ((result, w) :: outcomes)

theorem answers_of_accepts {c : FilterCommand} (h : c.accepts now filters = true) :
    Answers now filters c (.ok (c.prints filters)) (c.update now filters) := by
  cases c with
  | save name expression description =>
      obtain ⟨hreads, hname⟩ := Bool.and_eq_true_iff.1 h
      exact .saved hreads hname fun other => SortedMap.get?_insert _ _ _ _
  | remove name => exact .removed h fun other => SortedMap.get?_erase _ _ _
  | list =>
      have hlines : List.Forall₂ (fun entry line => ShowsFilter entry.1 entry.2 line)
          filters.toList (filters.toList.map fun (name, f) => savedFilterLine name f) := by
        rw [List.forall₂_map_right_iff, List.forall₂_same]
        exact fun entry _ => showsFilter_savedFilterLine entry.1 entry.2
      exact .listed filters.ascending (fun name f => SortedMap.mem_toList_iff) hlines

theorem answers_of_not_accepts {c : FilterCommand} (h : ¬c.accepts now filters = true)
    (failure : Failure) : Answers now filters c (.error failure) filters := by
  cases c with
  | save name expression description =>
      exact .notSaved fun hboth => h (Bool.and_eq_true_iff.2 hboth)
  | remove name => exact .notRemoved (Option.not_isSome_iff_eq_none.1 h)
  | list => exact absurd rfl h

/-- **The saved filters of a command line are a map that lasts from one command to the next.**
Saving puts one filter in, with the time of the command, if it can be read with those before it and
its name is a word; removing takes one out if it is there; a listing shows those of the map, a line
for each; and nothing else changes, least of all through a command that fails. -/
theorem commands_keep_a_map (h : Keeps w filters) (calls : List FilterCall)
    (hcalls : ∀ c ∈ calls, c.now.isValid = true ∧ Configured w c.invocation) :
    Lasts filters calls (runCalls w calls) := by
  induction calls generalizing w filters with
  | nil => exact .done
  | cons c rest ih =>
      obtain ⟨hnow, config, hconfig, -⟩ := hcalls c List.mem_cons_self
      have hrest (d : FilterCall) (hd : d ∈ rest) := hcalls d (List.mem_cons_of_mem _ hd)
      have hdoes := does_run h c.now c.command rfl hconfig
      rw [runCalls]
      rw [Does] at hdoes
      by_cases haccepts : c.command.accepts c.now filters = true
      · rw [if_pos haccepts] at hdoes
        obtain ⟨w', hrun, hw'⟩ := hdoes
        rw [hrun]
        rcases hw' with ⟨rfl, hsame⟩ | hstore
        · have hanswers := answers_of_accepts haccepts
          rw [hsame] at hanswers
          exact .step hanswers h.loaded (ih h hrest)
        · have hdated := c.command.dated_update (dated_of_loadFilters h.loaded) hnow
          obtain ⟨hkeeps, hagain⟩ := keeps_of_storeFilters h.grounded hdated hstore
          refine .step (answers_of_accepts haccepts) hkeeps.loaded (ih hkeeps fun d hd => ?_)
          exact ⟨(hrest d hd).1, (hrest d hd).2.of_storeFilters hstore hagain⟩
      · rw [if_neg haccepts] at hdoes
        obtain ⟨failure, hrun⟩ := hdoes
        rw [hrun]
        exact .step (answers_of_not_accepts haccepts failure) h.loaded (ih h hrest)

/-! #### A user with no files yet -/

/-- A world with directories for settings and data that are still to be made. -/
def freshWorld : World where
  environment := .ofList [("XDG_CONFIG_HOME", "/settings"), ("XDG_DATA_HOME", "/data")]

/-- The files of that world after filters were stored. -/
def storedFiles (text : String) : Files where
  nodes := ((SortedMap.empty.insert "/data" .directory).insert "/data/notifscout" .directory).insert
    "/data/notifscout/filters.json" (.file text)

theorem save_freshWorld (text : String) :
    freshWorld.files.save "/data/notifscout/filters.json" text = .ok (storedFiles text) := rfl

theorem keeps_freshWorld : Keeps freshWorld .empty :=
  ⟨rfl, Files.standing_root _, .empty, _, rfl⟩

theorem configured_freshWorld (inv : Invocation) (hfile : inv.config = none)
    (hoverrides : inv.overrides = []) : Configured freshWorld inv := by
  refine ⟨{}, ?_, fun filters w' hstore => ?_⟩
  · rw [settingsFor, hfile, hoverrides]
    rfl
  · obtain ⟨path, files, hpath, hsave, rfl⟩ := storeFilters_ok_iff.1 hstore
    have hfilters : freshWorld.environment.storeFile? = some "/data/notifscout/filters.json" := rfl
    cases hfilters.symm.trans hpath
    cases (save_freshWorld _).symm.trans hsave
    have hconfig : freshWorld.environment.configFile? = some "/settings/notifscout/config.toml" :=
      rfl
    have habsent (text : String) :
        (storedFiles text).contains "/settings/notifscout/config.toml" = false := rfl
    have hload : loadConfig none { freshWorld with files := storedFiles filters.toText } =
        .ok {} := by
      simp only [loadConfig, hconfig, habsent, Bool.false_eq_true, if_false]
    rw [settingsFor, hfile, hoverrides, hload]
    rfl

/-- Commands that save, replace, refuse and remove. -/
def freshCalls : List FilterCall :=
  [⟨⟨0, 0⟩, none, [], .save "team" "is:unread" (some "What the team waits for")⟩,
    ⟨⟨1, 0⟩, none, [], .save "mine" "@team OR reason:mention" none⟩,
    ⟨⟨2, 0⟩, none, [], .save "team" "org:\"a\\b\"" none⟩,
    ⟨⟨3, 0⟩, none, [], .save "no name" "is:read" none⟩,
    ⟨⟨4, 0⟩, none, [], .remove "gone"⟩,
    ⟨⟨5, 0⟩, none, [], .remove "team"⟩,
    ⟨⟨6, 0⟩, none, [], .list⟩]

theorem commands_keep_a_map_fresh :
    Keeps freshWorld .empty ∧
      (∀ c ∈ freshCalls, c.now.isValid = true ∧ Configured freshWorld c.invocation) ∧
      Lasts .empty freshCalls (runCalls freshWorld freshCalls) := by
  have hcalls : ∀ c ∈ freshCalls, c.now.isValid = true ∧ Configured freshWorld c.invocation := by
    intro c hc
    have hplain : ∀ c ∈ freshCalls, c.now.isValid = true ∧ c.config = none ∧ c.overrides = [] := by
      decide
    obtain ⟨hnow, hfile, hoverrides⟩ := hplain c hc
    exact ⟨hnow, configured_freshWorld _ hfile hoverrides⟩
  exact ⟨keeps_freshWorld, hcalls, commands_keep_a_map keeps_freshWorld freshCalls hcalls⟩

end CommandLine

end Triage
