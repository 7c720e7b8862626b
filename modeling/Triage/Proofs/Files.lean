/-
What was written to a file is read from it.

Making directories and walking through them are two readings of one path.  The argument is that
making never removes a directory, and that it leads through nothing but directories: so a later
walk goes the same way, and making them again changes nothing.  Hence of two writes to one path the
second one alone counts.
-/
import Triage.Files
import Triage.Proofs.Except
import Triage.Proofs.SortedMap

namespace Triage

open Text

theorem SortedMap.insert_insert {α : Type} (m : SortedMap α) (key : String) (a b : α) :
    (m.insert key a).insert key b = m.insert key b := by
  refine ext_get? fun other => ?_
  by_cases h : other = key
  · simp [get?_insert, h]
  · simp [get?_insert, h]

theorem Text.partsFrom_append (sep : Char) (current cs ds : List Char) :
    partsFrom sep current (cs ++ sep :: ds) = partsFrom sep current cs ++ partsFrom sep [] ds := by
  induction cs generalizing current with
  | nil => simp [partsFrom]
  | cons c rest ih =>
      rw [List.cons_append, partsFrom, partsFrom]
      split
      · rw [ih, List.cons_append]
      · exact ih (c :: current)

namespace Files

variable {f f' g : Files} {here there route : Route} {names : List String} {node : FileNode}

/-! ### Directories -/

/-- What is a directory in one tree is one in the other. -/
def Keeps (f f' : Files) : Prop :=
  ∀ route, f.node? route = some .directory → f'.node? route = some .directory

theorem Keeps.refl (f : Files) : f.Keeps f := fun _ h => h

theorem Keeps.trans (h : f.Keeps f') (h' : f'.Keeps g) : f.Keeps g :=
  fun route hroute => h' route (h route hroute)

/-- The route and all routes to places above it lead to directories. -/
def Standing (f : Files) (route : Route) : Prop :=
  ∀ above, above <+: route → f.node? above = some .directory

theorem Standing.self (h : f.Standing route) : f.node? route = some .directory :=
  h route (List.prefix_refl route)

theorem Standing.keeps (h : f.Standing route) (hkeeps : f.Keeps f') : f'.Standing route :=
  fun above habove => hkeeps above (h above habove)

theorem Standing.dropLast (h : f.Standing route) : f.Standing route.dropLast :=
  fun above habove => h above (habove.trans (List.dropLast_prefix route))

theorem Standing.concat (h : f.Standing route) {name : String}
    (hnode : f.node? (route ++ [name]) = some .directory) : f.Standing (route ++ [name]) := by
  intro above habove
  rcases List.prefix_concat_iff.1 habove with rfl | habove
  · exact hnode
  · exact h above habove

theorem standing_root (f : Files) : f.Standing [] := by
  intro above habove
  rw [List.prefix_nil.1 habove, node?, if_pos rfl]

theorem node?_put (hne : route ≠ []) : (f.put route node).node? route = some node := by
  rw [node?, if_neg hne, put, SortedMap.get?_insert, if_pos rfl]

/-- Putting something in the place of what is no directory keeps all directories. -/
theorem keeps_put (hne : route ≠ []) (hroute : f.node? route ≠ some .directory) :
    f.Keeps (f.put route node) := by
  intro other hother
  by_cases hroot : other = []
  · rw [node?, if_pos hroot]
  · rw [node?, if_neg hroot] at hother ⊢
    rw [put, SortedMap.get?_insert]
    by_cases htext : Route.text other = Route.text route
    · rw [node?, if_neg hne, ← htext] at hroute
      exact absurd hother hroute
    · rw [if_neg htext]
      exact hother

/-! ### Making and walking -/

/-- Names that lead to a directory lead through nothing else. -/
theorem directory_of_walk (h : f.walk here names = .ok there)
    (hthere : f.node? there = some .directory) : f.node? here = some .directory := by
  cases names with
  | nil =>
      cases h
      exact hthere
  | cons name rest =>
      rw [walk] at h
      split at h
      · cases h
      · cases h
      · assumption

theorem walk_cons (hhere : f.node? here = some .directory) (name : String)
    (rest : List String) : f.walk here (name :: rest) =
      if name = "" ∨ name = "." then f.walk here rest
      else if name = ".." then f.walk here.dropLast rest
      else f.walk (here ++ [name]) rest := by
  rw [walk, hhere]

theorem walk_append (us vs : List String) :
    f.walk here (us ++ vs) = f.walk here us >>= (f.walk · vs) := by
  induction us generalizing here with
  | nil => rfl
  | cons name rest ih =>
      rw [List.cons_append, walk, walk]
      split
      · rfl
      · rfl
      · split
        · exact ih
        · split
          · exact ih
          · exact ih

/-- A walk asks for nothing but directories. -/
theorem walk_of_keeps (hkeeps : f.Keeps f') (h : f.walk here names = .ok there) :
    f'.walk here names = .ok there := by
  induction names generalizing here with
  | nil => exact h
  | cons name rest ih =>
      rw [walk] at h
      split at h
      · cases h
      · cases h
      · rename_i hhere
        rw [walk_cons (hkeeps here hhere)]
        split at h
        · rename_i hsame
          rw [if_pos hsame]
          exact ih h
        · rename_i hsame
          rw [if_neg hsame]
          split at h
          · rename_i habove
            rw [if_pos habove]
            exact ih h
          · rename_i habove
            rw [if_neg habove]
            exact ih h

/-- What came of making directories: they stand, the names lead to the last of them, and those that
were there before still are. -/
structure Made (f : Files) (here : Route) (names : List String) (f' : Files)
    (there : Route) : Prop where
  keeps : f.Keeps f'
  workingDirectory : f'.workingDirectory = f.workingDirectory
  standing : f'.Standing there
  leads : f'.walk here names = .ok there

/-- Directories that were made can be walked through. -/
theorem made_of_make (hstanding : f.Standing here) (h : f.make here names = .ok (f', there)) :
    Made f here names f' there := by
  induction names generalizing f here with
  | nil =>
      cases h
      exact ⟨.refl _, rfl, hstanding, rfl⟩
  | cons name rest ih =>
      rw [make] at h
      split at h
      · rename_i hsame
        have hmade := ih hstanding h
        refine { hmade with leads := ?_ }
        rw [walk_cons (hmade.keeps here hstanding.self), if_pos hsame, hmade.leads]
      · rename_i hsame
        split at h
        · rename_i habove
          have hmade := ih hstanding.dropLast h
          refine { hmade with leads := ?_ }
          rw [walk_cons (hmade.keeps here hstanding.self), if_neg hsame, if_pos habove, hmade.leads]
        · rename_i habove
          have hne : here ++ [name] ≠ [] := List.append_ne_nil_of_right_ne_nil _ (List.cons_ne_nil _ _)
          simp only at h
          split at h
          · rename_i hnone
            have hkeeps : f.Keeps (f.put (here ++ [name]) .directory) :=
              keeps_put hne (by rw [hnone]; exact nofun)
            have hmade := ih ((hstanding.keeps hkeeps).concat (node?_put hne)) h
            refine ⟨hkeeps.trans hmade.keeps, hmade.workingDirectory, hmade.standing, ?_⟩
            rw [walk_cons (hmade.keeps here (hkeeps here hstanding.self)), if_neg hsame,
              if_neg habove, hmade.leads]
          · rename_i hdirectory
            have hmade := ih (hstanding.concat hdirectory) h
            refine { hmade with leads := ?_ }
            rw [walk_cons (hmade.keeps here hstanding.self), if_neg hsame, if_neg habove,
              hmade.leads]
          · cases h

/-- Where names lead to a directory there is nothing left to make. -/
theorem make_of_walk (h : f.walk here names = .ok there)
    (hthere : f.node? there = some .directory) : f.make here names = .ok (f, there) := by
  induction names generalizing here with
  | nil =>
      cases h
      rfl
  | cons name rest ih =>
      rw [walk_cons (directory_of_walk h hthere)] at h
      rw [make]
      split at h
      · rename_i hsame
        rw [if_pos hsame]
        exact ih h
      · rename_i hsame
        rw [if_neg hsame]
        split at h
        · rename_i habove
          rw [if_pos habove]
          exact ih h
        · rename_i habove
          simp only [if_neg habove, directory_of_walk h hthere]
          exact ih h

/-! ### What was there before -/

/-- Something new leaves all else in its place. -/
theorem node?_of_put {other : Route} {old : FileNode} (hnew : f.node? route = none)
    (h : f.node? other = some old) : (f.put route node).node? other = some old := by
  rw [node?] at h ⊢
  split at h
  · rename_i hroot
    rw [if_pos hroot]
    exact h
  · rename_i hroot
    have htext : Route.text other ≠ Route.text route := by
      intro htext
      rw [node?] at hnew
      split at hnew
      · cases hnew
      · rw [← htext, h] at hnew
        cases hnew
    rw [if_neg hroot, put, SortedMap.get?_insert, if_neg htext]
    exact h

/-- Making directories leaves everything in its place. -/
theorem node?_of_make {old : FileNode} (hmake : f.make here names = .ok (f', there))
    (h : f.node? route = some old) : f'.node? route = some old := by
  induction names generalizing f here with
  | nil =>
      cases hmake
      exact h
  | cons name rest ih =>
      rw [make] at hmake
      split at hmake
      · exact ih hmake h
      · split at hmake
        · exact ih hmake h
        · simp only at hmake
          split at hmake
          · rename_i hnew
            exact ih hmake (node?_of_put hnew h)
          · exact ih hmake h
          · cases hmake

theorem workingDirectory_of_make (hmake : f.make here names = .ok (f', there)) :
    f'.workingDirectory = f.workingDirectory := by
  induction names generalizing f here with
  | nil =>
      cases hmake
      rfl
  | cons name rest ih =>
      rw [make] at hmake
      split at hmake
      · exact ih hmake
      · split at hmake
        · exact ih hmake
        · simp only at hmake
          split at hmake
          · have hput := ih hmake
            exact hput
          · exact ih hmake
          · cases hmake

/-- A file is read as before when directories were made. -/
theorem read_of_make {path text : String} (hmake : f.make here names = .ok (f', there))
    (h : f.read path = .ok text) : f'.read path = .ok text := by
  obtain ⟨found, hroute, hfound⟩ := bind_ok_iff.1 h
  have hroute' : f'.route path = .ok found := by
    rw [Files.route] at hroute ⊢
    split at hroute
    · cases hroute
    · rename_i hpath
      rw [if_neg hpath, start, workingDirectory_of_make hmake]
      exact walk_of_keeps (fun _ => node?_of_make hmake) hroute
  refine bind_ok_iff.2 ⟨found, hroute', ?_⟩
  split at hfound
  · cases hfound
  · cases hfound
  · rename_i hnode
    rw [node?_of_make hmake hnode]
    exact hfound

/-! ### Writing and reading -/

/-- The last name of a path. -/
def lastName (path : String) : String := (split '/' path).getLastD ""

/-- The path ends with the name of something in a directory. -/
def IsNamed (path : String) : Prop :=
  lastName path ≠ "" ∧ lastName path ≠ "." ∧ lastName path ≠ ".."

/-- A path that goes on below a directory ends with what stands below it. -/
theorem lastName_of_below {path : String} {above : List Char} {name : String}
    (hpath : path.toList = above ++ '/' :: name.toList) : lastName path = lastName name := by
  have hne : partsFrom '/' [] name.toList ≠ [] := partsFrom_ne_nil _ _ _
  rw [lastName, lastName, split, split, hpath, partsFrom_append, List.map_append,
    List.getLastD_eq_getLast?, List.getLastD_eq_getLast?,
    List.getLast?_append_of_ne_nil _ (by simpa using hne)]

theorem split_eq (path : String) : split '/' path = (split '/' path).dropLast ++ [lastName path] := by
  have hne : split '/' path ≠ [] := by
    rw [split]
    simpa using partsFrom_ne_nil '/' [] path.toList
  rw [lastName, List.getLastD_eq_getLast?, List.getLast?_eq_some_getLast hne, Option.getD_some,
    List.dropLast_append_getLast]

/-- What a write amounts to: the directories are made, and a file is put at the end. -/
theorem save_ok_iff {path text : String} : f.save path text = .ok f' ↔
    ∃ g there, f.make (f.start path) (split '/' path).dropLast = .ok (g, there) ∧
      g.node? (there ++ [lastName path]) ≠ some .directory ∧
      f' = g.put (there ++ [lastName path]) (.file text) := by
  rw [save]
  refine bind_ok_iff.trans ⟨?_, ?_⟩
  · rintro ⟨⟨g, there⟩, hmake, h⟩
    simp only at h
    split at h
    · cases h
    · rename_i hnode
      cases h
      exact ⟨g, there, hmake, hnode, rfl⟩
  · rintro ⟨g, there, hmake, hnode, rfl⟩
    exact ⟨(g, there), hmake, if_neg hnode⟩

/-- The working directory is there. -/
def Grounded (f : Files) : Prop := f.Standing f.workingDirectory

theorem Grounded.start (h : f.Grounded) (path : String) : f.Standing (f.start path) := by
  rw [Files.start]
  split
  · exact standing_root f
  · exact h

/-- How a tree looks after a write. -/
structure Written (f : Files) (path text : String) (f' : Files) : Prop where
  grounded : f'.Grounded
  reads : IsNamed path → f'.contains path = true ∧ f'.read path = .ok text
  again : ∀ text', f'.save path text' = f.save path text'

/-- **What was written is read**, and of two writes the second one alone counts. -/
theorem written_of_save {path text : String} (hground : f.Grounded)
    (h : f.save path text = .ok f') : Written f path text f' := by
  obtain ⟨g, there, hmake, hnode, rfl⟩ := save_ok_iff.1 h
  have hmade := made_of_make (hground.start path) hmake
  have hne : there ++ [lastName path] ≠ [] :=
    List.append_ne_nil_of_right_ne_nil _ (List.cons_ne_nil _ _)
  have hkeeps : g.Keeps (g.put (there ++ [lastName path]) (.file text)) := keeps_put hne hnode
  have hworking : (g.put (there ++ [lastName path]) (.file text)).workingDirectory =
      f.workingDirectory := hmade.workingDirectory
  have hstart : (g.put (there ++ [lastName path]) (.file text)).start path = f.start path := by
    rw [Files.start, Files.start, hworking]
  have hwalk := walk_of_keeps hkeeps hmade.leads
  refine ⟨?_, fun hname => ?_, fun text' => ?_⟩
  · rw [Grounded, hworking]
    exact Standing.keeps hground (hmade.keeps.trans hkeeps)
  · have hpath : path ≠ "" := by
      rintro rfl
      exact hname.1 rfl
    have hroute : (g.put (there ++ [lastName path]) (.file text)).route path =
        .ok (there ++ [lastName path]) := by
      rw [Files.route, if_neg hpath, hstart, split_eq, walk_append, hwalk]
      show walk _ there [lastName path] = _
      rw [walk_cons (hkeeps _ hmade.standing.self), if_neg (by simp [hname.1, hname.2.1]),
        if_neg hname.2.2]
      rfl
    constructor
    · rw [contains, hroute]
      simp [node?_put hne]
    · rw [read, hroute]
      simp [bind, Except.bind, node?_put hne]
  · have hagain : (g.put (there ++ [lastName path]) (.file text)).save path text' =
        .ok ((g.put (there ++ [lastName path]) (.file text)).put (there ++ [lastName path])
          (.file text')) := by
      refine save_ok_iff.2 ⟨_, there, ?_, ?_, rfl⟩
      · rw [hstart]
        exact make_of_walk hwalk (hkeeps _ hmade.standing.self)
      · rw [node?_put hne]
        exact nofun
    rw [hagain, save_ok_iff.2 ⟨g, there, hmake, hnode, rfl⟩, put, put, put,
      SortedMap.insert_insert]

end Files

end Triage
