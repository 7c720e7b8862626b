/-
The lines of a settings file are read back as they were written.

Reading goes line by line, and each line takes a character at least; so a bound on the number of
lines that is as long as the text is never reached.  What a text is read as is therefore stated for
all bounds that are long enough, and lines are put in front of it one at a time.
-/
import Triage.Proofs.Toml.Values

namespace Triage.Toml

variable {cs rest : List Char} {found : List Line}

/-! ### Keys -/

theorem starts_key (name : String) : Starts (key name) := by
  unfold key
  dsimp only
  split
  · rename_i h
    obtain ⟨hne, hbare⟩ := Bool.and_eq_true_iff.1 h
    cases hcs : name.toList with
    | nil => simp [hcs] at hne
    | cons c more =>
        have hc := List.all_eq_true.1 hbare c (by simp [hcs])
        exact ⟨c, more, rfl, .inr (.inr (by simp [isWordChar, hc]))⟩
  · unfold Style.ofKey
    dsimp only
    split
    · exact ⟨_, _, rfl, .inl rfl⟩
    · split
      · exact ⟨_, _, rfl, .inr (.inl rfl)⟩
      · exact ⟨_, _, rfl, .inl rfl⟩

/-- What follows a key is no character of one. -/
def EndsKey (cs : List Char) : Prop := ∀ c, cs.head? = some c → isBareKeyChar c = false

theorem readKey_key (hrest : EndsKey rest) (name : String) :
    readKey (key name ++ rest) = some (name, rest) := by
  unfold key
  dsimp only
  split
  · rename_i h
    obtain ⟨hne, hbare⟩ := Bool.and_eq_true_iff.1 h
    have hshort : readShort? (name.toList ++ rest) = none := by
      cases hcs : name.toList with
      | nil => simp [hcs] at hne
      | cons c more =>
          have hc := List.all_eq_true.1 hbare c (by simp [hcs])
          rw [List.cons_append, readShort?]
          · intro _ heq
            cases heq
            cases hc
          · intro _ heq
            cases heq
            cases hc
    have htake : (name.toList ++ rest).takeWhile isBareKeyChar = name.toList := by
      rw [List.takeWhile_append_of_pos (List.all_eq_true.1 hbare)]
      cases rest with
      | nil => simp
      | cons c more => simp [hrest c rfl]
    rw [readKey, hshort]
    simp only [htake, List.drop_left, String.ofList_toList]
    rw [if_neg (by simpa using hne)]
  · rw [readKey, readShort?_ofKey, String.ofList_toList]

/-- The parts of a dotted key are read up to what is no point. -/
theorem readParts_keys (hrest : EndsKey rest) (hdot : Unlike '.' (skipSpaces rest))
    {path : List String} (hne : path ≠ []) {fuel : Nat} (hfuel : path.length ≤ fuel) :
    readParts fuel (List.intercalate ['.'] (path.map key) ++ rest) =
      some (path, skipSpaces rest) := by
  induction path generalizing fuel with
  | nil => exact absurd rfl hne
  | cons name path ih =>
      obtain ⟨fuel, rfl⟩ := Nat.exists_eq_succ_of_ne_zero (Nat.ne_zero_of_lt hfuel)
      have hstart (cs : List Char) : skipSpaces (key name ++ cs) = key name ++ cs :=
        skipSpaces_of_isSolid ((starts_key name).isSolid cs)
      cases path with
      | nil =>
          rw [List.map_singleton, List.intercalate_singleton, readParts, hstart,
            readKey_key hrest, Option.bind_eq_bind, Option.bind_some]
          dsimp only
          split
          · rename_i heq
            exact absurd (by rw [heq]; rfl) hdot
          · rfl
      | cons next path =>
          have hends : EndsKey ('.' :: (List.intercalate ['.'] ((next :: path).map key) ++ rest)) := by
            intro c hc
            cases hc
            rfl
          have hmore := ih (List.cons_ne_nil _ _) (Nat.le_of_succ_le_succ hfuel)
          rw [List.map_cons, List.map_cons, List.intercalate_cons_cons, ← List.map_cons,
            List.append_assoc, List.append_assoc, readParts, hstart, List.singleton_append,
            readKey_key hends, Option.bind_eq_bind, Option.bind_some]
          show (readParts fuel _).bind _ = _
          rw [hmore]
          rfl

/-! ### Lines -/

theorem exists_intercalate (separator first : List Char) (others : List (List Char)) :
    ∃ tail, List.intercalate separator (first :: others) = first ++ tail := by
  cases others with
  | nil => exact ⟨[], by rw [List.intercalate_singleton, List.append_nil]⟩
  | cons next others =>
      exact ⟨_, by rw [List.intercalate_cons_cons, List.append_assoc]⟩

theorem isSolid_header (path : List String) : IsSolid (header path ++ rest) :=
  ⟨_, _, rfl, by decide, by decide, by decide, by decide⟩

theorem unlike_bracket_key (name : String) (cs : List Char) : Unlike '[' (key name ++ cs) := by
  obtain ⟨c, more, heq, hc⟩ := starts_key name
  rw [heq]
  rintro hbracket
  cases hbracket
  revert hc
  decide

theorem readLine_header {path : List String} (hne : path ≠ []) (hlength : path.length ≤ longestPath)
    (rest : List Char) : readLine (header path ++ rest) = some (.header path, rest) := by
  have hwritten : header path ++ rest =
      '[' :: (List.intercalate ['.'] (path.map key) ++ ']' :: '\n' :: rest) := by
    simp [header]
  have hpath : readPath (List.intercalate ['.'] (path.map key) ++ ']' :: '\n' :: rest) =
      some (path, ']' :: '\n' :: rest) := by
    refine readParts_keys ?_ ?_ hne hlength
    · rintro _ heq
      cases heq
      rfl
    · exact nofun
  have hunlike : Unlike '[' (List.intercalate ['.'] (path.map key) ++ ']' :: '\n' :: rest) := by
    cases path with
    | nil => exact absurd rfl hne
    | cons name path =>
        obtain ⟨tail, htail⟩ := exists_intercalate ['.'] (key name) (path.map key)
        rw [List.map_cons, htail, List.append_assoc]
        exact unlike_bracket_key name _
  rw [hwritten, readLine, hpath, Option.bind_eq_bind, Option.bind_some]
  · rfl
  · intro _ heq
    exact hunlike (congrArg List.head? heq)

/-- An entry on its line. -/
def entry (name : String) (setting : Setting) : List Char :=
  key name ++ [' ', '=', ' '] ++ setting.write ++ ['\n']

theorem isSolid_setting {setting : Setting} (h : setting.Readable) (rest : List Char) :
    IsSolid (setting.write ++ rest) := by
  have hbracket (cs : List Char) : IsSolid ('[' :: cs) :=
    ⟨_, _, rfl, by decide, by decide, by decide, by decide⟩
  match setting with
  | .one value => exact (value.starts_write h).isSolid rest
  | .many [] => exact hbracket _
  | .many [value] => exact hbracket _
  | .many (first :: second :: others) => exact hbracket _

theorem readLine_entry (name : String) {setting : Setting} (h : setting.Readable)
    (rest : List Char) : readLine (entry name setting ++ rest) =
      some (.entry [name] setting.toToml, rest) := by
  have hwritten : entry name setting ++ rest =
      key name ++ ' ' :: '=' :: ' ' :: (setting.write ++ '\n' :: rest) := by
    simp [entry]
  have hpath : readPath (key name ++ ' ' :: '=' :: ' ' :: (setting.write ++ '\n' :: rest)) =
      some ([name], '=' :: ' ' :: (setting.write ++ '\n' :: rest)) := by
    have hends : EndsKey (' ' :: '=' :: ' ' :: (setting.write ++ '\n' :: rest)) := by
      rintro _ heq
      cases heq
      rfl
    have hparts := readParts_keys hends nofun (List.cons_ne_nil name [])
      (show [name].length ≤ longestPath from Nat.le_add_left 1 _)
    rwa [List.map_singleton, List.intercalate_singleton] at hparts
  have hvalue : readValue deepest (setting.write ++ '\n' :: rest) =
      some (setting.toToml, '\n' :: rest) := readValue_setting h _ ⟨_, _, rfl, .inl rfl⟩
  have hpair : readPair (readValue deepest)
      (key name ++ ' ' :: '=' :: ' ' :: (setting.write ++ '\n' :: rest)) =
        some (([name], setting.toToml), '\n' :: rest) := by
    have hspaces : skipSpaces (' ' :: (setting.write ++ '\n' :: rest)) =
        setting.write ++ '\n' :: rest := skipSpaces_of_isSolid (isSolid_setting h _)
    rw [readPair, hpath, Option.bind_eq_bind, Option.bind_some]
    show ((readValue deepest (skipSpaces (' ' :: _))).bind _) = _
    rw [hspaces, hvalue]
    rfl
  have hunlike := unlike_bracket_key name (' ' :: '=' :: ' ' :: (setting.write ++ '\n' :: rest))
  rw [hwritten, readLine, hpair, Option.bind_eq_bind, Option.bind_some]
  · rfl
  all_goals
    intro _ heq
    exact hunlike (congrArg List.head? heq)

/-! ### Files -/

/-- The text is read as lines, whatever bound on their number there is, if it is long enough. -/
def ReadAs (cs : List Char) (lines : List Line) : Prop :=
  ∀ fuel, cs.length < fuel → readLines fuel cs = some lines

theorem readAs_nil : ReadAs [] [] := by
  intro fuel hfuel
  obtain ⟨fuel, rfl⟩ := Nat.exists_eq_succ_of_ne_zero (Nat.ne_zero_of_lt hfuel)
  rfl

theorem ReadAs.break (h : ReadAs cs found) : ReadAs ('\n' :: cs) found := by
  intro fuel hfuel
  have hcs := h fuel (Nat.lt_of_succ_lt hfuel)
  obtain ⟨fuel, rfl⟩ := Nat.exists_eq_succ_of_ne_zero (Nat.ne_zero_of_lt hfuel)
  rw [readLines] at hcs ⊢
  rw [skipGaps_break]
  exact hcs

theorem ReadAs.line (h : ReadAs cs found) {written : List Char} {line : Line}
    (hsolid : IsSolid (written ++ cs)) (hne : written ≠ [])
    (hread : readLine (written ++ cs) = some (line, cs)) :
    ReadAs (written ++ cs) (line :: found) := by
  intro fuel hfuel
  obtain ⟨fuel, rfl⟩ := Nat.exists_eq_succ_of_ne_zero (Nat.ne_zero_of_lt hfuel)
  have hlength := List.length_pos_iff.2 hne
  rw [List.length_append] at hfuel
  have hlines := h fuel (by omega)
  rw [readLines, skipGaps_of_isSolid hsolid]
  obtain ⟨c, more, heq, -, hcomment, -⟩ := hsolid
  rw [heq] at hread ⊢
  split
  · rename_i hnil
    cases hnil
  · rename_i hhash
    cases hhash
    exact absurd rfl hcomment
  · rw [hread, Option.bind_eq_bind, Option.bind_some]
    show (readLines fuel cs).bind _ = _
    rw [hlines]
    rfl

namespace Section

/-- The lines of a section. -/
def lines (s : Section) : List Line :=
  .header s.path :: s.settings.map fun (name, setting) => .entry [name] setting.toToml

/-- The reader takes the text of a section for that section. -/
structure Readable (s : Section) : Prop where
  ne_nil : s.path ≠ []
  short : s.path.length ≤ longestPath
  settings : ∀ e ∈ s.settings, e.2.Readable

end Section

theorem ReadAs.entries {settings : List (String × Setting)}
    (hsettings : ∀ e ∈ settings, e.2.Readable) (h : ReadAs cs found) :
    ReadAs ((settings.flatMap fun e => entry e.1 e.2) ++ cs)
      ((settings.map fun (name, setting) => .entry [name] setting.toToml) ++ found) := by
  induction settings with
  | nil => exact h
  | cons e settings ih =>
      have hrest := ih fun e he => hsettings e (List.mem_cons_of_mem _ he)
      have hsolid (cs : List Char) : IsSolid (entry e.1 e.2 ++ cs) := by
        rw [entry, List.append_assoc, List.append_assoc, List.append_assoc]
        exact (starts_key e.1).isSolid _
      have hne : entry e.1 e.2 ≠ [] := by simp [entry]
      rw [List.flatMap_cons, List.append_assoc]
      exact hrest.line (hsolid _) hne (readLine_entry e.1 (hsettings e List.mem_cons_self) _)

theorem ReadAs.section {s : Section} (hs : s.Readable) (h : ReadAs cs found) :
    ReadAs (s.write ++ cs) (s.lines ++ found) := by
  have hwritten : s.write ++ cs =
      header s.path ++ ((s.settings.flatMap fun e => entry e.1 e.2) ++ cs) := by
    rw [Section.write, List.append_assoc]
    rfl
  rw [hwritten]
  exact (h.entries hs.settings).line (isSolid_header _) (List.cons_ne_nil _ _)
    (readLine_header hs.ne_nil hs.short _)

theorem readAs_sections {sections : List Section} (h : ∀ s ∈ sections, s.Readable) :
    ReadAs (List.intercalate ['\n'] (sections.map Section.write))
      (sections.flatMap Section.lines) := by
  induction sections with
  | nil => exact readAs_nil
  | cons s sections ih =>
      have hs := h s List.mem_cons_self
      have hrest := ih fun s hs => h s (List.mem_cons_of_mem _ hs)
      cases sections with
      | nil =>
          have hwritten := readAs_nil.section hs
          rw [List.append_nil] at hwritten
          rw [List.map_singleton, List.intercalate_singleton]
          exact hwritten
      | cons next sections =>
          rw [List.map_cons, List.map_cons, List.intercalate_cons_cons, ← List.map_cons,
            List.append_assoc, List.flatMap_cons]
          exact hrest.break.section hs

/-- **A settings file is read as the lines that were written.** -/
theorem read?_write {sections : List Section} (h : ∀ s ∈ sections, s.Readable) :
    read? (write sections) = ofLines (sections.flatMap Section.lines) := by
  have hmark : dropMark (List.intercalate ['\n'] (sections.map Section.write)) =
      List.intercalate ['\n'] (sections.map Section.write) := by
    cases sections with
    | nil => rfl
    | cons s sections =>
        obtain ⟨tail, htail⟩ := exists_intercalate ['\n'] s.write (sections.map Section.write)
        rw [List.map_cons, htail]
        rfl
  rw [read?, write, String.toList_ofList, hmark, readAs_sections h _ (Nat.lt_succ_self _),
    Option.bind_some]

end Triage.Toml
