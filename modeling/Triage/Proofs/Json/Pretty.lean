/-
Values of JSON are read back from their indented text.

The indented layout differs from the compact one in blanks only, and the reader skips blanks where
the layout puts them: before an item or a member, before what closes a list, and after a colon.  So
the argument is that of `Proofs/Json/Values.lean` once more, with the start of a line in these
places.
-/
import Mathlib.Data.List.DropRight
import Triage.Proofs.Json.Values

namespace Triage.Json

variable {cs rest : List Char} {j : Json} {fuel level : Nat}

/-! ### Blanks -/

theorem lineStart_append (level : Nat) (cs : List Char) :
    lineStart level ++ cs = '\n' :: (List.replicate (2 * level) ' ' ++ cs) := rfl

theorem skipBlanks_replicate (n : Nat) (cs : List Char) :
    skipBlanks (List.replicate n ' ' ++ cs) = skipBlanks cs := by
  induction n with
  | zero => rfl
  | succ n ih =>
      rw [List.replicate_succ, List.cons_append, skipBlanks, List.dropWhile_cons_of_pos (by decide)]
      exact ih

@[simp] theorem skipBlanks_lineStart (level : Nat) (cs : List Char) :
    skipBlanks (lineStart level ++ cs) = skipBlanks cs := by
  rw [lineStart_append, skipBlanks, List.dropWhile_cons_of_pos (by decide)]
  exact skipBlanks_replicate _ cs

theorem skipBlanks_quoted (level : Nat) (cs : List Char) :
    skipBlanks (lineStart level ++ '"' :: cs) = '"' :: cs := by
  rw [skipBlanks_lineStart, skipBlanks_cons (by decide)]

theorem skipBlanks_skipBlanks (cs : List Char) : skipBlanks (skipBlanks cs) = skipBlanks cs :=
  List.dropWhile_idempotent _ cs

/-- A reader of values does not see blanks before them. -/
theorem readValue_of_skipBlanks_eq {cs' : List Char} (h : skipBlanks cs = skipBlanks cs') :
    readValue fuel cs = readValue fuel cs' := by
  cases fuel with
  | zero => rfl
  | succ fuel => rw [readValue, readValue, h]

theorem readValue_lineStart (level : Nat) (cs : List Char) :
    readValue fuel (lineStart level ++ cs) = readValue fuel cs :=
  readValue_of_skipBlanks_eq (skipBlanks_lineStart level cs)

theorem readValue_space (cs : List Char) : readValue fuel (' ' :: cs) = readValue fuel cs :=
  readValue_of_skipBlanks_eq (List.dropWhile_cons_of_pos (by decide))

theorem readItems_skipBlanks {items : List Json} :
    readItems fuel items (skipBlanks cs) = readItems fuel items cs := by
  cases fuel with
  | zero => rfl
  | succ fuel =>
      rw [readItems, readItems, readValue_of_skipBlanks_eq (skipBlanks_skipBlanks cs)]

theorem readMembers_skipBlanks {members : List (Option String × Json)} :
    readMembers fuel members (skipBlanks cs) = readMembers fuel members cs := by
  cases fuel with
  | zero => rfl
  | succ fuel => rw [readMembers, readMembers, skipBlanks_skipBlanks]

theorem delimited_lineStart (level : Nat) (cs : List Char) : Delimited (lineStart level ++ cs) :=
  .cons (by decide) _

/-! ### The layout -/

/-- The text of a value starts with what tells its kind. -/
theorem head_prettyChars (h : j.Writable) (level : Nat) :
    ∃ c tail, j.prettyChars level = c :: tail ∧ isBlank c = false ∧ c ≠ ']' ∧ c ≠ '}' := by
  cases j with
  | null | bool _ | number _ | string _ => exact head_compactChars h
  | array items => cases items <;> exact ⟨_, _, rfl, rfl, by decide, by decide⟩
  | object members => cases members <;> exact ⟨_, _, rfl, rfl, by decide, by decide⟩

theorem length_prettyChars_pos (h : j.Writable) (level : Nat) :
    0 < (j.prettyChars level).length := by
  obtain ⟨c, tail, heq, -⟩ := head_prettyChars h level
  simp [heq]

theorem prettyChars_array {items : List Json} (hne : items ≠ []) (level : Nat) (rest : List Char) :
    (array items).prettyChars level ++ rest =
      '[' :: (prettyItems (level + 1) items ++ (lineStart level ++ ']' :: rest)) := by
  cases items with
  | nil => exact absurd rfl hne
  | cons item items => simp [prettyChars]

theorem prettyChars_object {members : List (Option String × Json)} (hne : members ≠ [])
    (level : Nat) (rest : List Char) :
    (object members).prettyChars level ++ rest =
      '{' :: (prettyMembers (level + 1) members ++ (lineStart level ++ '}' :: rest)) := by
  cases members with
  | nil => exact absurd rfl hne
  | cons member members => simp [prettyChars]

theorem prettyItems_singleton (level : Nat) (item : Json) (rest : List Char) :
    prettyItems level [item] ++ rest = lineStart level ++ (item.prettyChars level ++ rest) := by
  simp [prettyItems]

theorem prettyItems_cons_cons (level : Nat) (item next : Json) (items : List Json)
    (rest : List Char) : prettyItems level (item :: next :: items) ++ rest =
      lineStart level ++ (item.prettyChars level ++
        ',' :: (prettyItems level (next :: items) ++ rest)) := by
  rw [prettyItems]
  · simp
  · simp

theorem prettyMembers_singleton (level : Nat) (name : Option String) (value : Json)
    (rest : List Char) : prettyMembers level [(name, value)] ++ rest =
      lineStart level ++ (quotedContent name ++ ':' :: ' ' :: (value.prettyChars level ++ rest)) := by
  simp [prettyMembers]

theorem prettyMembers_cons_cons (level : Nat) (name : Option String) (value : Json)
    (next : Option String × Json) (members : List (Option String × Json)) (rest : List Char) :
    prettyMembers level ((name, value) :: next :: members) ++ rest =
      lineStart level ++ (quotedContent name ++ ':' :: ' ' :: (value.prettyChars level ++
        ',' :: (prettyMembers level (next :: members) ++ rest))) := by
  rw [prettyMembers]
  · simp
  · simp

/-- The items of an array start with a line that does not close it. -/
theorem head_prettyItems {items : List Json} (h : WritableItems items) (hne : items ≠ [])
    (level : Nat) (rest : List Char) :
    (skipBlanks (prettyItems level items ++ rest)).head? ≠ some ']' := by
  match items with
  | [] => exact absurd rfl hne
  | item :: items =>
      obtain ⟨c, tail, heq, hblank, hclose, -⟩ := head_prettyChars h.1 level
      have hstart : ∃ more, prettyItems level (item :: items) ++ rest =
          lineStart level ++ (c :: more) := by
        cases items with
        | nil => exact ⟨_, by rw [prettyItems_singleton, heq]; rfl⟩
        | cons next items => exact ⟨_, by rw [prettyItems_cons_cons, heq]; rfl⟩
      obtain ⟨more, hmore⟩ := hstart
      rw [hmore, skipBlanks_lineStart, skipBlanks_cons hblank]
      exact fun hc => hclose (Option.some.inj hc)

/-- The members of an object start with a line that does not close it. -/
theorem head_prettyMembers {members : List (Option String × Json)} (hne : members ≠ [])
    (level : Nat) (rest : List Char) :
    (skipBlanks (prettyMembers level members ++ rest)).head? ≠ some '}' := by
  match members with
  | [] => exact absurd rfl hne
  | (name, value) :: members =>
      have hstart : ∃ more, prettyMembers level ((name, value) :: members) ++ rest =
          lineStart level ++ ('"' :: more) := by
        cases members with
        | nil => exact ⟨_, prettyMembers_singleton level name value rest⟩
        | cons next members => exact ⟨_, prettyMembers_cons_cons level name value next members rest⟩
      obtain ⟨more, hmore⟩ := hstart
      rw [hmore, skipBlanks_lineStart, skipBlanks_cons (by decide)]
      simp

theorem length_prettyItems_pos {items : List Json} (hne : items ≠ []) (level : Nat) :
    0 < (prettyItems level items).length := by
  match items with
  | [] => exact absurd rfl hne
  | [_] | _ :: _ :: _ => simp [prettyItems, lineStart]

theorem length_prettyMembers_pos {members : List (Option String × Json)} (hne : members ≠ [])
    (level : Nat) : 0 < (prettyMembers level members).length := by
  match members with
  | [] => exact absurd rfl hne
  | [_] | _ :: _ :: _ => simp [prettyMembers, lineStart]

/-! ### Reading it back -/

mutual

/-- A value is read back from its indented text, with twice as many steps as characters. -/
theorem readValue_pretty : (j : Json) → j.Writable → ∀ {fuel level : Nat} {rest : List Char},
    2 * (j.prettyChars level).length ≤ fuel + 1 → Delimited rest →
      readValue fuel (j.prettyChars level ++ rest) = some (j, rest)
  | j, h, 0, level, rest, hfuel, _ => by
      have := length_prettyChars_pos h level
      omega
  | null, h, fuel + 1, _, rest, hfuel, hrest => readValue_compact null h hfuel hrest
  | bool value, h, fuel + 1, _, rest, hfuel, hrest => readValue_compact (bool value) h hfuel hrest
  | number text, h, fuel + 1, _, rest, hfuel, hrest =>
      readValue_compact (number text) h hfuel hrest
  | string content, h, fuel + 1, _, rest, hfuel, hrest =>
      readValue_compact (string content) h hfuel hrest
  | array [], _, fuel + 1, _, rest, _, _ => rfl
  | array (item :: items), h, fuel + 1, level, rest, hfuel, _ => by
      have hne : item :: items ≠ [] := List.cons_ne_nil _ _
      have hlength := congrArg List.length (prettyChars_array hne level [])
      simp only [List.length_append, List.length_cons, List.length_nil] at hlength
      rw [readValue_succ, prettyChars_array hne, skipBlanks_cons (by decide)]
      have hread := @readItems_pretty (item :: items) h hne fuel (level + 1) level [] rest (by omega)
      rw [← readItems_skipBlanks] at hread
      exact .array (head_prettyItems h hne _ _) hread
  | object [], _, fuel + 1, _, rest, _, _ => rfl
  | object (member :: members), h, fuel + 1, level, rest, hfuel, _ => by
      have hne : member :: members ≠ [] := List.cons_ne_nil _ _
      have hlength := congrArg List.length (prettyChars_object hne level [])
      simp only [List.length_append, List.length_cons, List.length_nil] at hlength
      rw [readValue_succ, prettyChars_object hne, skipBlanks_cons (by decide)]
      have hread :=
        @readMembers_pretty (member :: members) h hne fuel (level + 1) level [] rest (by omega)
      rw [← readMembers_skipBlanks] at hread
      exact .object (head_prettyMembers hne _ _) hread

theorem readItems_pretty : (items : List Json) → WritableItems items → items ≠ [] →
    ∀ {fuel level closing : Nat} {seen : List Json} {rest : List Char},
      2 * (prettyItems level items).length ≤ fuel →
        readItems fuel seen (prettyItems level items ++ (lineStart closing ++ ']' :: rest)) =
          some (.array (seen.reverse ++ items), rest)
  | [], _, hne, _, _, _, _, _, _ => absurd rfl hne
  | item :: items, _, hne, 0, level, _, _, _, hfuel => by
      have := length_prettyItems_pos hne level
      omega
  | [item], h, _, fuel + 1, level, closing, seen, rest, hfuel => by
      have hlength := congrArg List.length (prettyItems_singleton level item [])
      simp only [List.length_append, List.length_nil] at hlength
      have hitem := @readValue_pretty item h.1 fuel level (lineStart closing ++ ']' :: rest)
        (by omega) (delimited_lineStart closing _)
      have hclose : skipBlanks (lineStart closing ++ ']' :: rest) = ']' :: rest := by
        rw [skipBlanks_lineStart, skipBlanks_cons (by decide)]
      rw [prettyItems_singleton]
      exact readItems_succ.2 ⟨item, _, (readValue_lineStart level _).trans hitem,
        .inr ⟨hclose, by simp⟩⟩
  | item :: next :: items, h, _, fuel + 1, level, closing, seen, rest, hfuel => by
      have hlength := congrArg List.length (prettyItems_cons_cons level item next items [])
      simp only [List.length_append, List.length_cons, List.length_nil] at hlength
      have hitem := @readValue_pretty item h.1 fuel level
        (',' :: (prettyItems level (next :: items) ++ (lineStart closing ++ ']' :: rest)))
        (by omega) (delimited_comma _)
      have hitems := @readItems_pretty (next :: items) h.2 (List.cons_ne_nil _ _) fuel level closing
        (item :: seen) rest (by omega)
      rw [prettyItems_cons_cons]
      refine readItems_succ.2 ⟨item, _, (readValue_lineStart level _).trans hitem,
        .inl ⟨_, skipBlanks_cons (by decide) _, hitems.trans ?_⟩⟩
      simp

theorem readMembers_pretty : (members : List (Option String × Json)) →
    WritableMembers members → members ≠ [] →
    ∀ {fuel level closing : Nat} {seen : List (Option String × Json)} {rest : List Char},
      2 * (prettyMembers level members).length ≤ fuel →
        readMembers fuel seen (prettyMembers level members ++ (lineStart closing ++ '}' :: rest)) =
          some (.object (seen.reverse ++ members), rest)
  | [], _, hne, _, _, _, _, _, _ => absurd rfl hne
  | member :: members, _, hne, 0, level, _, _, _, hfuel => by
      have := length_prettyMembers_pos hne level
      omega
  | [(name, value)], h, _, fuel + 1, level, closing, seen, rest, hfuel => by
      have hlength := congrArg List.length (prettyMembers_singleton level name value [])
      simp only [List.length_append, List.length_cons, List.length_nil] at hlength
      have hvalue := @readValue_pretty value h.2.1 fuel level (lineStart closing ++ '}' :: rest)
        (by omega) (delimited_lineStart closing _)
      have hclose : skipBlanks (lineStart closing ++ '}' :: rest) = '}' :: rest := by
        rw [skipBlanks_lineStart, skipBlanks_cons (by decide)]
      obtain ⟨s, rfl, hquoted⟩ := quotedContent_of_isSome h.1
        (':' :: ' ' :: (value.prettyChars level ++ (lineStart closing ++ '}' :: rest)))
      rw [prettyMembers_singleton, hquoted]
      exact readMembers_succ.2 ⟨_, some s, _, _, value, _, skipBlanks_quoted level _,
        readString_escaped s _, skipBlanks_cons (by decide) _, (readValue_space _).trans hvalue,
        .inr ⟨hclose, by simp⟩⟩
  | (name, value) :: next :: members, h, _, fuel + 1, level, closing, seen, rest, hfuel => by
      have hlength := congrArg List.length (prettyMembers_cons_cons level name value next members [])
      simp only [List.length_append, List.length_cons, List.length_nil] at hlength
      have hvalue := @readValue_pretty value h.2.1 fuel level
        (',' :: (prettyMembers level (next :: members) ++ (lineStart closing ++ '}' :: rest)))
        (by omega) (delimited_comma _)
      have hmembers := @readMembers_pretty (next :: members) h.2.2 (List.cons_ne_nil _ _) fuel level
        closing ((name, value) :: seen) rest (by omega)
      obtain ⟨s, rfl, hquoted⟩ := quotedContent_of_isSome h.1
        (':' :: ' ' :: (value.prettyChars level ++
          ',' :: (prettyMembers level (next :: members) ++ (lineStart closing ++ '}' :: rest))))
      rw [prettyMembers_cons_cons, hquoted]
      refine readMembers_succ.2 ⟨_, some s, _, _, value, _, skipBlanks_quoted level _,
        readString_escaped s _, skipBlanks_cons (by decide) _, (readValue_space _).trans hvalue,
        .inl ⟨_, skipBlanks_cons (by decide) _, hmembers.trans ?_⟩⟩
      simp

end

/-- **Main result.** A value is read back from its indented text. -/
theorem read?_pretty (h : j.Writable) : read? j.pretty = some j := by
  have hread := @readValue_pretty j h (2 * (j.prettyChars 0).length + 2) 0 [] (by omega) .nil
  rw [List.append_nil] at hread
  rw [read?, pretty, String.toList_ofList]
  simp only [hread]
  rfl

end Triage.Json
