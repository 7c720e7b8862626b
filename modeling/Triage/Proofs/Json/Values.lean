/-
Values of JSON are read back from their compact text.

What the reader does at the start of a value, after an item and after a member is said once, by
`Begins` and the two lemmas after it; everything else follows from these by induction.  A value that
was read stays what it is when the text goes on, save for a number at the very end.  So a text that
was cut off is no array and no object: if it were one, the whole text would be that one with
something left over.
-/
import Triage.Proofs.Json.Numbers
import Triage.Proofs.Json.Strings

namespace Triage.Json

variable {cs rest tail more : List Char} {j : Json} {fuel fuel' : Nat}

/-! ### Steps of the reader -/

theorem skipBlanks_cons {c : Char} (hc : isBlank c = false) (cs : List Char) :
    skipBlanks (c :: cs) = c :: cs := by
  rw [skipBlanks, List.dropWhile_cons_of_neg (by simp [hc])]

theorem skipBlanks_append (h : skipBlanks cs ≠ []) (more : List Char) :
    skipBlanks (cs ++ more) = skipBlanks cs ++ more := by
  unfold skipBlanks at h ⊢
  rw [List.dropWhile_append, if_neg (by simpa using h)]

/-- A number starts with a digit or a minus sign. -/
theorem head_of_readNumber (h : readNumber cs = some (j, rest)) :
    ∃ c tail, cs = c :: tail ∧ (c = '-' ∨ c.isDigit = true) := by
  cases cs with
  | nil => cases h
  | cons c tail =>
      refine ⟨c, tail, rfl, ?_⟩
      by_cases hminus : c = '-'
      · exact .inl hminus
      · have hhead : (c :: tail).head? ≠ some '-' := fun heq => hminus (Option.some.inj heq)
        rw [readNumber_of_ne hhead] at h
        obtain ⟨whole, cs₁, -, -, -, hwhole, -⟩ := readUnsigned_eq_some.1 h
        by_cases hzero : c = '0'
        · exact .inr (by rw [hzero]; rfl)
        · rw [wholePart_cons_of_ne hzero, someDigits] at hwhole
          by_cases hdigit : c.isDigit = true
          · exact .inr hdigit
          · simp [hdigit] at hwhole

/-- How a value may begin, and what is left after it. -/
inductive Begins (fuel : Nat) : List Char → Json → List Char → Prop
  | null (rest : List Char) : Begins fuel ('n' :: 'u' :: 'l' :: 'l' :: rest) .null rest
  | true (rest : List Char) : Begins fuel ('t' :: 'r' :: 'u' :: 'e' :: rest) (.bool true) rest
  | false (rest : List Char) :
      Begins fuel ('f' :: 'a' :: 'l' :: 's' :: 'e' :: rest) (.bool false) rest
  | string {tail rest : List Char} {content : Option String}
      (h : readString tail = some (content, rest)) :
      Begins fuel ('"' :: tail) (.string content) rest
  | emptyArray {tail rest : List Char} (h : skipBlanks tail = ']' :: rest) :
      Begins fuel ('[' :: tail) (.array []) rest
  | array {tail rest : List Char} {j : Json} (hopen : (skipBlanks tail).head? ≠ some ']')
      (h : readItems fuel [] (skipBlanks tail) = some (j, rest)) : Begins fuel ('[' :: tail) j rest
  | emptyObject {tail rest : List Char} (h : skipBlanks tail = '\x7d' :: rest) :
      Begins fuel ('\x7b' :: tail) (.object []) rest
  | object {tail rest : List Char} {j : Json} (hopen : (skipBlanks tail).head? ≠ some '\x7d')
      (h : readMembers fuel [] (skipBlanks tail) = some (j, rest)) :
      Begins fuel ('\x7b' :: tail) j rest
  | number {c : Char} {tail rest : List Char} {j : Json} (hc : c = '-' ∨ c.isDigit = true)
      (h : readNumber (c :: tail) = some (j, rest)) : Begins fuel (c :: tail) j rest

theorem readValue_succ :
    readValue (fuel + 1) cs = some (j, rest) ↔ Begins fuel (skipBlanks cs) j rest := by
  rw [readValue]
  generalize skipBlanks cs = cs
  constructor
  · intro h
    split at h
    · cases h
      exact .null rest
    · cases h
      exact .true rest
    · cases h
      exact .false rest
    · obtain ⟨⟨content, after⟩, hread, h⟩ := Option.map_eq_some_iff.1 h
      cases h
      exact .string hread
    · split at h
      · rename_i hclose
        cases h
        exact .emptyArray hclose
      · rename_i hopen
        refine .array (fun heq => ?_) h
        obtain ⟨after, hafter⟩ := List.head?_eq_some_iff.1 heq
        exact hopen after hafter
    · split at h
      · rename_i hclose
        cases h
        exact .emptyObject hclose
      · rename_i hopen
        refine .object (fun heq => ?_) h
        obtain ⟨after, hafter⟩ := List.head?_eq_some_iff.1 heq
        exact hopen after hafter
    · obtain ⟨c, tail, rfl, hc⟩ := head_of_readNumber h
      exact .number hc h
  · intro h
    cases h with
    | null | true | false => rfl
    | string h => simp [h]
    | emptyArray h => simp [h]
    | @array tail _ _ hopen h =>
        simp only
        split
        · rename_i hclose
          rw [hclose] at hopen
          exact absurd rfl hopen
        · exact h
    | emptyObject h => simp [h]
    | @object tail _ _ hopen h =>
        simp only
        split
        · rename_i hclose
          rw [hclose] at hopen
          exact absurd rfl hopen
        · exact h
    | @number c tail _ _ hc h =>
        split
        iterate 6
          rename_i heq
          cases heq
          exact absurd hc (by decide)
        exact h

theorem readItems_succ {items : List Json} :
    readItems (fuel + 1) items cs = some (j, rest) ↔ ∃ item after,
      readValue fuel cs = some (item, after) ∧
        ((∃ tail, skipBlanks after = ',' :: tail ∧
            readItems fuel (item :: items) tail = some (j, rest)) ∨
          (skipBlanks after = ']' :: rest ∧ j = .array (item :: items).reverse)) := by
  rw [readItems]
  cases hvalue : readValue fuel cs with
  | none => simp
  | some found =>
      obtain ⟨item, after⟩ := found
      simp only [Option.some.injEq, Prod.mk.injEq]
      constructor
      · intro h
        refine ⟨item, after, ⟨rfl, rfl⟩, ?_⟩
        split at h
        · rename_i tail hcomma
          exact .inl ⟨tail, hcomma, h⟩
        · rename_i hclose
          cases h
          exact .inr ⟨hclose, rfl⟩
        · cases h
      · rintro ⟨_, _, ⟨rfl, rfl⟩, ⟨tail, hcomma, h⟩ | ⟨hclose, rfl⟩⟩
        · rw [hcomma]
          exact h
        · simp only [hclose]

theorem readMembers_succ {members : List (Option String × Json)} :
    readMembers (fuel + 1) members cs = some (j, rest) ↔ ∃ start name colon afterName value after,
      skipBlanks cs = '"' :: start ∧ readString start = some (name, colon) ∧
        skipBlanks colon = ':' :: afterName ∧ readValue fuel afterName = some (value, after) ∧
        ((∃ tail, skipBlanks after = ',' :: tail ∧
            readMembers fuel ((name, value) :: members) tail = some (j, rest)) ∨
          (skipBlanks after = '\x7d' :: rest ∧
            j = .object ((name, value) :: members).reverse)) := by
  rw [readMembers]
  constructor
  · intro h
    split at h
    · rename_i start hstart
      split at h
      · cases h
      · rename_i name colon hname
        split at h
        · rename_i afterName hcolon
          split at h
          · cases h
          · rename_i value after hvalue
            refine ⟨start, name, colon, afterName, value, after, hstart, hname, hcolon, hvalue, ?_⟩
            split at h
            · rename_i tail hcomma
              exact .inl ⟨tail, hcomma, h⟩
            · rename_i hclose
              cases h
              exact .inr ⟨hclose, rfl⟩
            · cases h
        · cases h
    · cases h
  · rintro ⟨start, name, colon, afterName, value, after, hstart, hname, hcolon, hvalue,
      ⟨tail, hcomma, h⟩ | ⟨hclose, rfl⟩⟩
    · simp only [hstart, hname, hcolon, hvalue, hcomma]
      exact h
    · simp only [hstart, hname, hcolon, hvalue, hclose]

/-! ### Texts that go on -/

/-- More text makes no difference after a number that was seen to end, and after other values. -/
def EndsBefore (j : Json) (rest more : List Char) : Prop :=
  ∀ text, j = .number text → rest ≠ [] ∨ Delimited more

theorem skipBlanks_append_of_cons {c : Char} {after : List Char}
    (h : skipBlanks cs = c :: after) (more : List Char) :
    skipBlanks (cs ++ more) = c :: (after ++ more) := by
  rw [skipBlanks_append (by rw [h]; simp), h]
  rfl

theorem skipBlanks_ne_nil_of_readValue (h : readValue fuel cs = some (j, rest)) :
    skipBlanks cs ≠ [] := by
  cases fuel with
  | zero => cases h
  | succ fuel =>
      intro heq
      rw [readValue_succ, heq] at h
      cases h

theorem ne_nil_of_readItems {items : List Json} (h : readItems fuel items cs = some (j, rest)) :
    cs ≠ [] := by
  rintro rfl
  cases fuel with
  | zero => cases h
  | succ fuel =>
      obtain ⟨_, _, hvalue, -⟩ := readItems_succ.1 h
      exact skipBlanks_ne_nil_of_readValue hvalue rfl

theorem ne_nil_of_readMembers {members : List (Option String × Json)}
    (h : readMembers fuel members cs = some (j, rest)) : cs ≠ [] := by
  rintro rfl
  cases fuel with
  | zero => cases h
  | succ fuel =>
      obtain ⟨_, _, _, _, _, _, hstart, -⟩ := readMembers_succ.1 h
      cases hstart

theorem ne_nil_of_skipBlanks {c : Char} {after : List Char} (h : skipBlanks cs = c :: after) :
    cs ≠ [] := by
  rintro rfl
  cases h

/-- What opens a list is not what closes it, however the text goes on. -/
theorem head?_skipBlanks_append {c : Char} (hne : skipBlanks cs ≠ [])
    (h : (skipBlanks cs).head? ≠ some c) (more : List Char) :
    (skipBlanks (cs ++ more)).head? ≠ some c := by
  rw [skipBlanks_append hne, List.head?_append, Option.or_of_isSome (by simpa using hne)]
  exact h

theorem number_of_readNumber (h : readNumber cs = some (j, rest)) : ∃ text, j = .number text := by
  by_cases hhead : cs.head? = some '-'
  · obtain ⟨tail, rfl⟩ := List.head?_eq_some_iff.1 hhead
    obtain ⟨_, _, _, _, _, -, -, -, -, h⟩ := readUnsigned_eq_some.1 h
    exact ⟨_, h⟩
  · rw [readNumber_of_ne hhead] at h
    obtain ⟨_, _, _, _, _, -, -, -, -, h⟩ := readUnsigned_eq_some.1 h
    exact ⟨_, h⟩

mutual

/-- Reading goes the same way when the text goes on and more steps are allowed. -/
theorem readValue_append {fuel fuel' : Nat} {cs rest : List Char} {j : Json} (more : List Char)
    (hfuel : fuel ≤ fuel') (h : readValue fuel cs = some (j, rest))
    (hends : EndsBefore j rest more) : readValue fuel' (cs ++ more) = some (j, rest ++ more) := by
  match fuel, fuel' with
  | 0, _ => cases h
  | fuel + 1, fuel' + 1 =>
      have hfuel := Nat.le_of_succ_le_succ hfuel
      have hne := skipBlanks_ne_nil_of_readValue h
      rw [readValue_succ] at h ⊢
      rw [skipBlanks_append hne]
      generalize skipBlanks cs = cs at h
      cases h with
      | null | true | false => constructor
      | string h => exact .string (readString_append h more)
      | emptyArray h => exact .emptyArray (skipBlanks_append_of_cons h more)
      | array hopen h =>
          have hne := ne_nil_of_readItems h
          have hread := readItems_append more hfuel h
          rw [← skipBlanks_append hne] at hread
          exact .array (head?_skipBlanks_append hne hopen more) hread
      | emptyObject h => exact .emptyObject (skipBlanks_append_of_cons h more)
      | object hopen h =>
          have hne := ne_nil_of_readMembers h
          have hread := readMembers_append more hfuel h
          rw [← skipBlanks_append hne] at hread
          exact .object (head?_skipBlanks_append hne hopen more) hread
      | number hc h =>
          obtain ⟨text, htext⟩ := number_of_readNumber h
          exact .number hc (readNumber_append h (hends text htext))
termination_by fuel

theorem readItems_append {fuel fuel' : Nat} {items : List Json} {cs rest : List Char} {j : Json}
    (more : List Char) (hfuel : fuel ≤ fuel') (h : readItems fuel items cs = some (j, rest)) :
    readItems fuel' items (cs ++ more) = some (j, rest ++ more) := by
  match fuel, fuel' with
  | 0, _ => cases h
  | fuel + 1, fuel' + 1 =>
      have hfuel := Nat.le_of_succ_le_succ hfuel
      obtain ⟨item, after, hvalue, hnext⟩ := readItems_succ.1 h
      have hafter : after ≠ [] := by
        rcases hnext with ⟨_, hnext, -⟩ | ⟨hnext, -⟩ <;> exact ne_nil_of_skipBlanks hnext
      refine readItems_succ.2 ⟨item, after ++ more,
        readValue_append more hfuel hvalue fun _ _ => .inl hafter, ?_⟩
      rcases hnext with ⟨tail, hcomma, hrest⟩ | ⟨hclose, rfl⟩
      · exact .inl ⟨_, skipBlanks_append_of_cons hcomma more, readItems_append more hfuel hrest⟩
      · exact .inr ⟨skipBlanks_append_of_cons hclose more, rfl⟩
termination_by fuel

theorem readMembers_append {fuel fuel' : Nat} {members : List (Option String × Json)}
    {cs rest : List Char} {j : Json} (more : List Char) (hfuel : fuel ≤ fuel')
    (h : readMembers fuel members cs = some (j, rest)) :
    readMembers fuel' members (cs ++ more) = some (j, rest ++ more) := by
  match fuel, fuel' with
  | 0, _ => cases h
  | fuel + 1, fuel' + 1 =>
      have hfuel := Nat.le_of_succ_le_succ hfuel
      obtain ⟨start, name, colon, afterName, value, after, hstart, hname, hcolon, hvalue,
        hnext⟩ := readMembers_succ.1 h
      have hafter : after ≠ [] := by
        rcases hnext with ⟨_, hnext, -⟩ | ⟨hnext, -⟩ <;> exact ne_nil_of_skipBlanks hnext
      refine readMembers_succ.2 ⟨_, name, _, _, value, after ++ more,
        skipBlanks_append_of_cons hstart more, readString_append hname more,
        skipBlanks_append_of_cons hcolon more,
        readValue_append more hfuel hvalue fun _ _ => .inl hafter, ?_⟩
      rcases hnext with ⟨tail, hcomma, hrest⟩ | ⟨hclose, rfl⟩
      · exact .inl ⟨_, skipBlanks_append_of_cons hcomma more,
          readMembers_append more hfuel hrest⟩
      · exact .inr ⟨skipBlanks_append_of_cons hclose more, rfl⟩
termination_by fuel

end

/-! ### Values that can be written

A value is read back as it was written if its numbers are numbers and its strings have content.
-/

mutual

/-- Whether all numbers of a value are numbers, and all strings have content. -/
def Writable : Json → Prop
  | null | bool _ => True
  | number text => IsNumber text
  | string content => content.isSome
  | array items => WritableItems items
  | object members => WritableMembers members

/-- Whether all items are writable. -/
def WritableItems : List Json → Prop
  | [] => True
  | item :: rest => item.Writable ∧ WritableItems rest

/-- Whether all members are writable. -/
def WritableMembers : List (Option String × Json) → Prop
  | [] => True
  | (name, value) :: rest => name.isSome ∧ value.Writable ∧ WritableMembers rest

end

theorem quotedContent_of_isSome {content : Option String} (h : content.isSome)
    (rest : List Char) : ∃ s, content = some s ∧
      quotedContent content ++ rest = '"' :: (s.toList.flatMap escapeChar ++ '"' :: rest) := by
  obtain ⟨s, rfl⟩ := Option.isSome_iff_exists.1 h
  exact ⟨s, rfl, by simp [quotedContent, quoted]⟩

theorem not_isBlank_of_digit {c : Char} (hc : c = '-' ∨ c.isDigit = true) : isBlank c = false := by
  rw [isBlank]
  simp only [Bool.or_eq_false_iff, beq_eq_false_iff_ne]
  refine ⟨⟨⟨?_, ?_⟩, ?_⟩, ?_⟩ <;>
  · rintro rfl
    exact absurd hc (by decide)

/-- The text of a value starts with what tells its kind. -/
theorem head_compactChars (h : j.Writable) :
    ∃ c tail, j.compactChars = c :: tail ∧ isBlank c = false ∧ c ≠ ']' ∧ c ≠ '}' := by
  cases j with
  | null => exact ⟨_, _, rfl, rfl, by decide, by decide⟩
  | bool value => cases value <;> exact ⟨_, _, rfl, rfl, by decide, by decide⟩
  | number text =>
      rw [Writable, IsNumber] at h
      obtain ⟨c, tail, hcs, hc⟩ := head_of_readNumber h
      refine ⟨c, tail, hcs, not_isBlank_of_digit hc, ?_, ?_⟩ <;>
      · rintro rfl
        exact absurd hc (by decide)
  | string content => exact ⟨_, _, rfl, rfl, by decide, by decide⟩
  | array items => exact ⟨_, _, rfl, rfl, by decide, by decide⟩
  | object members => exact ⟨_, _, rfl, rfl, by decide, by decide⟩

theorem length_compactChars_pos (h : j.Writable) : 0 < j.compactChars.length := by
  obtain ⟨c, tail, heq, -⟩ := head_compactChars h
  simp [heq]

theorem compactChars_array (items : List Json) (rest : List Char) :
    (array items).compactChars ++ rest = '[' :: (compactItems items ++ ']' :: rest) := by
  simp [compactChars]

theorem compactChars_object (members : List (Option String × Json)) (rest : List Char) :
    (object members).compactChars ++ rest =
      '{' :: (compactMembers members ++ '}' :: rest) := by
  simp [compactChars]

theorem compactItems_cons_cons (item next : Json) (items : List Json) :
    compactItems (item :: next :: items) =
      item.compactChars ++ ',' :: compactItems (next :: items) := by
  rw [compactItems]
  simp

theorem compactMembers_cons_cons (name : Option String) (value : Json)
    (next : Option String × Json) (members : List (Option String × Json)) :
    compactMembers ((name, value) :: next :: members) = quotedContent name ++
      ':' :: (value.compactChars ++ ',' :: compactMembers (next :: members)) := by
  rw [compactMembers]
  · simp
  · simp

theorem head_compactItems {items : List Json} (h : WritableItems items) (hne : items ≠ []) :
    ∃ c tail, compactItems items = c :: tail ∧ isBlank c = false ∧ c ≠ ']' := by
  cases items with
  | nil => exact absurd rfl hne
  | cons item rest =>
      obtain ⟨c, tail, heq, hblank, hclose, -⟩ := head_compactChars h.1
      cases rest with
      | nil => exact ⟨c, tail, heq, hblank, hclose⟩
      | cons next rest =>
          exact ⟨c, _, by rw [compactItems_cons_cons, heq]; rfl, hblank, hclose⟩

theorem head_compactMembers {members : List (Option String × Json)} (hne : members ≠ []) :
    ∃ tail, compactMembers members = '"' :: tail := by
  cases members with
  | nil => exact absurd rfl hne
  | cons member rest =>
      cases rest with
      | nil => exact ⟨_, rfl⟩
      | cons next rest => exact ⟨_, rfl⟩

theorem delimited_comma (cs : List Char) : Delimited (',' :: cs) := .cons (by decide) cs

theorem delimited_closeArray (cs : List Char) : Delimited (']' :: cs) := .cons (by decide) cs

theorem delimited_closeObject (cs : List Char) : Delimited ('}' :: cs) := .cons (by decide) cs

mutual

/-- **A value is read back from its compact text**, with twice as many steps as characters. -/
theorem readValue_compact : (j : Json) → j.Writable → ∀ {fuel : Nat} {rest : List Char},
    2 * j.compactChars.length ≤ fuel + 1 → Delimited rest →
      readValue fuel (j.compactChars ++ rest) = some (j, rest)
  | j, h, 0, rest, hfuel, _ => by
      have := length_compactChars_pos h
      omega
  | null, _, fuel + 1, rest, _, _ => rfl
  | bool true, _, fuel + 1, rest, _, _ => rfl
  | bool false, _, fuel + 1, rest, _, _ => rfl
  | number text, h, fuel + 1, rest, _, hrest => by
      rw [Writable, IsNumber] at h
      obtain ⟨c, tail, hcs, hc⟩ := head_of_readNumber h
      have hread := readNumber_append h (.inr hrest)
      rw [hcs, List.nil_append, List.cons_append] at hread
      rw [readValue_succ, compactChars, hcs, List.cons_append,
        skipBlanks_cons (not_isBlank_of_digit hc)]
      exact .number hc hread
  | string content, h, fuel + 1, rest, _, _ => by
      obtain ⟨s, rfl, hquoted⟩ := quotedContent_of_isSome h rest
      rw [readValue_succ, compactChars, hquoted, skipBlanks_cons (by decide)]
      exact .string (readString_escaped s rest)
  | array [], _, fuel + 1, rest, _, _ => rfl
  | array (item :: items), h, fuel + 1, rest, hfuel, _ => by
      have hne : item :: items ≠ [] := List.cons_ne_nil _ _
      have hlength := congrArg List.length (compactChars_array (item :: items) [])
      simp only [List.length_append, List.length_cons, List.length_nil] at hlength
      obtain ⟨c, tail, heq, hblank, hclose⟩ := head_compactItems h hne
      have hread := @readItems_compact (item :: items) h hne fuel [] rest (by omega)
      rw [heq, List.cons_append, ← skipBlanks_cons hblank] at hread
      rw [readValue_succ, compactChars_array, heq, List.cons_append, skipBlanks_cons (by decide)]
      -- no item starts with what closes the array
      refine .array ?_ hread
      rw [skipBlanks_cons hblank]
      exact fun hc => hclose (Option.some.inj hc)
  | object [], _, fuel + 1, rest, _, _ => rfl
  | object (member :: members), h, fuel + 1, rest, hfuel, _ => by
      have hne : member :: members ≠ [] := List.cons_ne_nil _ _
      have hlength := congrArg List.length (compactChars_object (member :: members) [])
      simp only [List.length_append, List.length_cons, List.length_nil] at hlength
      obtain ⟨tail, heq⟩ := head_compactMembers hne
      have hread := @readMembers_compact (member :: members) h hne fuel [] rest (by omega)
      rw [heq, List.cons_append, ← skipBlanks_cons (c := '"') (by decide)] at hread
      rw [readValue_succ, compactChars_object, heq, List.cons_append,
        skipBlanks_cons (by decide)]
      refine .object ?_ hread
      rw [skipBlanks_cons (by decide)]
      simp

theorem readItems_compact : (items : List Json) → WritableItems items → items ≠ [] →
    ∀ {fuel : Nat} {seen : List Json} {rest : List Char},
      2 * (compactItems items).length ≤ fuel →
        readItems fuel seen (compactItems items ++ ']' :: rest) =
          some (.array (seen.reverse ++ items), rest)
  | [], _, hne, _, _, _, _ => absurd rfl hne
  | item :: items, h, _, 0, seen, rest, hfuel => by
      obtain ⟨c, tail, heq, -⟩ := head_compactItems h (List.cons_ne_nil _ _)
      rw [heq] at hfuel
      simp at hfuel
  | [item], h, _, fuel + 1, seen, rest, hfuel => by
      rw [compactItems] at hfuel ⊢
      exact readItems_succ.2 ⟨item, ']' :: rest, readValue_compact item h.1 (by omega)
        (delimited_closeArray rest), .inr ⟨rfl, by simp⟩⟩
  | item :: next :: items, h, _, fuel + 1, seen, rest, hfuel => by
      rw [compactItems_cons_cons, List.length_append, List.length_cons] at hfuel
      rw [compactItems_cons_cons, List.append_assoc, List.cons_append]
      refine readItems_succ.2 ⟨item, _, readValue_compact item h.1 (by omega)
        (delimited_comma _), .inl ⟨_, rfl, ?_⟩⟩
      rw [readItems_compact (next :: items) h.2 (List.cons_ne_nil _ _) (by omega)]
      simp

theorem readMembers_compact : (members : List (Option String × Json)) →
    WritableMembers members → members ≠ [] →
    ∀ {fuel : Nat} {seen : List (Option String × Json)} {rest : List Char},
      2 * (compactMembers members).length ≤ fuel →
        readMembers fuel seen (compactMembers members ++ '}' :: rest) =
          some (.object (seen.reverse ++ members), rest)
  | [], _, hne, _, _, _, _ => absurd rfl hne
  | member :: members, h, _, 0, seen, rest, hfuel => by
      obtain ⟨tail, heq⟩ := head_compactMembers (List.cons_ne_nil member members)
      rw [heq] at hfuel
      simp at hfuel
  | [(name, value)], h, _, fuel + 1, seen, rest, hfuel => by
      obtain ⟨s, rfl, hquoted⟩ := quotedContent_of_isSome h.1
        (':' :: (value.compactChars ++ '}' :: rest))
      rw [compactMembers, List.length_append, List.length_cons] at hfuel
      rw [compactMembers, List.append_assoc, List.cons_append, hquoted]
      exact readMembers_succ.2 ⟨_, some s, _, _, value, '}' :: rest, rfl,
        readString_escaped s _, rfl, readValue_compact value h.2.1 (by omega)
          (delimited_closeObject rest), .inr ⟨rfl, by simp⟩⟩
  | (name, value) :: next :: members, h, _, fuel + 1, seen, rest, hfuel => by
      obtain ⟨s, rfl, hquoted⟩ := quotedContent_of_isSome h.1
        (':' :: (value.compactChars ++ ',' :: (compactMembers (next :: members) ++ '}' :: rest)))
      rw [compactMembers_cons_cons, List.length_append, List.length_cons, List.length_append,
        List.length_cons] at hfuel
      rw [compactMembers_cons_cons, List.append_assoc, List.cons_append, List.append_assoc,
        List.cons_append, hquoted]
      refine readMembers_succ.2 ⟨_, some s, _, _, value, _, rfl, readString_escaped s _, rfl,
        readValue_compact value h.2.1 (by omega) (delimited_comma _), .inl ⟨_, rfl, ?_⟩⟩
      rw [readMembers_compact (next :: members) h.2.2 (List.cons_ne_nil _ _) (by omega)]
      simp

end

/-! ### Whole texts -/

/-- **Main result.** A value is read back from its compact text. -/
theorem read?_compact (h : j.Writable) : read? j.compact = some j := by
  have hread := @readValue_compact j h (2 * j.compactChars.length + 2) [] (by omega) .nil
  rw [List.append_nil] at hread
  rw [read?, compact, String.toList_ofList]
  simp only [hread]
  rfl

theorem array_of_readItems {items : List Json} (h : readItems fuel items cs = some (j, rest)) :
    ∃ items, j = .array items := by
  induction fuel generalizing items cs with
  | zero => cases h
  | succ fuel ih =>
      obtain ⟨item, after, -, ⟨tail, -, h⟩ | ⟨-, h⟩⟩ := readItems_succ.1 h
      · exact ih h
      · exact ⟨_, h⟩

theorem object_of_readMembers {members : List (Option String × Json)}
    (h : readMembers fuel members cs = some (j, rest)) : ∃ members, j = .object members := by
  induction fuel generalizing members cs with
  | zero => cases h
  | succ fuel ih =>
      obtain ⟨_, _, _, _, _, _, -, -, -, -, ⟨tail, -, h⟩ | ⟨-, h⟩⟩ := readMembers_succ.1 h
      · exact ih h
      · exact ⟨_, h⟩

/-- An array or an object. -/
def IsBracketed : Json → Prop
  | array _ | object _ => True
  | _ => False

theorem IsBracketed.endsBefore (h : j.IsBracketed) (rest more : List Char) :
    EndsBefore j rest more := by
  rintro text rfl
  exact h.elim

theorem isBracketed_of_readValue {c : Char} (hc : c = '[' ∨ c = '{')
    (h : readValue fuel (c :: tail) = some (j, rest)) : j.IsBracketed := by
  cases fuel with
  | zero => cases h
  | succ fuel =>
      have hblank : isBlank c = false := by rcases hc with rfl | rfl <;> decide
      rw [readValue_succ, skipBlanks_cons hblank] at h
      cases h with
      | null | true | false | string => exact absurd hc (by decide)
      | emptyArray | emptyObject => trivial
      | array _ h =>
          obtain ⟨items, rfl⟩ := array_of_readItems h
          trivial
      | object _ h =>
          obtain ⟨members, rfl⟩ := object_of_readMembers h
          trivial
      | number hnumber => rcases hc with rfl | rfl <;> exact absurd hnumber (by decide)

/-- An array or an object that was cut off cannot be read. -/
theorem read?_of_torn {part : List Char} (h : j.Writable) (hbracketed : j.IsBracketed)
    (hpart : part <+: j.compactChars) (hne : part ≠ j.compactChars) :
    read? (String.ofList part) = none := by
  obtain ⟨more, hmore⟩ := hpart
  have hopen : ∃ c tail, (c = '[' ∨ c = '{') ∧ j.compactChars = c :: tail := by
    cases j with
    | array items => exact ⟨_, _, .inl rfl, rfl⟩
    | object members => exact ⟨_, _, .inr rfl, rfl⟩
    | null | bool _ | number _ | string _ => exact hbracketed.elim
  rw [read?, String.toList_ofList]
  split
  · rename_i found after hread
    have hfound : found.IsBracketed := by
      obtain ⟨c, tail, hc, heq⟩ := hopen
      cases part with
      | nil => exact absurd rfl (skipBlanks_ne_nil_of_readValue hread)
      | cons d rest =>
          rw [heq, List.cons_append] at hmore
          cases hmore
          exact isBracketed_of_readValue hc hread
    -- the whole text would be the value that was found, with something left over
    have hlonger : readValue (2 * j.compactChars.length + 2) (part ++ more) =
        some (found, after ++ more) :=
      readValue_append more (by rw [← hmore, List.length_append]; omega) hread
        (hfound.endsBefore after more)
    have hwhole := @readValue_compact j h (2 * j.compactChars.length + 2) [] (by omega) .nil
    rw [hmore] at hlonger
    rw [List.append_nil, hlonger, Option.some.injEq, Prod.mk.injEq, List.append_eq_nil_iff]
      at hwhole
    rw [hwhole.2.2, List.append_nil] at hmore
    exact absurd hmore hne
  · rfl

end Triage.Json
