/-
Values of settings files are read back as they were written.

A value is followed by the end of its line, a comma or a bracket, and nothing in a word is one of
these; so the reader stops where the writer did.  Of numbers with a point it is only asked here that
their word stands for them.
-/
import Triage.Proofs.Decimal.Digits
import Triage.Proofs.Toml.Strings
import Triage.Toml.Reading

namespace Triage.Toml

variable {c : Char} {cs rest : List Char} {s : Scalar}

/-! ### Words -/

/-- Characters of which words are made. -/
def isWordChar (c : Char) : Bool := isBareKeyChar c || c == '.'

/-- The text of a value that has no quotes and no parts. -/
structure IsWord (cs : List Char) : Prop where
  ne_nil : cs ≠ []
  plain : ∀ c ∈ cs, isWordChar c = true

/-- What may follow a value: the end of its line or of its item. -/
def Ends (cs : List Char) : Prop := ∃ c more, cs = c :: more ∧ (c = '\n' ∨ c = ',' ∨ c = ']')

theorem Ends.unlike (h : Ends rest) (hc : c ≠ '\n' ∧ c ≠ ',' ∧ c ≠ ']') : Unlike c rest := by
  obtain ⟨d, more, rfl, hd⟩ := h
  rintro heq
  cases heq
  simp [hc] at hd

theorem not_endsWord_of_isWordChar (h : isWordChar c = true) : endsWord c = false := by
  refine Bool.eq_false_iff.2 fun hends => ?_
  simp only [endsWord, Bool.or_eq_true, beq_iff_eq] at hends
  rcases hends with ((((((rfl | rfl) | rfl) | rfl) | rfl) | rfl) | rfl) | rfl
  all_goals exact absurd h (by decide)

theorem isWordChar_of_isDigit (h : c.isDigit = true) : isWordChar c = true := by
  simp [isWordChar, isBareKeyChar, Char.isAlphanum, h]

theorem readWord_append {word : List Char} (h : IsWord word) (hrest : Ends rest) :
    readWord (word ++ rest) = (word? word).map (·, rest) := by
  obtain ⟨d, more, rfl, hd⟩ := hrest
  have htake : (word ++ d :: more).takeWhile (!endsWord ·) = word := by
    have hends : endsWord d = true := by
      rcases hd with rfl | rfl | rfl <;> rfl
    rw [List.takeWhile_append_of_pos fun c hc => by
      simp [not_endsWord_of_isWordChar (h.plain c hc)], List.takeWhile_cons]
    simp [hends]
  rw [readWord]
  simp only [htake, List.drop_left]
  split
  · rename_i heq
    cases heq
    simp at hd
  · rfl

/-! ### Whole numbers -/

theorem digitGroups?_of_isDigit (hne : cs ≠ []) (h : ∀ c ∈ cs, c.isDigit = true) :
    digitGroups? Char.isDigit cs = some cs := by
  induction cs with
  | nil => exact absurd rfl hne
  | cons c more ih =>
      have hc := h c List.mem_cons_self
      have hmore (d : Char) (hd : d ∈ more) := h d (List.mem_cons_of_mem _ hd)
      cases more with
      | nil => simp [digitGroups?, hc]
      | cons d more =>
          rw [digitGroups?, if_pos hc, ih (List.cons_ne_nil _ _) hmore]
          · rfl
          · exact List.cons_ne_nil _ _
          · intro _ heq
            cases heq
            exact absurd (hmore '_' List.mem_cons_self) (by decide)

theorem isMoment_of_isDigit (h : ∀ c ∈ cs.tail, c.isDigit = true) : isMoment cs = false := by
  have htime : afterTime? cs = none := by
    unfold afterTime?
    split
    · exact absurd (h ':' (by simp)) (by decide)
    · rfl
  have hdate : afterDate? cs = none := by
    unfold afterDate?
    split
    · exact absurd (h '-' (by simp)) (by decide)
    · rfl
  simp [isMoment, htime, hdate]

theorem word?_of_isDigit (hhead : ∀ c, cs.head? = some c → c = '-' ∨ c.isDigit = true)
    (h : ∀ c ∈ cs.tail, c.isDigit = true) : word? cs = decimal? cs := by
  unfold word?
  split
  case h_6 => simp [isMoment_of_isDigit h]
  case h_1 => exact absurd (hhead 't' rfl) (by decide)
  case h_2 => exact absurd (hhead 'f' rfl) (by decide)
  case h_3 => exact absurd (h 'x' (by simp)) (by decide)
  case h_4 => exact absurd (h 'o' (by simp)) (by decide)
  case h_5 => exact absurd (h 'b' (by simp)) (by decide)

theorem whole?_digitsOf (n : Nat) : whole? (Decimal.digitsOf n) = some (Decimal.digitsOf n) := by
  have hgroups := digitGroups?_of_isDigit (Decimal.digitsOf_ne_nil n)
    fun c => Decimal.isDigit_of_mem_digitsOf
  unfold whole?
  split
  · rename_i c more heq
    by_cases hn : n = 0
    · rw [hn, Decimal.digitsOf_zero] at heq
      cases heq
    · exact absurd (by rw [heq]; rfl) (Decimal.head?_digitsOf hn)
  · exact hgroups

/-- The digits of a number with a sign before them are that number. -/
theorem word?_signed (negative : Bool) (n : Nat) :
    word? (Decimal.signed negative (Decimal.digitsOf n)) =
      integer? (if negative then -(n : Int) else n) := by
  have hdigits (c : Char) (hc : c ∈ Decimal.digitsOf n) : c.isDigit = true :=
    Decimal.isDigit_of_mem_digitsOf hc
  have hsign : Decimal.takeSign (Decimal.signed negative (Decimal.digitsOf n)) =
      (negative, Decimal.digitsOf n) := by
    cases negative with
    | true => rfl
    | false => exact Decimal.takeSign_of_isDigit fun c hc => hdigits c (List.mem_of_head? hc)
  have hgroups : takeGroups (Decimal.digitsOf n) = (Decimal.digitsOf n, []) := by
    have hall : ∀ c ∈ Decimal.digitsOf n, (c.isDigit || c == '_') = true := fun c hc => by
      simp [hdigits c hc]
    have htake : (Decimal.digitsOf n ++ []).takeWhile (fun c : Char => c.isDigit || c == '_') =
        Decimal.digitsOf n ++ [] := List.takeWhile_append_of_pos hall
    have hdrop : (Decimal.digitsOf n ++ []).dropWhile (fun c : Char => c.isDigit || c == '_') = [] :=
      List.dropWhile_append_of_pos hall
    rw [List.append_nil] at htake hdrop
    rw [takeGroups, htake, hdrop]
  have hword : Decimal.digitsOf n ≠ ['i', 'n', 'f'] ∧ Decimal.digitsOf n ≠ ['n', 'a', 'n'] := by
    constructor
    all_goals
      intro heq
      exact absurd (hdigits 'n' (by simp [heq])) (by decide)
  rw [word?_of_isDigit, decimal?, hsign]
  · simp only [hword.1, hword.2, if_false, hgroups, whole?_digitsOf, Option.bind_some]
    rw [afterWhole?, Decimal.digitsValue_digitsOf]
  · intro c hc
    cases negative with
    | true =>
        cases hc
        exact .inl rfl
    | false => exact .inr (hdigits c (List.mem_of_head? hc))
  · intro c hc
    cases negative with
    | true => exact hdigits c hc
    | false => exact hdigits c (List.mem_of_mem_tail hc)

theorem isWord_signed {negative : Bool} (h : IsWord cs) : IsWord (Decimal.signed negative cs) := by
  cases negative with
  | false => exact h
  | true =>
      refine ⟨List.cons_ne_nil _ _, fun c hc => ?_⟩
      rcases List.mem_cons.1 hc with rfl | hc
      · rfl
      · exact h.plain c hc

theorem isWord_digitsOf (n : Nat) : IsWord (Decimal.digitsOf n) :=
  ⟨Decimal.digitsOf_ne_nil n, fun _ hc => isWordChar_of_isDigit (Decimal.isDigit_of_mem_digitsOf hc)⟩

/-! ### Numbers with a point -/

theorem isWord_positional (d : Decimal) : IsWord (Decimal.positional d) := by
  have hdigits (c : Char) (hc : c ∈ Decimal.digitsOf d.digits) : isWordChar c = true :=
    (isWord_digitsOf _).plain c hc
  have hzeros (n : Nat) (c : Char) (hc : c ∈ Decimal.zeros n) : isWordChar c = true :=
    isWordChar_of_isDigit (Decimal.isDigit_of_mem_zeros hc)
  unfold Decimal.positional
  dsimp only
  split
  · refine ⟨List.append_ne_nil_of_left_ne_nil (Decimal.digitsOf_ne_nil _) _, fun c hc => ?_⟩
    rcases List.mem_append.1 hc with hc | hc
    · exact hdigits c hc
    · exact hzeros _ c hc
  · split
    · refine ⟨List.append_ne_nil_of_right_ne_nil _ (List.cons_ne_nil _ _), fun c hc => ?_⟩
      rcases List.mem_append.1 hc with hc | hc
      · exact hdigits c (List.mem_of_mem_take hc)
      · rcases List.mem_cons.1 hc with rfl | hc
        · rfl
        · exact hdigits c (List.mem_of_mem_drop hc)
    · refine ⟨List.cons_ne_nil _ _, fun c hc => ?_⟩
      rcases List.mem_cons.1 hc with rfl | hc
      · rfl
      · rcases List.mem_cons.1 hc with rfl | hc
        · rfl
        · rcases List.mem_append.1 hc with hc | hc
          · exact hzeros _ c hc
          · exact hdigits c hc

theorem isWord_pointed (h : IsWord cs) : IsWord (Decimal.pointed cs) := by
  unfold Decimal.pointed
  split
  · exact h
  · refine ⟨List.append_ne_nil_of_left_ne_nil h.ne_nil _, fun c hc => ?_⟩
    rcases List.mem_append.1 hc with hc | hc
    · exact h.plain c hc
    · exact List.all_eq_true.1 (show ['.', '0'].all isWordChar = true from rfl) c hc

theorem isWord_settings (x : Float) : IsWord (Decimal.settings x).toList := by
  unfold Decimal.settings
  split
  · exact ⟨by decide, List.all_eq_true.1 rfl⟩
  · split
    · exact ⟨by decide, List.all_eq_true.1 rfl⟩
    · exact ⟨by decide, List.all_eq_true.1 rfl⟩
  · rw [String.toList_ofList]
    exact isWord_signed (isWord_pointed (isWord_positional _))

/-! ### Values without parts -/

/-- The reader takes the text of a value for that value: whole numbers have to fit in a word, and
the word for a number with a point has to stand for it. -/
def Scalar.Readable : Scalar → Prop
  | .string _ => True
  | .integer n => fitsWord n = true
  | .float x => word? (Decimal.settings x).toList = some (.scalar (.float x))
  | .boolean _ => True

theorem word?_write {s : Scalar} (h : s.Readable) (hstring : ∀ value, s ≠ .string value) :
    IsWord s.write ∧ word? s.write = some (.scalar s) := by
  cases s with
  | string value => exact absurd rfl (hstring value)
  | integer n =>
      refine ⟨isWord_signed (isWord_digitsOf _), ?_⟩
      have hn : (if decide (n < 0) then -(n.natAbs : Int) else n.natAbs) = n := by
        by_cases hnegative : n < 0
        · rw [if_pos (by simpa using hnegative)]
          omega
        · rw [if_neg (by simpa using hnegative)]
          omega
      have hfits : fitsWord n = true := h
      rw [Scalar.write, word?_signed, hn, integer?, if_pos hfits]
  | float x => exact ⟨isWord_settings x, h⟩
  | boolean value =>
      cases value with
      | true => exact ⟨⟨by decide, List.all_eq_true.1 rfl⟩, rfl⟩
      | false => exact ⟨⟨by decide, List.all_eq_true.1 rfl⟩, rfl⟩

/-- A value without parts starts with a quote or with a character of a word. -/
def Starts (cs : List Char) : Prop :=
  ∃ c more, cs = c :: more ∧ (c = '"' ∨ c = '\'' ∨ isWordChar c = true)

theorem IsWord.starts (h : IsWord cs) : Starts cs := by
  cases cs with
  | nil => exact absurd rfl h.ne_nil
  | cons c more => exact ⟨c, more, rfl, .inr (.inr (h.plain c List.mem_cons_self))⟩

theorem quoted_eq (s : String) :
    (∃ more, quoted s = '"' :: more) ∨ ∃ more, quoted s = '\'' :: more := by
  rw [quoted]
  cases Style.of s.toList with
  | basic => exact .inl ⟨_, rfl⟩
  | literal => exact .inr ⟨_, rfl⟩
  | longBasic => exact .inl ⟨_, rfl⟩
  | longLiteral => exact .inr ⟨_, rfl⟩

theorem Scalar.starts_write (h : s.Readable) : Starts s.write := by
  cases s with
  | string value =>
      rcases quoted_eq value with ⟨more, hmore⟩ | ⟨more, hmore⟩
      · exact ⟨_, more, hmore, .inl rfl⟩
      · exact ⟨_, more, hmore, .inr (.inl rfl)⟩
  | integer n => exact (word?_write h nofun).1.starts
  | float x => exact (word?_write h nofun).1.starts
  | boolean value => exact (word?_write h nofun).1.starts

/-- A value without parts is read up to where it ends. -/
theorem readPlain_write (h : s.Readable) (hrest : Ends rest) :
    readPlain (s.write ++ rest) = some (.scalar s, rest) := by
  have hwords (hstring : ∀ value, s ≠ .string value) :
      readPlain (s.write ++ rest) = some (.scalar s, rest) := by
    obtain ⟨hword, hvalue⟩ := word?_write h hstring
    have hplain : readPlain (s.write ++ rest) = readWord (s.write ++ rest) := by
      obtain ⟨c, more, heq⟩ := List.exists_cons_of_ne_nil hword.ne_nil
      have hc := hword.plain c (by simp [heq])
      rw [heq, List.cons_append, readPlain]
      · rintro _ heq
        cases heq
        cases hc
      · rintro _ heq
        cases heq
        cases hc
    rw [hplain, readWord_append hword hrest, hvalue, Option.map_some]
  cases s with
  | string value =>
      have hquoted := readString?_quoted (hrest.unlike (c := '"') (by decide))
        (hrest.unlike (c := '\'') (by decide)) value
      show readPlain (quoted value ++ rest) = _
      rcases quoted_eq value with ⟨more, hmore⟩ | ⟨more, hmore⟩
      · rw [hmore] at hquoted ⊢
        rw [List.cons_append, readPlain, ← List.cons_append, hquoted, Option.map_some]
      · rw [hmore] at hquoted ⊢
        rw [List.cons_append, readPlain, ← List.cons_append, hquoted, Option.map_some]
  | integer n => exact hwords nofun
  | float x => exact hwords nofun
  | boolean value => exact hwords nofun

theorem readValue_write (h : s.Readable) (limit : Nat) (hrest : Ends rest) :
    readValue limit (s.write ++ rest) = some (.scalar s, rest) := by
  have hplain : readValue limit (s.write ++ rest) = readPlain (s.write ++ rest) := by
    obtain ⟨c, more, heq, hc⟩ := s.starts_write h
    rw [heq, List.cons_append]
    have hbracket (tail : List Char) : c :: (more ++ rest) ≠ '[' :: tail := by
      intro heq
      cases heq
      revert hc
      decide
    have hbrace (tail : List Char) : c :: (more ++ rest) ≠ '{' :: tail := by
      intro heq
      cases heq
      revert hc
      decide
    cases limit with
    | zero =>
        rw [readValue]
        · exact hbracket
        · exact hbrace
    | succ limit =>
        rw [readValue]
        · exact hbracket
        · exact hbrace
  rw [hplain, readPlain_write h hrest]

/-! ### Gaps -/

/-- The text starts with something that is no gap between values. -/
def IsSolid (cs : List Char) : Prop :=
  ∃ c more, cs = c :: more ∧ isSpace c = false ∧ c ≠ '#' ∧ c ≠ '\n' ∧ c ≠ '\r'

theorem skipSpaces_of_isSolid (h : IsSolid cs) : skipSpaces cs = cs := by
  obtain ⟨c, more, rfl, hspace, -⟩ := h
  simp [skipSpaces, hspace]

theorem skipLines_succ (h : IsSolid (skipSpaces cs)) (fuel : Nat) :
    skipLines (fuel + 1) cs = skipSpaces cs := by
  obtain ⟨c, more, heq, -, hcomment, hbreak, hreturn⟩ := h
  have hafter : afterBreak? (skipComment (skipSpaces cs)) = none := by
    rw [heq, skipComment, afterBreak?]
    · rintro _ heq
      exact hbreak (List.cons.inj heq).1
    · rintro _ heq
      exact hreturn (List.cons.inj heq).1
    · rintro _ heq
      exact hcomment (List.cons.inj heq).1
  rw [skipLines, hafter]

theorem skipGaps_of_isSolid (h : IsSolid cs) : skipGaps cs = cs := by
  have hspaces := skipSpaces_of_isSolid h
  obtain ⟨c, more, rfl, -⟩ := id h
  rw [skipGaps, List.length_cons, skipLines_succ (by rwa [hspaces]), hspaces]

theorem skipGaps_break (cs : List Char) : skipGaps ('\n' :: cs) = skipGaps cs := rfl

/-- The blanks before an item on a line of its own. -/
theorem skipGaps_indented (h : IsSolid cs) : skipGaps (' ' :: ' ' :: ' ' :: ' ' :: cs) = cs := by
  have hspaces : skipSpaces (' ' :: ' ' :: ' ' :: ' ' :: cs) = cs := skipSpaces_of_isSolid h
  rw [skipGaps, List.length_cons, skipLines_succ (by rwa [hspaces]), hspaces]

theorem Starts.isSolid (h : Starts cs) (rest : List Char) : IsSolid (cs ++ rest) := by
  obtain ⟨c, more, rfl, hc⟩ := h
  have hgap {d : Char} (hd : ¬(d = '"' ∨ d = '\'' ∨ isWordChar d = true)) : c ≠ d := by
    rintro rfl
    exact hd hc
  have hspace : isSpace c = false := by
    simp [isSpace, hgap (d := ' ') (by decide), hgap (d := '\t') (by decide)]
  exact ⟨c, _, rfl, hspace, hgap (by decide), hgap (by decide), hgap (by decide)⟩

/-! ### Lists of values -/

/-- An item is read after the gap before it, and then what follows it is looked at. -/
theorem readItems_write (h : s.Readable) (hrest : Ends rest) {before : List Char}
    (hgap : skipGaps before = s.write ++ rest) (limit fuel : Nat) (items : List Toml) :
    readItems (readValue limit) (fuel + 1) items before =
      match skipGaps rest with
      | ',' :: rest => readItems (readValue limit) fuel (.scalar s :: items) rest
      | ']' :: rest => some (.array (.scalar s :: items).reverse, rest)
      | _ => none := by
  have hbracket (tail : List Char) : s.write ++ rest ≠ ']' :: tail := by
    obtain ⟨c, more, heq, hc⟩ := s.starts_write h
    rw [heq, List.cons_append]
    intro heq
    cases heq
    revert hc
    decide
  rw [readItems, hgap]
  split
  · rename_i heq
    exact absurd heq (hbracket _)
  · rw [readValue_write h limit hrest]
    rfl

/-- Items that stand on a line each. -/
def rows (values : List Scalar) : List Char :=
  values.flatMap fun v => [' ', ' ', ' ', ' '] ++ v.write ++ [',', '\n']

theorem length_le_rows (values : List Scalar) : values.length ≤ (rows values).length := by
  induction values with
  | nil => exact Nat.zero_le _
  | cons v values ih =>
      rw [rows] at ih ⊢
      rw [List.flatMap_cons, List.length_append, List.length_append, List.length_append,
        List.length_cons]
      simp only [List.length_cons, List.length_nil]
      omega

theorem isSolid_comma (cs : List Char) : IsSolid (',' :: cs) :=
  ⟨_, _, rfl, by decide, by decide, by decide, by decide⟩

theorem isSolid_bracket (cs : List Char) : IsSolid (']' :: cs) :=
  ⟨_, _, rfl, by decide, by decide, by decide, by decide⟩

theorem readItems_rows {values : List Scalar} (h : ∀ v ∈ values, v.Readable) (limit : Nat)
    {fuel : Nat} (hfuel : values.length < fuel) (items : List Toml) (rest : List Char) :
    readItems (readValue limit) fuel items ('\n' :: (rows values ++ ']' :: rest)) =
      some (.array (items.reverse ++ values.map .scalar), rest) := by
  induction values generalizing fuel items with
  | nil =>
      obtain ⟨fuel, rfl⟩ := Nat.exists_eq_succ_of_ne_zero (Nat.ne_zero_of_lt hfuel)
      have hgap : skipGaps ('\n' :: ']' :: rest) = ']' :: rest :=
        (skipGaps_break _).trans (skipGaps_of_isSolid (isSolid_bracket rest))
      show readItems (readValue limit) (fuel + 1) items ('\n' :: ']' :: rest) = _
      rw [readItems, hgap]
      simp
  | cons v values ih =>
      obtain ⟨fuel, rfl⟩ := Nat.exists_eq_succ_of_ne_zero (Nat.ne_zero_of_lt hfuel)
      have hv := h v List.mem_cons_self
      have hends : Ends (',' :: '\n' :: (rows values ++ ']' :: rest)) :=
        ⟨_, _, rfl, .inr (.inl rfl)⟩
      have hrow : rows (v :: values) ++ ']' :: rest = ' ' :: ' ' :: ' ' :: ' ' ::
          (v.write ++ ',' :: '\n' :: (rows values ++ ']' :: rest)) := by
        simp [rows]
      have hgap : skipGaps ('\n' :: (rows (v :: values) ++ ']' :: rest)) =
          v.write ++ ',' :: '\n' :: (rows values ++ ']' :: rest) := by
        rw [skipGaps_break, hrow, skipGaps_indented ((v.starts_write hv).isSolid _)]
      rw [readItems_write hv hends hgap, skipGaps_of_isSolid (isSolid_comma _)]
      show readItems (readValue limit) fuel (.scalar v :: items) _ = _
      rw [ih (fun v hv => h v (List.mem_cons_of_mem _ hv)) (Nat.lt_of_succ_lt_succ hfuel)]
      simp

/-! ### Settings -/

/-- What a setting is read as. -/
def Setting.toToml : Setting → Toml
  | one value => .scalar value
  | many values => .array (values.map .scalar)

/-- All values of a setting can be read. -/
def Setting.Readable : Setting → Prop
  | one value => value.Readable
  | many values => ∀ v ∈ values, v.Readable

/-- **A setting is read up to where it ends.** -/
theorem readValue_setting {setting : Setting} (h : setting.Readable) (limit : Nat)
    (hrest : Ends rest) :
    readValue (limit + 1) (setting.write ++ rest) = some (setting.toToml, rest) := by
  match setting with
  | .one value => exact readValue_write h _ hrest
  | .many [] =>
      show readItems (readValue limit) _ [] (']' :: rest) = _
      rw [readItems, skipGaps_of_isSolid (isSolid_bracket rest)]
      rfl
  | .many [value] =>
      have hvalue : value.Readable := h value List.mem_cons_self
      have hends : Ends (']' :: rest) := ⟨_, _, rfl, .inr (.inr rfl)⟩
      have hwritten : (Setting.many [value]).write ++ rest = '[' :: (value.write ++ ']' :: rest) := by
        simp [Setting.write]
      rw [hwritten, readValue, readItems_write hvalue hends
        (skipGaps_of_isSolid ((value.starts_write hvalue).isSolid _)),
        skipGaps_of_isSolid (isSolid_bracket rest)]
      rfl
  | .many (first :: second :: others) =>
      have hwritten : (Setting.many (first :: second :: others)).write ++ rest =
          '[' :: '\n' :: (rows (first :: second :: others) ++ ']' :: rest) := by
        simp [Setting.write, rows]
      rw [hwritten, readValue, readItems_rows h]
      · rfl
      · have hlength := length_le_rows (first :: second :: others)
        simp only [List.length_cons, List.length_append] at hlength ⊢
        omega

end Triage.Toml
