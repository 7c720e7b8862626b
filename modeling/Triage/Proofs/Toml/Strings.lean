/-
Strings and keys of settings files are read back as they were written.

In double quotes the reader takes off just what was written for each character.  Within three quotes
that fails for a run of quotes at the end, of which the reader sees the first three at once: it is
then that the rest of the run is told from what closes the string, because nothing that could be
taken for one more quote comes after it.
-/
import Triage.Toml.Strings
import Triage.Toml.Writing

namespace Triage.Toml

variable {c : Char} {cs rest seen : List Char}

/-! ### Characters -/

theorem isText_of_not_isControl (hcontrol : isControl c = false) (hbreak : c ≠ '\n') :
    isText c = true := by
  by_cases htab : c = '\t'
  · simp [isText, htab]
  · have hcode : ¬(c.toNat < 0x20 ∨ c.toNat = 0x7F) := by
      simpa [isControl, htab, hbreak] using hcontrol
    simp only [isText, Bool.or_eq_true, Bool.and_eq_true, decide_eq_true_eq, bne_iff_ne]
    omega

/-- Four digits are a character again. -/
theorem codePoint?_fourDigits (h : isControl c = true) :
    ∃ a b d e, fourDigits c = [a, b, d, e] ∧ codePoint? [a, b, d, e] = some c := by
  have hall : ∀ n < 0x80, ∃ a b d e, fourDigits (Char.ofNat n) = [a, b, d, e] ∧
      codePoint? [a, b, d, e] = some (Char.ofNat n) := by
    intro n hn
    have hread : ∀ n < 0x80, (fourDigits (Char.ofNat n)).length = 4 ∧
        codePoint? (fourDigits (Char.ofNat n)) = some (Char.ofNat n) := by
      decide +kernel
    obtain ⟨hlength, hcode⟩ := hread n hn
    match hdigits : fourDigits (Char.ofNat n), hlength with
    | [a, b, d, e], _ => exact ⟨a, b, d, e, rfl, hdigits ▸ hcode⟩
  have hcode : c.toNat < 0x80 := by
    simp only [isControl, Bool.and_eq_true, Bool.or_eq_true, decide_eq_true_eq,
      beq_iff_eq] at h
    omega
  simpa only [Char.ofNat_toNat] using hall c.toNat hcode

/-! ### Double quotes -/

/-- What is written for one character. -/
def unit (inLine quotesEnd : Bool) (c : Char) : List Char :=
  (escape? inLine quotesEnd c).getD [c]

/-- The ways to write a character between double quotes: by an escape of one letter, by an escape of
four digits, or as it is. -/
inductive Written (inLine : Bool) (c : Char) : List Char → Prop
  | letter (d : Char) (hescape : shortEscape? d = some c) : Written inLine c ['\\', d]
  | digits (a b d e : Char) (hcode : codePoint? [a, b, d, e] = some c) :
      Written inLine c ['\\', 'u', a, b, d, e]
  | plain (hquote : c ≠ '"') (hbackslash : c ≠ '\\') (hreturn : c ≠ '\r')
      (htext : isText c = true ∨ inLine = false ∧ c = '\n') : Written inLine c [c]

theorem written_unit (inLine : Bool) (c : Char) : Written inLine c (unit inLine true c) := by
  unfold unit escape?
  split
  case h_5 =>
    cases inLine
    · exact .plain (by decide) (by decide) (by decide) (.inr ⟨rfl, rfl⟩)
    · exact .letter 'n' rfl
  case h_8 hquote hbackslash _ _ hbreak _ hreturn =>
    split
    · rename_i hcontrol
      obtain ⟨a, b, d, e, hdigits, hcode⟩ := codePoint?_fourDigits hcontrol
      rw [hdigits]
      exact .digits a b d e hcode
    · rename_i hcontrol
      exact .plain hquote hbackslash hreturn
        (.inl (isText_of_not_isControl (Bool.not_eq_true _ ▸ hcontrol) hbreak))
  all_goals exact .letter _ rfl

/-- The reader takes off what was written for a character. -/
theorem readBasic_unit (seen : List Char) (c : Char) (rest : List Char) :
    readBasic seen (unit true true c ++ rest) = readBasic (c :: seen) rest := by
  have hwritten := written_unit true c
  generalize unit true true c = written at hwritten
  cases hwritten with
  | letter d hescape =>
      show readBasic seen ('\\' :: d :: rest) = _
      rw [readBasic, hescape]
      all_goals
        intros
        rename_i hd _
        cases hd
        cases hescape
  | digits a b d e hcode =>
      show readBasic seen ('\\' :: 'u' :: a :: b :: d :: e :: rest) = _
      rw [readBasic, hcode]
  | plain hquote hbackslash hreturn htext =>
      show readBasic seen (c :: rest) = _
      rw [readBasic, if_pos (htext.resolve_right nofun)]
      · exact hquote
      all_goals
        intros
        rename_i hc _
        exact hbackslash hc

/-- Only double quotes are written differently where one may not stand. -/
theorem escape?_of_ne (hc : c ≠ '"') (inLine quotesEnd quotesEnd' : Bool) :
    escape? inLine quotesEnd c = escape? inLine quotesEnd' c := by
  unfold escape?
  split
  · exact absurd rfl hc
  all_goals rfl

theorem escaped_eq_flatMap (quotes : Nat) (cs : List Char) :
    escaped true 0 quotes cs = cs.flatMap (unit true true) := by
  induction cs generalizing quotes with
  | nil => rfl
  | cons c rest ih =>
      have hescape : escape? true (0 < if c == '"' then quotes + 1 else 0) c =
          escape? true true c := by
        by_cases hc : c = '"'
        · simp [hc]
        · exact escape?_of_ne hc _ _ _
      rw [List.flatMap_cons, escaped, hescape, unit]
      cases escape? true true c with
      | none => simp [ih]
      | some text => simp [ih]

theorem readBasic_escaped (seen : List Char) (quotes : Nat) (cs rest : List Char) :
    readBasic seen (escaped true 0 quotes cs ++ '"' :: rest) =
      some (String.ofList (seen.reverse ++ cs), rest) := by
  rw [escaped_eq_flatMap]
  induction cs generalizing seen with
  | nil => simp [readBasic]
  | cons c more ih =>
      rw [List.flatMap_cons, List.append_assoc, readBasic_unit, ih]
      simp

/-! ### Single quotes -/

/-- The text can stand in single quotes. -/
def IsLiteral (cs : List Char) : Prop := ∀ c ∈ cs, isText c = true ∧ c ≠ '\''

theorem readLiteral_append (h : IsLiteral cs) (seen rest : List Char) :
    readLiteral seen (cs ++ '\'' :: rest) =
      some (String.ofList (seen.reverse ++ cs), rest) := by
  induction cs generalizing seen with
  | nil => simp [readLiteral]
  | cons c more ih =>
      obtain ⟨htext, hquote⟩ := h c List.mem_cons_self
      rw [List.cons_append, readLiteral, if_pos htext, ih fun c hc => h c (List.mem_cons_of_mem _ hc)]
      · simp
      · exact hquote

/-! ### Three quotes -/

/-- A text starts with something other than a certain character. -/
def Unlike (c : Char) (cs : List Char) : Prop := cs.head? ≠ some c

theorem closeLong_append {quote : Char} (h : Unlike quote rest) {run : List Char}
    (hrun : ∀ c ∈ run, c = quote) (hlength : run.length ≤ 2) (seen : List Char) :
    closeLong quote seen (run ++ rest) = (String.ofList (seen.reverse ++ run), rest) := by
  have hrest : rest.takeWhile (· == quote) = [] := by
    cases rest with
    | nil => rfl
    | cons c more =>
        have hc : c ≠ quote := by simpa [Unlike] using h
        simp [hc]
  have hextra : ((run ++ rest).takeWhile (· == quote)).take 2 = run := by
    rw [List.takeWhile_append_of_pos fun c hc => by simpa using hrun c hc, hrest, List.append_nil,
      List.take_of_length_le hlength]
  rw [closeLong, hextra]
  simp

theorem readLongBasic_unit (seen : List Char) (c : Char) (rest : List Char) :
    readLongBasic false seen (unit false true c ++ rest) =
      readLongBasic false (c :: seen) rest := by
  have hwritten := written_unit false c
  generalize unit false true c = written at hwritten
  cases hwritten with
  | letter d hescape =>
      show readLongBasic false seen ('\\' :: d :: rest) = _
      rw [readLongBasic, hescape]
      all_goals
        intros
        rename_i hd _
        cases hd
        cases hescape
  | digits a b d e hcode =>
      show readLongBasic false seen ('\\' :: 'u' :: a :: b :: d :: e :: rest) = _
      rw [readLongBasic, hcode]
  | plain hquote hbackslash hreturn htext =>
      have htext : (c == '\n' || isText c) = true := by
        rcases htext with htext | ⟨-, rfl⟩
        · simp [htext]
        · rfl
      show readLongBasic false seen (c :: rest) = _
      rw [readLongBasic]
      · simp [htext]
      · intro _ hc
        exact absurd hc hquote
      · intro _ _ _ _ _ hc
        exact absurd hc hbackslash
      · intro _ _ _ _ _ _ _ _ _ hc
        exact absurd hc hbackslash
      · intro _ _ hc
        exact absurd hc hbackslash
      · intro _ hc
        exact absurd hc hreturn

theorem unlike_unit (inLine : Bool) (c : Char) (cs : List Char) :
    Unlike '"' (unit inLine true c ++ cs) := by
  have hwritten := written_unit inLine c
  generalize unit inLine true c = written at hwritten
  cases hwritten with
  | letter d hescape => exact nofun
  | digits a b d e hcode => exact nofun
  | plain hquote hbackslash hreturn htext => simpa [Unlike] using hquote

theorem escaped_cons_of_ne (hc : c ≠ '"') (quotes : Nat) (cs : List Char) :
    escaped false 2 quotes (c :: cs) = unit false true c ++ escaped false 2 0 cs := by
  rw [escaped, escape?_of_ne hc _ _ true, unit, if_neg (by simpa using hc)]
  cases escape? false true c with
  | none => rfl
  | some text => rfl

/-- A third double quote in a row is not written as it is. -/
theorem escaped_quote {quotes : Nat} (h : 2 ≤ quotes) (cs : List Char) :
    escaped false 2 quotes ('"' :: cs) = unit false true '"' ++ escaped false 2 0 cs := by
  have hallowed : 2 < quotes + 1 := by omega
  simp [escaped, escape?, unit, hallowed]

theorem escaped_quote_of_lt {quotes : Nat} (h : quotes < 2) (cs : List Char) :
    escaped false 2 quotes ('"' :: cs) = '"' :: escaped false 2 (quotes + 1) cs := by
  have hallowed : ¬2 < quotes + 1 := by omega
  simp [escaped, escape?, hallowed]

/-- Where a text is written with a double quote, there is its end or a quote in it. -/
theorem quote_of_escaped {quotes : Nat} {after tail : List Char}
    (h : escaped false 2 quotes cs ++ '"' :: after = '"' :: tail) :
    cs = [] ∨ ∃ more, cs = '"' :: more ∧ quotes < 2 ∧
      tail = escaped false 2 (quotes + 1) more ++ '"' :: after := by
  have hunit (c : Char) (more : List Char) :
      escaped false 2 quotes cs = unit false true c ++ more → False := by
    intro heq
    have hunlike := unlike_unit false c (more ++ '"' :: after)
    rw [← List.append_assoc, ← heq, h] at hunlike
    exact hunlike rfl
  cases cs with
  | nil => exact .inl rfl
  | cons c more =>
      by_cases hc : c = '"'
      · subst hc
        by_cases hquotes : quotes < 2
        · rw [escaped_quote_of_lt hquotes, List.cons_append] at h
          exact .inr ⟨more, rfl, hquotes, (List.cons_inj_right _).1 h.symm⟩
        · exact (hunit _ _ (escaped_quote (by omega) more)).elim
      · exact (hunit _ _ (escaped_cons_of_ne hc quotes more)).elim

/-- A text in three double quotes is read up to them, if no more quotes follow. -/
theorem readLongBasic_escaped (hrest : Unlike '"' rest) (seen : List Char) (quotes : Nat)
    (cs : List Char) :
    readLongBasic false seen (escaped false 2 quotes cs ++ '"' :: '"' :: '"' :: rest) =
      some (String.ofList (seen.reverse ++ cs), rest) := by
  -- a run of quotes that ends the text is read together with the closing quotes
  have hrun (seen run : List Char) (hquotes : ∀ c ∈ run, c = '"') (hlength : run.length ≤ 2) :
      readLongBasic false seen ('"' :: '"' :: '"' :: (run ++ rest)) =
        some (String.ofList (seen.reverse ++ run), rest) := by
    rw [readLongBasic, closeLong_append hrest hquotes hlength]
  induction cs generalizing seen quotes with
  | nil => exact hrun seen [] (List.forall_mem_nil _) (Nat.zero_le 2)
  | cons c more ih =>
      have hunit : readLongBasic false seen
          (unit false true c ++ escaped false 2 0 more ++ '"' :: '"' :: '"' :: rest) =
            some (String.ofList (seen.reverse ++ c :: more), rest) := by
        rw [List.append_assoc, readLongBasic_unit, ih]
        simp
      by_cases hc : c = '"'
      · subst hc
        by_cases hquotes : quotes < 2
        · rw [escaped_quote_of_lt hquotes, List.cons_append]
          by_cases hclose : ∃ tail, escaped false 2 (quotes + 1) more ++ '"' :: '"' :: '"' :: rest =
              '"' :: '"' :: tail
          · obtain ⟨tail, htail⟩ := hclose
            rcases quote_of_escaped htail with rfl | ⟨more, rfl, hlt, htail⟩
            · exact hrun seen ['"'] (by simp) (by simp)
            · rcases quote_of_escaped htail.symm with rfl | ⟨_, -, hlt', -⟩
              · rw [escaped_quote_of_lt hlt]
                exact hrun seen ['"', '"'] (by simp) (by simp)
              · omega
          · rw [readLongBasic]
            · simp only [Bool.false_and, Bool.false_eq_true, if_false, show isText '"' = true by rfl,
                Bool.or_true, if_true]
              rw [ih]
              simp
            · intro tail _ h
              exact hclose ⟨tail, h⟩
            all_goals
              intros
              contradiction
        · rw [escaped_quote (by omega)]
          exact hunit
      · rw [escaped_cons_of_ne hc]
        exact hunit

theorem le_longestRun (c : Char) (current : Nat) (cs : List Char) :
    current ≤ longestRun c current cs := by
  induction cs generalizing current with
  | nil => exact Nat.le_refl _
  | cons d rest ih =>
      rw [longestRun]
      split
      · exact Nat.le_trans (Nat.le_succ _) (ih _)
      · exact Nat.le_max_left _ _

theorem not_mem_of_longestRun (h : longestRun c 0 cs = 0) : c ∉ cs := by
  induction cs with
  | nil => exact List.not_mem_nil
  | cons d rest ih =>
      rw [longestRun] at h
      split at h
      · have := le_longestRun c (0 + 1) rest
        omega
      · rename_i hd
        rw [List.mem_cons, not_or]
        exact ⟨fun hc => hd (by simp [hc]), ih (Nat.max_eq_zero_iff.1 h).2⟩

/-- A text in three single quotes is read up to them, if no more quotes follow. -/
theorem readLongLiteral_append (hrest : Unlike '\'' rest) (hcontrols : cs.any isControl = false)
    (seen : List Char) {quotes : Nat} (hruns : longestRun '\'' quotes cs ≤ 2) :
    readLongLiteral seen (cs ++ '\'' :: '\'' :: '\'' :: rest) =
      some (String.ofList (seen.reverse ++ cs), rest) := by
  have hrun (seen run : List Char) (hquotes : ∀ c ∈ run, c = '\'') (hlength : run.length ≤ 2) :
      readLongLiteral seen ('\'' :: '\'' :: '\'' :: (run ++ rest)) =
        some (String.ofList (seen.reverse ++ run), rest) := by
    rw [readLongLiteral, closeLong_append hrest hquotes hlength]
  induction cs generalizing seen quotes with
  | nil => exact hrun seen [] (List.forall_mem_nil _) (Nat.zero_le 2)
  | cons c more ih =>
      obtain ⟨hcontrol, hcontrols⟩ := Bool.or_eq_false_iff.1 (List.any_cons ▸ hcontrols)
      have htext : (c == '\n' || isText c) = true := by
        by_cases hbreak : c = '\n'
        · simp [hbreak]
        · simp [isText_of_not_isControl hcontrol hbreak]
      have hnext : ∃ quotes, longestRun '\'' quotes more ≤ 2 := by
        rw [longestRun] at hruns
        split at hruns
        · exact ⟨_, hruns⟩
        · exact ⟨0, Nat.le_trans (Nat.le_max_right _ _) hruns⟩
      obtain ⟨next, hnext⟩ := hnext
      rw [List.cons_append]
      by_cases hclose : ∃ tail, c :: (more ++ '\'' :: '\'' :: '\'' :: rest) =
          '\'' :: '\'' :: '\'' :: tail
      · obtain ⟨tail, htail⟩ := hclose
        match more with
        | [] =>
            cases htail
            exact hrun seen ['\''] (by simp) (by simp)
        | [d] =>
            cases htail
            exact hrun seen ['\'', '\''] (by simp) (by simp)
        | d :: e :: more =>
            cases htail
            have hthree := le_longestRun '\'' (quotes + 1 + 1 + 1) more
            simp only [longestRun, beq_self_eq_true, if_true] at hruns
            omega
      · rw [readLongLiteral]
        · rw [if_pos htext, ih hcontrols _ hnext]
          simp
        · intro tail hc h
          exact hclose ⟨tail, by rw [hc, h]⟩
        · intro _ hc _
          subst hc
          cases hcontrol

/-! ### All strings -/

theorem readShort?_basic (cs rest : List Char) :
    readShort? (Style.basic.write cs ++ rest) = some (String.ofList cs, rest) := by
  show readBasic [] (escaped true 0 0 cs ++ ['"'] ++ rest) = _
  rw [List.append_assoc]
  exact readBasic_escaped [] 0 cs rest

theorem readShort?_literal (h : IsLiteral cs) (rest : List Char) :
    readShort? (Style.literal.write cs ++ rest) = some (String.ofList cs, rest) := by
  show readLiteral [] (cs ++ ['\''] ++ rest) = _
  rw [List.append_assoc]
  exact readLiteral_append h [] rest

/-- What is not the start of a string in three quotes is a string in one. -/
theorem readString?_eq_readShort? (hdouble : ∀ tail, cs ≠ '"' :: '"' :: '"' :: tail)
    (hsingle : ∀ tail, cs ≠ '\'' :: '\'' :: '\'' :: tail) : readString? cs = readShort? cs := by
  rw [readString?]
  · exact hdouble
  · exact hsingle

theorem readString?_basic (hrest : Unlike '"' rest) (cs : List Char) :
    readString? (Style.basic.write cs ++ rest) = some (String.ofList cs, rest) := by
  rw [readString?_eq_readShort?, readShort?_basic]
  · intro tail h
    change '"' :: (escaped true 0 0 cs ++ ['"'] ++ rest) = _ at h
    rw [escaped_eq_flatMap] at h
    cases cs with
    | nil =>
        cases h
        exact hrest rfl
    | cons c more =>
        rw [List.flatMap_cons, List.append_assoc, List.append_assoc] at h
        exact unlike_unit true c _ (by rw [List.cons.inj h |>.2]; rfl)
  · exact nofun

theorem readString?_literal (h : IsLiteral cs) (hrest : Unlike '\'' rest) :
    readString? (Style.literal.write cs ++ rest) = some (String.ofList cs, rest) := by
  rw [readString?_eq_readShort?, readShort?_literal h]
  · exact nofun
  · intro tail htail
    cases cs with
    | nil =>
        cases htail
        exact hrest rfl
    | cons c more =>
        have hc : c = '\'' := (List.cons.inj (List.cons.inj htail).2).1
        exact (h c List.mem_cons_self).2 hc

/-- The line break that may come first is dropped, and nothing else is. -/
theorem dropBreak_opening {written : List Char}
    (h : ∀ c, written.head? = some c → c ≠ '\r' ∧ (c = '\n' → '\n' ∈ cs)) :
    dropBreak (opening cs ++ written) = written := by
  rw [opening]
  by_cases hbreak : '\n' ∈ cs
  · rw [if_pos (by simpa using hbreak)]
    rfl
  · rw [if_neg (by simpa using hbreak), List.nil_append]
    cases written with
    | nil => rfl
    | cons c more =>
        obtain ⟨hreturn, hc⟩ := h c rfl
        rw [dropBreak, afterBreak?]
        · rfl
        · intro _ heq
          exact hbreak (hc (List.cons.inj heq).1)
        · intro _ heq
          exact hreturn (List.cons.inj heq).1

theorem head?_escaped {written : List Char}
    (h : (escaped false 2 0 cs ++ '"' :: written).head? = some c) :
    c ≠ '\r' ∧ (c = '\n' → '\n' ∈ cs) := by
  cases cs with
  | nil =>
      cases h
      decide
  | cons d more =>
      by_cases hd : d = '"'
      · rw [hd, escaped_quote_of_lt Nat.zero_lt_two] at h
        cases h
        exact ⟨by decide, nofun⟩
      · rw [escaped_cons_of_ne hd] at h
        have hwritten := written_unit false d
        generalize unit false true d = unit at hwritten h
        cases hwritten with
        | plain hquote hbackslash hreturn htext =>
            cases h
            exact ⟨hreturn, fun hbreak => hbreak ▸ List.mem_cons_self⟩
        | _ =>
            cases h
            exact ⟨by decide, nofun⟩

theorem readString?_longBasic (hrest : Unlike '"' rest) (cs : List Char) :
    readString? (Style.longBasic.write cs ++ rest) = some (String.ofList cs, rest) := by
  have hwritten : Style.longBasic.write cs ++ rest = '"' :: '"' :: '"' :: (opening cs ++
      (escaped false 2 0 cs ++ '"' :: '"' :: '"' :: rest)) := by
    simp [Style.write]
  rw [hwritten, readString?, dropBreak_opening fun _ => head?_escaped,
    readLongBasic_escaped hrest]
  rfl

theorem readString?_longLiteral (hrest : Unlike '\'' rest) (hcontrols : cs.any isControl = false)
    (hruns : longestRun '\'' 0 cs ≤ 2) :
    readString? (Style.longLiteral.write cs ++ rest) = some (String.ofList cs, rest) := by
  have hwritten : Style.longLiteral.write cs ++ rest = '\'' :: '\'' :: '\'' :: (opening cs ++
      (cs ++ '\'' :: '\'' :: '\'' :: rest)) := by
    simp [Style.write]
  rw [hwritten, readString?, dropBreak_opening, readLongLiteral_append hrest hcontrols [] hruns]
  · rfl
  · intro c hc
    cases cs with
    | nil =>
        cases hc
        decide
    | cons d more =>
        cases hc
        have hcontrol := List.any_eq_false.1 hcontrols c List.mem_cons_self
        refine ⟨?_, fun hbreak => hbreak ▸ List.mem_cons_self⟩
        rintro rfl
        exact hcontrol rfl

theorem isLiteral_of_longestRun (hcontrols : cs.any isControl = false)
    (hquotes : longestRun '\'' 0 cs = 0) (hbreaks : cs.contains '\n' = false) : IsLiteral cs := by
  intro c hc
  have hcontrol := List.any_eq_false.1 hcontrols c hc
  refine ⟨isText_of_not_isControl (Bool.not_eq_true _ ▸ hcontrol) ?_, ?_⟩
  · rintro rfl
    simp [hc] at hbreaks
  · rintro rfl
    exact not_mem_of_longestRun hquotes hc

/-- **A string is read back in whatever way it was written**, up to where it ends. -/
theorem readString?_quoted (hdouble : Unlike '"' rest) (hsingle : Unlike '\'' rest) (s : String) :
    readString? (quoted s ++ rest) = some (s, rest) := by
  have hread : readString? ((Style.of s.toList).write s.toList ++ rest) =
      some (String.ofList s.toList, rest) := by
    unfold Style.of
    dsimp only
    split
    · exact readString?_basic hdouble _
    · split
      · rename_i h
        simp only [Bool.and_eq_true, Bool.not_eq_true', decide_eq_true_eq] at h
        exact readString?_literal (isLiteral_of_longestRun h.1.1 h.1.2 h.2) hsingle
      · split
        · exact readString?_longBasic hdouble _
        · split
          · rename_i h
            simp only [Bool.and_eq_true, Bool.not_eq_true', decide_eq_true_eq] at h
            exact readString?_longLiteral hsingle h.1 h.2
          · split
            · exact readString?_longBasic hdouble _
            · exact readString?_basic hdouble _
  rw [quoted, hread, String.ofList_toList]

/-! ### Keys -/

theorem readShort?_ofKey (cs rest : List Char) :
    readShort? ((Style.ofKey cs).write cs ++ rest) = some (String.ofList cs, rest) := by
  unfold Style.ofKey
  dsimp only
  split
  · exact readShort?_basic cs rest
  · split
    · rename_i h
      simp only [Bool.and_eq_true, Bool.not_eq_true', List.any_eq_false, Bool.or_eq_true,
        beq_iff_eq, not_or] at h
      refine readShort?_literal (fun c hc => ?_) rest
      refine ⟨isText_of_not_isControl (Bool.not_eq_true _ ▸ (h.1 c hc).1) (h.1 c hc).2, ?_⟩
      rintro rfl
      simp [hc] at h
    · exact readShort?_basic cs rest

end Triage.Toml
