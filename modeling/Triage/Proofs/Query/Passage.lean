/-
Passages of a query.

A text is read as some tokens wherever it stands between blanks or parentheses.  Texts that are put
one after the other, with a blank between them, are read as their tokens one after the other; and
the text of any query that can be read is itself such a passage, whatever blanks there are on its
sides.
-/
import Triage.Proofs.Calendar.Timestamp
import Triage.Proofs.Except
import Triage.Proofs.Query.Quoting
import Triage.Proofs.Text

namespace Triage.Query

open Text

variable {d : Draft} {quote quote' : Option (List Char)} {cs rest text other : List Char}
  {ts us : List Token} {key value query : String}

/-! ### Texts that go on -/

theorem isSome_quoteAfter (quote : Option (List Char)) (c : Char) (rest : List Char) :
    (quoteAfter quote c rest).isSome = (quote.isSome != (c == '"')) := by
  unfold quoteAfter
  by_cases hquote : c = '"' <;> cases quote <;> simp [hquote]

theorem map_append_append (finished ts : List Token) (run : Except (List Char) (List Token)) :
    (run.map (ts ++ ·)).map (finished ++ ·) = run.map ((finished ++ ts) ++ ·) := by
  cases run <;> simp [Except.map]

/-- A character that was read finished some tokens, and the rest of the text the others. -/
theorem exists_of_scan_cons {inside : Bool} {c : Char} {d' : Draft} {finished : List Token}
    (hscan : ∀ quote rest, quote.isSome = inside → scan d quote (c :: rest) =
      (scan d' (quoteAfter quote c rest) rest).map (finished ++ ·))
    (hquote : quote.isSome = inside) (h : scan d quote (c :: rest) = .ok ts) :
    ∃ us, scan d' (quoteAfter quote c rest) rest = .ok us ∧ ts = finished ++ us := by
  rw [hscan quote rest hquote] at h
  cases hrest : scan d' (quoteAfter quote c rest) rest with
  | error fragment =>
      rw [hrest] at h
      cases h
  | ok us =>
      rw [hrest] at h
      cases h
      exact ⟨us, rfl, rfl⟩

theorem scan_only_blanks (h : ∀ c ∈ cs, isBlank c = true) : scan {} none cs = .ok [] := by
  rw [← List.append_nil cs, scan_blanks h]
  rfl

/-- What was read is read the same where a word ends after it. -/
theorem scan_append (hends : EndsWord rest) (h : scan d quote cs = .ok ts)
    (hquote : quote'.isSome = quote.isSome) :
    scan d quote' (cs ++ rest) = (scan {} none rest).map (ts ++ ·) := by
  induction cs generalizing d quote quote' ts with
  | nil =>
      cases quote with
      | some fragment => cases h
      | none =>
          cases h
          cases Option.isNone_iff_eq_none.1 (Option.isSome_eq_false_iff.1 hquote)
          exact scan_of_endsWord hends d
  | cons c cs ih =>
      obtain ⟨d', finished, hscan⟩ := scan_cons d quote.isSome c
      obtain ⟨us, hus, rfl⟩ := exists_of_scan_cons hscan rfl h
      rw [List.cons_append, hscan quote' _ hquote, ih hus ?_, map_append_append]
      rw [isSome_quoteAfter, isSome_quoteAfter, hquote]

/-- Blanks at the end of a text that was read may be left out. -/
theorem scan_of_append_blanks (hblank : ∀ c ∈ rest, isBlank c = true)
    (h : scan d quote (cs ++ rest) = .ok ts) (hquote : quote'.isSome = quote.isSome) :
    scan d quote' cs = .ok ts := by
  have hends : EndsWord rest := fun c hc => .inl (hblank c (List.mem_of_mem_head? hc))
  induction cs generalizing d quote quote' ts with
  | nil =>
      rw [List.nil_append] at h
      cases quote with
      | some fragment =>
          -- no blank is a quote, so that the one that is open stays open
          have hnone : '"' ∉ rest := fun hmem => (ne_of_isBlank (hblank _ hmem)).1 rfl
          have hodd : quotes (some fragment) rest % 2 = 1 := by
            simp [quotes, List.count_eq_zero_of_not_mem hnone]
          obtain ⟨fragment', hfragment, -⟩ := exists_scan_of_odd hodd d
          rw [h] at hfragment
          cases hfragment
      | none =>
          cases Option.isNone_iff_eq_none.1 (Option.isSome_eq_false_iff.1 hquote)
          rw [scan_of_endsWord hends, scan_only_blanks hblank] at h
          rw [← h]
          exact congrArg Except.ok (List.append_nil _).symm
  | cons c cs ih =>
      obtain ⟨d', finished, hscan⟩ := scan_cons d quote.isSome c
      obtain ⟨us, hus, rfl⟩ := exists_of_scan_cons hscan rfl h
      have hsame : (quoteAfter quote' c cs).isSome = (quoteAfter quote c (cs ++ rest)).isSome := by
        rw [isSome_quoteAfter, isSome_quoteAfter, hquote]
      rw [hscan quote' cs hquote, ih hus hsame]
      rfl

/-! ### Passages -/

/-- In front of whatever ends a word, the text is read as these tokens. -/
def Reads (text : List Char) (ts : List Token) : Prop :=
  ∀ rest, EndsWord rest → scan {} none (text ++ rest) = (scan {} none rest).map (ts ++ ·)

theorem endsWord_append (h : EndsWord text) (hrest : EndsWord rest) : EndsWord (text ++ rest) := by
  cases text with
  | nil => exact hrest
  | cons c text => exact h

theorem endsWord_blank (text : List Char) : EndsWord (' ' :: text) :=
  fun c hc => .inl (by cases hc; rfl)

namespace Reads

/-- A text that begins at the end of a word may stand after another one. -/
theorem append (h : Reads text ts) (hother : Reads other us) (hends : EndsWord other) :
    Reads (text ++ other) (ts ++ us) := by
  intro rest hrest
  rw [List.append_assoc, h _ (endsWord_append hends hrest), hother rest hrest, map_append_append]

/-- Blanks in front of a passage do not show. -/
theorem blank (h : Reads text ts) : Reads (' ' :: text) ts :=
  fun rest hrest => (scan_blank rfl {} _).trans ((map_nil_append _).trans (h rest hrest))

/-- Two texts with a blank between them. -/
theorem spaced (h : Reads text ts) (hother : Reads other us) :
    Reads (text ++ ' ' :: other) (ts ++ us) :=
  h.append hother.blank (endsWord_blank other)

theorem group (h : Reads text ts) :
    Reads ('(' :: (text ++ [')'])) (.openGroup :: (ts ++ [.closeGroup])) := by
  intro rest _
  have hclose : EndsWord (')' :: rest) := fun c hc => .inr (.inr (by cases hc; rfl))
  rw [List.cons_append, List.append_assoc, scan_open, List.singleton_append, h _ hclose, scan_close,
    map_append_append, map_append_append]
  simp [Draft.finish]

theorem and : Reads "AND".toList [.and] := fun _ => scan_unquoted "AND" (by decide) rfl

theorem or : Reads "OR".toList [.or] := fun _ => scan_unquoted "OR" (by decide) rfl

theorem not : Reads "NOT".toList [.not] := fun _ => scan_unquoted "NOT" (by decide) rfl

theorem word {word : String} (h : '"' ∉ word.toList) :
    Reads (inQuotes word) [.term (.word word)] := by
  intro rest hrest
  rw [scan_inQuotes h, scan_of_endsWord hrest]
  simp [Draft.finish]

end Reads

/-! ### Keys and values -/

/-- The character leaves a value as it is, with or without quotes. -/
def IsValueChar (c : Char) : Prop := c ≠ '"' ∧ c ≠ '(' ∧ c ≠ ')' ∧ isBlank c = false

instance (c : Char) : Decidable (IsValueChar c) :=
  inferInstanceAs (Decidable (c ≠ '"' ∧ c ≠ '(' ∧ c ≠ ')' ∧ isBlank c = false))

theorem isValueChar_of_isDigit {c : Char} (h : c.isDigit = true) : IsValueChar c := by
  refine ⟨?_, ?_, ?_, Calendar.not_isBlank_of_isDigit h⟩
  all_goals
    rintro rfl
    exact absurd h (by decide)

/-- All characters of a text are such. -/
def IsValueText (text : String) : Prop := ∀ c ∈ text.toList, IsValueChar c

instance (text : String) : Decidable (IsValueText text) := List.decidableBAll _ _

/-- A value that needs no quotes. -/
def IsPlainValue (value : String) : Prop := value ≠ "" ∧ IsValueText value

instance (value : String) : Decidable (IsPlainValue value) :=
  inferInstanceAs (Decidable (value ≠ "" ∧ IsValueText value))

theorem scan_key (hkey : IsPlain key) (rest : List Char) :
    scan {} none (key.toList ++ ':' :: rest) = scan { key := some key } none rest := by
  rw [scan_plain_append hkey, scan]
  simp [Draft.endKey]

/-- After the first colon a further one is a character of the value. -/
theorem scan_value (h : ∀ c ∈ cs, IsValueChar c) (d : Draft) (hkey : d.key = some key)
    (rest : List Char) :
    scan d none (cs ++ rest) = scan { d with text := cs.reverse ++ d.text } none rest := by
  induction cs generalizing d with
  | nil => rfl
  | cons c cs ih =>
      obtain ⟨hquote, hopen, hclose, hblank⟩ := h c List.mem_cons_self
      rw [List.cons_append, scan]
      simp only [hquote, hopen, hclose, hkey, hblank, if_false, Bool.false_eq_true, reduceCtorEq,
        and_false]
      rw [ih (fun c hc => h c (List.mem_cons_of_mem _ hc)) (d.push c) hkey, Draft.push]
      simp [hkey]

namespace Reads

/-- A key with a value, neither of them in quotes. -/
theorem field (hkey : IsPlain key) (hvalue : IsValueText value) :
    Reads (key.toList ++ ':' :: value.toList) [.term (.field key value)] := by
  intro rest hrest
  rw [List.append_assoc, List.cons_append, scan_key hkey, scan_value hvalue _ rfl,
    scan_of_endsWord hrest]
  simp [Draft.finish]

/-- A key with a value in quotes. -/
theorem quotedField (hkey : IsPlain key) (hvalue : '"' ∉ value.toList) :
    Reads (key.toList ++ ':' :: inQuotes value) [.term (.field key value)] := by
  intro rest hrest
  rw [List.append_assoc, List.cons_append, scan_key hkey, scan_inQuotes hvalue,
    scan_of_endsWord hrest]
  simp [Draft.finish]

/-! ### Whole queries -/

theorem tokens_eq (h : Reads query.toList ts) : tokens query = .ok ts := by
  have hscan := h [] nofun
  rw [List.append_nil] at hscan
  rw [tokens, hscan]
  exact congrArg Except.ok (List.append_nil ts)

theorem of_tokens (h : tokens query = .ok ts) : Reads query.toList ts :=
  fun _ hrest => scan_append hrest (mapError_ok_iff.1 h) rfl

end Reads

/-- Blanks around a query do not show. -/
theorem tokens_trim : tokens (trim query) = .ok ts ↔ tokens query = .ok ts := by
  obtain ⟨before, after, hbefore, hafter, hquery⟩ := exists_blanks query
  have hends : EndsWord after := fun c hc => .inl (hafter c (List.mem_of_mem_head? hc))
  rw [tokens, tokens, mapError_ok_iff, mapError_ok_iff, hquery, scan_blanks hbefore]
  constructor
  · intro h
    rw [scan_append hends h rfl, scan_only_blanks hafter]
    exact congrArg Except.ok (List.append_nil ts)
  · intro h
    exact scan_of_append_blanks hafter h rfl

end Triage.Query
