/-
Writing tokens down and reading them back.

A list of tokens is written one token after the other: operators and parentheses as they are, terms
in double quotes, and words in quotes too unless they can be told without.  Blanks stand between
tokens and may be left out beside parentheses.  Whichever way it is written, the list of tokens is
read back, so that nothing in quotes ever acts as syntax.  Only a text with an odd number of quotes
cannot be read, and what is named then is the rest from the last quote on.
-/
import Mathlib.Data.List.Chain
import Triage.Query.Token

namespace Triage.Query

open Text

/-! ### How tokens are written -/

/-- The character neither ends a word nor parts it. -/
def IsPlainChar (c : Char) : Prop := c ≠ '"' ∧ c ≠ '(' ∧ c ≠ ')' ∧ c ≠ ':' ∧ isBlank c = false

instance (c : Char) : Decidable (IsPlainChar c) :=
  inferInstanceAs (Decidable (c ≠ '"' ∧ c ≠ '(' ∧ c ≠ ')' ∧ c ≠ ':' ∧ isBlank c = false))

/-- All characters of a word are plain. -/
def IsPlain (word : String) : Prop := ∀ c ∈ word.toList, IsPlainChar c

-- The instance is named, because one that goes through all characters there are may come first.
instance (word : String) : Decidable (IsPlain word) := List.decidableBAll _ _

/-- A word that can be told without quotes. -/
def IsBare (word : String) : Prop := word ≠ "" ∧ word ∉ ["AND", "OR", "NOT"] ∧ IsPlain word

instance (word : String) : Decidable (IsBare word) :=
  inferInstanceAs (Decidable (word ≠ "" ∧ word ∉ ["AND", "OR", "NOT"] ∧ IsPlain word))

/-- There is nothing but blanks. -/
def IsGap (gap : String) : Prop := ∀ c ∈ gap.toList, isBlank c = true

instance (gap : String) : Decidable (IsGap gap) := List.decidableBAll _ _

/-- A text in double quotes. -/
def inQuotes (text : String) : List Char := '"' :: (text.toList ++ ['"'])

/-- Whether a token is a parenthesis. -/
def Token.isParenthesis : Token → Bool
  | openGroup | closeGroup => true
  | _ => false

/-- A token as it is written: whether a word goes without quotes, and the blanks that follow. -/
structure Written where
  token : Token
  bare : Bool := false
  gap : String := ""

namespace Written

/-- The text of the token. -/
def text (w : Written) : List Char :=
  match w.token with
  | .term (.word word) => if w.bare then word.toList else inQuotes word
  | .term (.field key value) => inQuotes key ++ ':' :: inQuotes value
  | .and => "AND".toList
  | .or => "OR".toList
  | .not => "NOT".toList
  | .openGroup => ['(']
  | .closeGroup => [')']

/-- What is in quotes holds no quote, and what goes without can do so. -/
def Fits (w : Written) : Prop :=
  match w.token with
  | .term (.word word) => if w.bare then IsBare word else '"' ∉ word.toList
  | .term (.field key value) => '"' ∉ key.toList ∧ '"' ∉ value.toList
  | _ => True

instance : (w : Written) → Decidable w.Fits
  | ⟨.term (.word word), bare, _⟩ =>
    inferInstanceAs (Decidable (if bare then IsBare word else '"' ∉ word.toList))
  | ⟨.term (.field key value), _, _⟩ =>
    inferInstanceAs (Decidable ('"' ∉ key.toList ∧ '"' ∉ value.toList))
  | ⟨.and, _, _⟩ | ⟨.or, _, _⟩ | ⟨.not, _, _⟩ | ⟨.openGroup, _, _⟩ | ⟨.closeGroup, _, _⟩ =>
    .isTrue trivial

/-- Between two tokens there is a blank, unless one of them is a parenthesis. -/
def Apart (w next : Written) : Prop :=
  w.gap ≠ "" ∨ w.token.isParenthesis = true ∨ next.token.isParenthesis = true

instance (w next : Written) : Decidable (w.Apart next) :=
  inferInstanceAs (Decidable (w.gap ≠ "" ∨ w.token.isParenthesis = true ∨
    next.token.isParenthesis = true))

/-- Tokens one after the other. -/
def line (tokens : List Written) : List Char := tokens.flatMap fun w => w.text ++ w.gap.toList

theorem line_cons (w : Written) (tokens : List Written) :
    line (w :: tokens) = w.text ++ (w.gap.toList ++ line tokens) := by
  simp [line]

end Written

/-! ### Single characters -/

variable {d : Draft} {quote : Option (List Char)} {c : Char} {cs rest : List Char}

theorem map_nil_append {ε α : Type} (x : Except ε (List α)) : x.map ([] ++ ·) = x := by
  cases x <;> rfl

/-- A blank is none of the characters that the query language gives a meaning. -/
theorem ne_of_isBlank (h : isBlank c = true) : c ≠ '"' ∧ c ≠ '(' ∧ c ≠ ')' ∧ c ≠ ':' := by
  refine ⟨?_, ?_, ?_, ?_⟩ <;> rintro rfl <;> exact absurd h (by decide)

theorem scan_blank (h : isBlank c = true) (d : Draft) (rest : List Char) :
    scan d none (c :: rest) = (scan {} none rest).map (d.finish ++ ·) := by
  obtain ⟨hquote, hopen, hclose, hcolon⟩ := ne_of_isBlank h
  rw [scan]
  simp only [hquote, hopen, hclose, hcolon, h, if_false, if_true, false_and]
  cases scan {} none rest <;> rfl

theorem scan_open (d : Draft) (rest : List Char) :
    scan d none ('(' :: rest) = (scan {} none rest).map (d.finish ++ [.openGroup] ++ ·) := by
  rw [scan]
  cases scan {} none rest <;> simp [bind, Except.bind, Except.map, pure, Except.pure]

theorem scan_close (d : Draft) (rest : List Char) :
    scan d none (')' :: rest) = (scan {} none rest).map (d.finish ++ [.closeGroup] ++ ·) := by
  rw [scan]
  cases scan {} none rest <;> simp [bind, Except.bind, Except.map, pure, Except.pure]

theorem scan_plain (h : IsPlainChar c) (d : Draft) (rest : List Char) :
    scan d none (c :: rest) = scan (d.push c) none rest := by
  obtain ⟨hquote, hopen, hclose, hcolon, hblank⟩ := h
  rw [scan]
  simp only [hquote, hopen, hclose, hcolon, hblank, if_false, false_and, Bool.false_eq_true]

/-- What is in quotes after a character: a quote begins or ends it, and all else leaves it. -/
def quoteAfter (quote : Option (List Char)) (c : Char) (rest : List Char) : Option (List Char) :=
  if c ≠ '"' then quote else if quote.isSome then none else some (c :: rest)

/-- Whatever a character does to the draft, it may finish some tokens and the reading goes on.  What
it does depends on whether it is in quotes, but not on the text around it. -/
theorem scan_cons (d : Draft) (inside : Bool) (c : Char) :
    ∃ d' finished, ∀ quote rest, quote.isSome = inside → scan d quote (c :: rest) =
      (scan d' (quoteAfter quote c rest) rest).map (finished ++ ·) := by
  unfold quoteAfter
  cases inside with
  | true =>
      refine ⟨if c = '"' then d else d.push c, [], fun quote rest hinside => ?_⟩
      obtain ⟨text, rfl⟩ := Option.isSome_iff_exists.1 hinside
      rw [map_nil_append, scan]
      by_cases hquote : c = '"' <;> simp [hquote]
  | false =>
      suffices h : ∃ d' finished, ∀ rest, scan d none (c :: rest) =
          (scan d' (if c ≠ '"' then none else some (c :: rest)) rest).map (finished ++ ·) by
        obtain ⟨d', finished, h⟩ := h
        refine ⟨d', finished, fun quote rest hinside => ?_⟩
        cases Option.isNone_iff_eq_none.1 (Option.isSome_eq_false_iff.1 hinside)
        exact h rest
      by_cases hquote : c = '"'
      · exact ⟨{ d with quoted := true }, [], fun rest => by
          rw [map_nil_append, scan]
          simp [hquote]⟩
      by_cases hopen : c = '('
      · subst hopen
        exact ⟨{}, _, scan_open d⟩
      by_cases hclose : c = ')'
      · subst hclose
        exact ⟨{}, _, scan_close d⟩
      by_cases hblank : isBlank c = true
      · exact ⟨{}, _, fun rest => by
          rw [if_pos hquote]
          exact scan_blank hblank d rest⟩
      by_cases hkey : c = ':' ∧ d.key = none
      · exact ⟨d.endKey, [], fun rest => by
          rw [map_nil_append, scan]
          simp [hkey]⟩
      · refine ⟨d.push c, [], fun rest => ?_⟩
        rw [map_nil_append, scan]
        simp [hquote, hopen, hclose, hkey, hblank]

/-! ### Tokens -/

/-- Whether a word is over where the text goes on. -/
def EndsWord (cs : List Char) : Prop := ∀ c ∈ cs.head?, isBlank c = true ∨ c = '(' ∨ c = ')'

/-- At the end of a word the draft is finished, and reading starts anew. -/
theorem scan_of_endsWord (h : EndsWord rest) (d : Draft) :
    scan d none rest = (scan {} none rest).map (d.finish ++ ·) := by
  have hstart : ({} : Draft).finish = [] := rfl
  have hmap (more : List Token) (x : Except (List Char) (List Token)) :
      x.map (d.finish ++ more ++ ·) = (x.map ([] ++ more ++ ·)).map (d.finish ++ ·) := by
    cases x <;> simp [Except.map]
  cases rest with
  | nil => simp [scan, Except.map, hstart]
  | cons c rest =>
      rcases h c rfl with hblank | rfl | rfl
      · rw [scan_blank hblank, scan_blank hblank, hstart, map_nil_append]
      · rw [scan_open, scan_open, hstart, hmap]
      · rw [scan_close, scan_close, hstart, hmap]

theorem scan_blanks (h : ∀ c ∈ cs, isBlank c = true) (rest : List Char) :
    scan {} none (cs ++ rest) = scan {} none rest := by
  induction cs with
  | nil => rfl
  | cons c cs ih =>
      have hstart : ({} : Draft).finish = [] := rfl
      rw [List.cons_append, scan_blank (h c List.mem_cons_self), hstart, map_nil_append,
        ih fun c hc => h c (List.mem_cons_of_mem _ hc)]

theorem scan_plain_append (h : ∀ c ∈ cs, IsPlainChar c) (d : Draft) (rest : List Char) :
    scan d none (cs ++ rest) = scan { d with text := cs.reverse ++ d.text } none rest := by
  induction cs generalizing d with
  | nil => rfl
  | cons c cs ih =>
      rw [List.cons_append, scan_plain (h c List.mem_cons_self),
        ih fun c hc => h c (List.mem_cons_of_mem _ hc), Draft.push]
      simp

theorem scan_quote_append (h : '"' ∉ cs) (d : Draft) (text rest : List Char) :
    scan d (some text) (cs ++ '"' :: rest) =
      scan { d with text := cs.reverse ++ d.text } none rest := by
  induction cs generalizing d with
  | nil => simp [scan]
  | cons c cs ih =>
      have hc : c ≠ '"' := fun hc => h (by simp [hc])
      rw [List.cons_append, scan]
      simp only [hc, if_false]
      rw [ih (fun hmem => h (List.mem_cons_of_mem _ hmem)), Draft.push]
      simp

/-- What is in quotes goes into the draft as it is. -/
theorem scan_inQuotes {text : String} (h : '"' ∉ text.toList) (d : Draft) (rest : List Char) :
    scan d none (inQuotes text ++ rest) =
      scan { d with text := text.toList.reverse ++ d.text, quoted := true } none rest := by
  rw [inQuotes, List.cons_append, scan]
  simp only [if_true]
  rw [List.append_assoc, List.singleton_append, scan_quote_append h]

/-- What stands without quotes is finished at its end. -/
theorem scan_unquoted (word : String) {token : Token} (hplain : IsPlain word)
    (hfinish : ({ text := word.toList.reverse } : Draft).finish = [token]) (hends : EndsWord rest) :
    scan {} none (word.toList ++ rest) = (scan {} none rest).map ([token] ++ ·) := by
  rw [scan_plain_append hplain, scan_of_endsWord hends, List.append_nil, hfinish]

/-- A bare word is finished as the word that it is. -/
theorem finish_of_isBare {word : String} (h : IsBare word) :
    ({ text := word.toList.reverse } : Draft).finish = [.term (.word word)] := by
  obtain ⟨hne, hordinary, -⟩ := h
  simp only [List.mem_cons, List.not_mem_nil, or_false, not_or] at hordinary
  obtain ⟨hand, hor, hnot⟩ := hordinary
  simp [Draft.finish, hne, hand, hor, hnot]

namespace Written

/-- A token is read off its text, as long as a word ends where its text ends. -/
theorem scan_text {w : Written} (h : w.Fits)
    (hends : w.token.isParenthesis = true ∨ EndsWord rest) :
    scan {} none (w.text ++ rest) = (scan {} none rest).map ([w.token] ++ ·) := by
  obtain ⟨token, bare, gap⟩ := w
  by_cases hparenthesis : token.isParenthesis = true
  · cases token with
    | openGroup => exact scan_open {} rest
    | closeGroup => exact scan_close {} rest
    | _ => cases hparenthesis
  have hover : EndsWord rest := hends.resolve_left hparenthesis
  cases token with
  | and => exact scan_unquoted "AND" (by decide) rfl hover
  | or => exact scan_unquoted "OR" (by decide) rfl hover
  | not => exact scan_unquoted "NOT" (by decide) rfl hover
  | term term =>
      cases term with
      | word word =>
          simp only [Fits] at h
          simp only [text]
          by_cases hbare : bare = true
          · rw [if_pos hbare] at h ⊢
            exact scan_unquoted word h.2.2 (finish_of_isBare h) hover
          · rw [if_neg hbare] at h ⊢
            rw [scan_inQuotes h, scan_of_endsWord hover]
            simp [Draft.finish]
      | field key value =>
          obtain ⟨hkey, hvalue⟩ := h
          simp only [text]
          rw [List.append_assoc, scan_inQuotes hkey, List.cons_append, scan]
          simp only [Char.reduceEq, if_false, true_and, if_true]
          rw [scan_inQuotes hvalue, scan_of_endsWord hover]
          simp [Draft.finish, Draft.endKey]
  | _ => exact absurd rfl hparenthesis

/-- After the text of a token a word ends, unless the token is a parenthesis. -/
theorem endsWord_after {w : Written} {tokens : List Written}
    (hblank : IsGap w.gap) (hapart : (w :: tokens).IsChain Apart) :
    w.token.isParenthesis = true ∨ EndsWord (w.gap.toList ++ line tokens) := by
  by_cases hgap : w.gap = ""
  · cases tokens with
    | nil =>
        refine .inr ?_
        rw [hgap]
        nofun
    | cons next tokens =>
        obtain ⟨hnext, -⟩ := List.isChain_cons_cons.1 hapart
        refine (hnext.resolve_left (fun h => h hgap)).imp_right fun hparenthesis => ?_
        obtain ⟨token, bare, gap⟩ := next
        cases token with
        | openGroup | closeGroup => simp [EndsWord, hgap, line_cons, text]
        | _ => cases hparenthesis
  · refine .inr fun c hc => .inl (hblank c ?_)
    rw [List.head?_append_of_ne_nil _ (by simpa using hgap)] at hc
    exact List.mem_of_mem_head? hc

/-- Tokens are read back from their line. -/
theorem scan_line {tokens : List Written} (hfits : ∀ w ∈ tokens, w.Fits)
    (hblank : ∀ w ∈ tokens, IsGap w.gap) (hapart : tokens.IsChain Apart) :
    scan {} none (line tokens) = .ok (tokens.map token) := by
  induction tokens with
  | nil => rfl
  | cons w tokens ih =>
      have hblankHere := hblank w List.mem_cons_self
      have hrest : scan {} none (line tokens) = .ok (tokens.map token) :=
        ih (fun next hnext => hfits next (List.mem_cons_of_mem _ hnext))
          (fun next hnext => hblank next (List.mem_cons_of_mem _ hnext)) hapart.tail
      rw [line_cons, scan_text (hfits w List.mem_cons_self) (endsWord_after hblankHere hapart),
        scan_blanks hblankHere, hrest]
      rfl

end Written

/-! ### Open quotes -/

/-- The fragment is what a text holds from its last quote on. -/
def IsLastQuoted (cs fragment : List Char) : Prop :=
  ∃ before after, cs = before ++ '"' :: after ∧ '"' ∉ after ∧ fragment = '"' :: after

theorem IsLastQuoted.cons {fragment : List Char} (h : IsLastQuoted cs fragment) (c : Char) :
    IsLastQuoted (c :: cs) fragment := by
  obtain ⟨before, after, rfl, hafter, rfl⟩ := h
  exact ⟨c :: before, after, rfl, hafter, rfl⟩

/-- How many quotes there are, one that was open before included. -/
def quotes (quote : Option (List Char)) (cs : List Char) : Nat :=
  (if quote.isSome then 1 else 0) + cs.count '"'

theorem quotes_cons (quote : Option (List Char)) (c : Char) (rest : List Char) :
    quotes quote (c :: rest) % 2 = quotes (quoteAfter quote c rest) rest % 2 := by
  unfold quotes quoteAfter
  by_cases hquote : c = '"'
  · cases quote <;> simp [hquote] <;> omega
  · simp [hquote]

/-- With all quotes closed a text is read. -/
theorem exists_scan_of_even (h : quotes quote cs % 2 = 0) (d : Draft) :
    ∃ tokens, scan d quote cs = .ok tokens := by
  induction cs generalizing quote d with
  | nil =>
      cases quote with
      | none => exact ⟨_, rfl⟩
      | some text => cases h
  | cons c rest ih =>
      obtain ⟨d', finished, hscan⟩ := scan_cons d quote.isSome c
      obtain ⟨tokens, htokens⟩ := ih (by rwa [← quotes_cons]) d'
      exact ⟨finished ++ tokens, by rw [hscan quote rest rfl, htokens]; rfl⟩

/-- With a quote left open the fragment is what follows from it on. -/
theorem exists_scan_of_odd (h : quotes quote cs % 2 = 1) (d : Draft) :
    ∃ fragment, scan d quote cs = .error fragment ∧
      (IsLastQuoted cs fragment ∨ '"' ∉ cs ∧ quote = some fragment) := by
  induction cs generalizing quote d with
  | nil =>
      cases quote with
      | none => cases h
      | some text => exact ⟨text, rfl, .inr ⟨List.not_mem_nil, rfl⟩⟩
  | cons c rest ih =>
      obtain ⟨d', finished, hscan⟩ := scan_cons d quote.isSome c
      obtain ⟨fragment, hfragment, hlast⟩ := ih (by rwa [← quotes_cons]) d'
      refine ⟨fragment, by rw [hscan quote rest rfl, hfragment]; rfl, ?_⟩
      rcases hlast with hlast | ⟨hnone, hquote⟩
      · exact .inl (hlast.cons c)
      -- no quote follows, so that the one that is open is this one or was open before
      · by_cases hc : c = '"'
        · left
          rw [quoteAfter, if_neg (not_not_intro hc)] at hquote
          split at hquote
          · cases hquote
          · cases hquote
            exact ⟨[], rest, by rw [hc]; rfl, hnone, by rw [hc]⟩
        · right
          rw [quoteAfter, if_pos hc] at hquote
          exact ⟨by simp [hnone, Ne.symm hc], hquote⟩

theorem quotes_none (cs : List Char) : quotes none cs = cs.count '"' := Nat.zero_add _

/-- A query with an even number of quotes is read. -/
theorem exists_tokens_of_even {query : String} (h : query.toList.count '"' % 2 = 0) :
    ∃ ts, tokens query = .ok ts := by
  rw [← quotes_none] at h
  obtain ⟨ts, hts⟩ := exists_scan_of_even h {}
  exact ⟨ts, by rw [tokens, hts]; rfl⟩

/-- A query with an odd number of quotes is refused with what follows the last one. -/
theorem exists_tokens_of_odd {query : String} (h : query.toList.count '"' % 2 = 1) :
    ∃ fragment, tokens query = .error fragment ∧ IsLastQuoted query.toList fragment.toList := by
  rw [← quotes_none] at h
  obtain ⟨fragment, hfragment, hlast⟩ := exists_scan_of_odd h {}
  refine ⟨String.ofList fragment, by rw [tokens, hfragment]; rfl, ?_⟩
  rw [String.toList_ofList]
  exact hlast.resolve_right fun hopen => nomatch hopen.2

/--
**Reading undoes quoting.**  Whichever way a list of tokens is written, it is what is read: words
with or without quotes, keys and values in quotes, parentheses with or without blanks beside them.
So blanks, colons, parentheses and operators in quotes are text and never syntax.  And any text
fails to be read exactly if the number of its quotes is odd, with the rest from the last quote on.
-/
theorem tokens_undo_quoting (written : List Written) (query : String)
    (hfits : ∀ w ∈ written, w.Fits) (hblank : ∀ w ∈ written, IsGap w.gap)
    (hapart : written.IsChain Written.Apart) :
    tokens (String.ofList (Written.line written)) = .ok (written.map Written.token) ∧
      ((∃ fragment, tokens query = .error fragment) ↔ query.toList.count '"' % 2 = 1) ∧
      ∀ fragment, tokens query = .error fragment →
        IsLastQuoted query.toList fragment.toList := by
  have hodd (fragment : String) (hfragment : tokens query = .error fragment) :
      query.toList.count '"' % 2 = 1 := by
    by_contra hne
    have heven : query.toList.count '"' % 2 = 0 := by omega
    obtain ⟨ts, hts⟩ := exists_tokens_of_even heven
    rw [hts] at hfragment
    cases hfragment
  refine ⟨?_, ⟨?_, ?_⟩, ?_⟩
  · rw [tokens, String.toList_ofList, Written.scan_line hfits hblank hapart]
    rfl
  · rintro ⟨fragment, hfragment⟩
    exact hodd fragment hfragment
  · intro h
    obtain ⟨fragment, hfragment, -⟩ := exists_tokens_of_odd h
    exact ⟨fragment, hfragment⟩
  · intro fragment hfragment
    obtain ⟨fragment', hfragment', hlast⟩ := exists_tokens_of_odd (hodd fragment hfragment)
    rw [hfragment] at hfragment'
    cases hfragment'
    exact hlast

/-- Quoted operators, an empty word, a key with a colon and letters of several bytes, and a quote
that is left open in the middle of a word. -/
theorem tokens_undo_quoting_nested :
    let written : List Written := [⟨.not, false, "\u3000"⟩, ⟨.openGroup, false, ""⟩,
      ⟨.term (.word "AND"), false, " "⟩, ⟨.term (.word ""), false, "\t"⟩,
      ⟨.term (.field "größe: (a)" "1:2 OR"), false, ""⟩, ⟨.closeGroup, false, ""⟩,
      ⟨.term (.word "and"), true, "\n "⟩, ⟨.or, false, " "⟩, ⟨.term (.word "日本"), true, ""⟩]
    (∀ w ∈ written, w.Fits) ∧ (∀ w ∈ written, IsGap w.gap) ∧
      written.IsChain Written.Apart ∧
      tokens (String.ofList (Written.line written)) = .ok [.not, .openGroup, .term (.word "AND"),
        .term (.word ""), .term (.field "größe: (a)" "1:2 OR"), .closeGroup, .term (.word "and"),
        .or, .term (.word "日本")] ∧
      ∃ fragment, tokens "\"a b\" c\"d" = .error fragment := by
  intro written
  have hfits : ∀ w ∈ written, w.Fits := by decide
  have hblank : ∀ w ∈ written, IsGap w.gap := by decide
  have hapart : written.IsChain Written.Apart := by decide
  obtain ⟨hread, herror, -⟩ := tokens_undo_quoting written "\"a b\" c\"d" hfits hblank hapart
  exact ⟨hfits, hblank, hapart, hread, herror.2 (by decide)⟩

end Triage.Query
