/-
What a fault of a query names can be found in the query.

Every token is cut from the query: with the quotes left out, its text stands there as it is.  A term
that is refused is named by its text, where the key may be in lower case, so that whoever reads the
message can find the place.  Two kinds of faults name something else: a word of nothing but quotes
has no text, and a pattern for names that cannot be read is named with the short form of its key,
whichever form was written.
-/
import Mathlib.Data.List.Infix
import Triage.Proofs.Query.Operands
import Triage.Proofs.Query.Passage
import Triage.Proofs.Query.Reference

namespace Triage.Query

open Text

variable {d : Draft} {quote : Option (List Char)} {c : Char} {cs rest : List Char} {t : Token}
  {ts : List Token} {text key value : String} {fault : Error}

/-! ### Texts without quotes -/

/-- The text with its quotes left out. -/
def unquoted (cs : List Char) : List Char := cs.filter (· ≠ '"')

theorem unquoted_cons (c : Char) (cs : List Char) :
    unquoted (c :: cs) = unquoted [c] ++ unquoted cs :=
  List.filter_append (p := (· ≠ '"')) [c] cs

theorem unquoted_singleton (h : c ≠ '"') : unquoted [c] = [c] := by
  simp [unquoted, h]

/-! ### Drafts

A draft holds what was read since the last token: the key with its colon, and the text.
-/

namespace Draft

/-- What was read into the draft. -/
def written (d : Draft) : List Char :=
  (d.key.map fun key => key.toList ++ [':']).getD [] ++ d.text.reverse

theorem written_push (d : Draft) (c : Char) : (d.push c).written = d.written ++ [c] := by
  simp [written, push]

theorem written_endKey (h : d.key = none) : d.endKey.written = d.written ++ [':'] := by
  simp [written, endKey, h]

/-- A draft becomes a token with just what was read. -/
theorem text_of_mem_finish (h : t ∈ d.finish) : t.text.toList = d.written := by
  unfold finish at h
  split at h
  · rename_i key hkey
    cases List.mem_singleton.1 h
    simp [Token.text, Term.text, written, hkey]
  · rename_i hkey
    have hwritten : d.written = (String.ofList d.text.reverse).toList := by
      simp [written, hkey]
    rw [hwritten]
    dsimp only at h
    generalize String.ofList d.text.reverse = word at h ⊢
    split_ifs at h with hquoted hempty hand hor hnot
    · rw [List.mem_singleton.1 h]
      rfl
    · cases h
    · rw [List.mem_singleton.1 h, beq_iff_eq.1 hand]
      rfl
    · rw [List.mem_singleton.1 h, beq_iff_eq.1 hor]
      rfl
    · rw [List.mem_singleton.1 h, beq_iff_eq.1 hnot]
      rfl
    · rw [List.mem_singleton.1 h]
      rfl

theorem finish_ne_nil (h : d.key.isSome = true ∨ d.quoted = true ∨ d.text ≠ []) :
    d.finish ≠ [] := by
  unfold finish
  split
  · simp
  · rename_i hkey
    rw [hkey] at h
    by_cases hquoted : d.quoted = true
    · simp [hquoted]
    · have htext : d.text ≠ [] := (h.resolve_left (by simp)).resolve_left hquoted
      simp only [hquoted]
      split_ifs <;> simp_all

end Draft

/-! ### Tokens lie in the query -/

/-- What a character does to the tokens that are read. -/
inductive ReadsOn (d : Draft) (quote : Option (List Char)) (c : Char) (rest : List Char) :
    List Token → Prop
  /-- It goes into the draft, unless it is a quote.  Outside of quotes this makes a token of any
  draft. -/
  | goesIn {d' : Draft} {quote' : Option (List Char)} {ts : List Token}
      (hrest : scan d' quote' rest = .ok ts) (hwritten : d'.written = d.written ++ unquoted [c])
      (hstarted : d.finish ≠ [] ∨ quote = none → d'.finish ≠ []) : ReadsOn d quote c rest ts
  /-- It ends the draft, and is blank or a token of its own. -/
  | endsDraft {own us : List Token} (hrest : scan {} none rest = .ok us) (hc : c ≠ '"')
      (hown : ∀ t ∈ own, t.text.toList = [c]) (hblank : isBlank c = true ∨ own ≠ []) :
      ReadsOn d quote c rest (d.finish ++ own ++ us)

namespace ReadsOn

theorem push {quote' : Option (List Char)} (hc : c ≠ '"')
    (h : scan (d.push c) quote' rest = .ok ts) : ReadsOn d quote c rest ts :=
  .goesIn h (by rw [Draft.written_push, unquoted_singleton hc])
    fun _ => Draft.finish_ne_nil (.inr (.inr (by simp [Draft.push])))

theorem ofMap (own : List Token) (hc : c ≠ '"') (hown : ∀ t ∈ own, t.text.toList = [c])
    (hblank : isBlank c = true ∨ own ≠ [])
    (h : (scan {} none rest).map (d.finish ++ own ++ ·) = .ok ts) : ReadsOn d quote c rest ts := by
  cases hrest : scan {} none rest with
  | error fragment =>
      rw [hrest] at h
      cases h
  | ok us =>
      rw [hrest] at h
      cases h
      exact .endsDraft hrest hc hown hblank

end ReadsOn

theorem readsOn_of_scan (h : scan d quote (c :: rest) = .ok ts) : ReadsOn d quote c rest ts := by
  cases quote with
  | some text =>
      rw [scan] at h
      split at h
      · rename_i hquote
        exact .goesIn h (by rw [hquote]; simp [unquoted]) fun hd => hd.resolve_right (by simp)
      · rename_i hc
        exact .push hc h
  | none =>
      by_cases hquote : c = '"'
      · rw [scan] at h
        simp only [hquote, if_true] at h
        exact .goesIn h (by rw [hquote]; simp [unquoted, Draft.written])
          fun _ => Draft.finish_ne_nil (.inr (.inl rfl))
      by_cases hopen : c = '('
      · subst hopen
        rw [scan_open] at h
        exact .ofMap [.openGroup] hquote (by simp [Token.text]) (.inr (by simp)) h
      by_cases hclose : c = ')'
      · subst hclose
        rw [scan_close] at h
        exact .ofMap [.closeGroup] hquote (by simp [Token.text]) (.inr (by simp)) h
      by_cases hblank : isBlank c = true
      · rw [scan_blank hblank, ← List.append_nil d.finish] at h
        exact .ofMap [] hquote (by simp) (.inl hblank) h
      rw [scan] at h
      simp only [hquote, hopen, hclose, hblank, if_false, Bool.false_eq_true] at h
      split at h
      · rename_i hcolon
        obtain ⟨rfl, hkey⟩ := hcolon
        exact .goesIn h (by rw [Draft.written_endKey hkey, unquoted_singleton hquote])
          fun _ => Draft.finish_ne_nil (.inl rfl)
      · exact .push hquote h

/-- The text of a token stands in the draft and what follows. -/
theorem infix_of_scan (h : scan d quote cs = .ok ts) (ht : t ∈ ts) :
    t.text.toList <:+: d.written ++ unquoted cs := by
  induction cs generalizing d quote ts with
  | nil =>
      cases quote with
      | some fragment => cases h
      | none =>
          cases h
          rw [Draft.text_of_mem_finish ht]
          exact (List.prefix_append _ _).isInfix
  | cons c rest ih =>
      rw [unquoted_cons]
      cases readsOn_of_scan h with
      | goesIn hrest hwritten =>
          rw [← List.append_assoc, ← hwritten]
          exact ih hrest ht
      | endsDraft hrest hc hown =>
          rw [unquoted_singleton hc]
          rcases List.mem_append.1 ht with ht | ht
          · rcases List.mem_append.1 ht with ht | ht
            · rw [Draft.text_of_mem_finish ht]
              exact (List.prefix_append _ _).isInfix
            · rw [hown t ht]
              exact ⟨d.written, unquoted rest, by simp⟩
          · have hus : t.text.toList <:+: unquoted rest := ih hrest ht
            exact hus.trans ⟨d.written ++ [c], [], by simp⟩

/-- A draft that is a token already is read as one. -/
theorem scan_ne_nil (hd : d.finish ≠ []) (h : scan d quote cs = .ok ts) : ts ≠ [] := by
  induction cs generalizing d quote with
  | nil =>
      cases quote with
      | some fragment => cases h
      | none =>
          cases h
          exact hd
  | cons c rest ih =>
      cases readsOn_of_scan h with
      | goesIn hrest _ hstarted => exact ih (hstarted (.inl hd)) hrest
      | endsDraft => simp [hd]

/-- Only blanks are read as nothing. -/
theorem isBlank_of_scan (h : scan {} none cs = .ok []) : ∀ c ∈ cs, isBlank c = true := by
  induction cs with
  | nil => nofun
  | cons c rest ih =>
      generalize hnil : ([] : List Token) = ts at h
      cases readsOn_of_scan h with
      | goesIn hrest _ hstarted => exact absurd hnil.symm (scan_ne_nil (hstarted (.inr rfl)) hrest)
      | @endsDraft own us hrest _ _ hblank =>
          obtain ⟨hdraft, rfl⟩ := List.append_eq_nil_iff.1 hnil.symm
          obtain ⟨-, rfl⟩ := List.append_eq_nil_iff.1 hdraft
          intro a ha
          rcases List.mem_cons.1 ha with rfl | ha
          · exact hblank.resolve_right (by simp)
          · exact ih hrest a ha

theorem infix_of_tokens (h : tokens text = .ok ts) (ht : t ∈ ts) :
    t.text.toList <:+: unquoted text.toList :=
  infix_of_scan (mapError_ok_iff.1 h) ht

theorem tokens_ne_nil (hblank : trim text ≠ "") (h : tokens text = .ok ts) : ts ≠ [] := by
  rintro rfl
  have hall := isBlank_of_scan (mapError_ok_iff.1 h)
  have hdrop : text.toList.dropWhile isBlank = [] := List.dropWhile_eq_nil_iff.2 hall
  exact hblank (by rw [trim, trimStart, hdrop]; rfl)

theorem isLastQuoted_of_tokens {fragment : String} (h : tokens text = .error fragment) :
    IsLastQuoted text.toList fragment.toList := by
  rcases Nat.mod_two_eq_zero_or_one (text.toList.count '"') with heven | hodd
  · obtain ⟨ts, hts⟩ := exists_tokens_of_even heven
    rw [hts] at h
    cases h
  · obtain ⟨other, hother, hlast⟩ := exists_tokens_of_odd hodd
    rw [h] at hother
    cases hother
    exact hlast

theorem trim_isInfix (text : String) : (trim text).toList <:+: text.toList := by
  obtain ⟨before, after, -, -, htext⟩ := exists_blanks text
  exact ⟨before, after, by rw [htext, List.append_assoc]⟩

/-! ### Pointing into the query -/

/-- One text occurs in another one up to ASCII case. -/
def OccursIn (fragment text : List Char) : Prop :=
  fragment.map Char.toLower <:+: text.map Char.toLower

instance (fragment text : List Char) : Decidable (OccursIn fragment text) :=
  inferInstanceAs (Decidable (fragment.map Char.toLower <:+: text.map Char.toLower))

/-- The fragment is not empty and occurs in the query, as it is written or without its quotes. -/
def PointsInto (query fragment : String) : Prop :=
  fragment ≠ "" ∧
    (OccursIn fragment.toList query.toList ∨ OccursIn fragment.toList (unquoted query.toList))

instance (query fragment : String) : Decidable (PointsInto query fragment) :=
  inferInstanceAs (Decidable (fragment ≠ "" ∧
    (OccursIn fragment.toList query.toList ∨ OccursIn fragment.toList (unquoted query.toList))))

/-- Keys with a short form that ask for a pattern for names. -/
def shortForm? (key : String) : Option String :=
  if asciiLower key = "repository" then some "repo"
  else if asciiLower key = "organization" then some "org"
  else none

/-- What is named as the place of a fault. -/
inductive Names (query : String) : String → QueryFault → Prop
  | part {fragment : String} {cause : QueryFault} (h : PointsInto query fragment) :
      Names query fragment cause
  /-- A word of nothing but quotes has no text. -/
  | emptyWord {ts : List Token} (hts : tokens query = .ok ts) (h : .term (.word "") ∈ ts) :
      Names query "" .emptyTerm
  /-- A pattern that cannot be read is named with the short form of a long key. -/
  | shortened {key value short : String} {fault : Glob.Fault} (hkey : shortForm? key = some short)
      (hglob : Glob.ofText value = .error fault)
      (h : PointsInto query (Term.field key value).text) :
      Names query (short ++ ":" ++ value) (.glob fault)

theorem pointsInto_of_token {fragment : String} (hts : tokens text = .ok ts) (ht : t ∈ ts)
    (hne : t.text ≠ "") (hfragment : asciiLower fragment = asciiLower t.text) :
    PointsInto text fragment := by
  refine ⟨?_, .inr ?_⟩
  · rintro rfl
    have hnil := congrArg String.toList hfragment
    rw [toList_asciiLower, toList_asciiLower] at hnil
    exact hne (String.toList_eq_nil_iff.1 (List.map_eq_nil_iff.1 hnil.symm))
  · rw [OccursIn, ← toList_asciiLower, hfragment, toList_asciiLower]
    exact (infix_of_tokens hts ht).map _

theorem pointsInto_of_open_quote {fragment : String} (h : tokens (trim text) = .error fragment) :
    PointsInto text fragment := by
  obtain ⟨before, after, htext, -, hfragment⟩ := isLastQuoted_of_tokens h
  refine ⟨?_, .inl ?_⟩
  · rintro rfl
    cases hfragment
  · have hlast : fragment.toList <:+: (trim text).toList :=
      ⟨before, [], by rw [hfragment, htext, List.append_nil]⟩
    exact (hlast.trans (trim_isInfix text)).map _

/-! ### Terms -/

/-- The names of a key in lower case. -/
def Key.names : Key → List String
  | status => ["is"]
  | repository => ["repo", "repository"]
  | organization => ["org", "organization"]
  | type => ["type"]
  | reason => ["reason"]
  | updated => ["updated", "since"]
  | score => ["score"]
  | field name => [name]

theorem Key.mem_names (text : String) : asciiLower text ∈ (Key.ofText text).names := by
  unfold Key.ofText
  dsimp only
  split_ifs <;> simp_all [Key.names]

/-- A condition that is refused is named by its text up to ASCII case, or it is a pattern for names
under a long key. -/
def NamesTerm (key value : String) (fault : Error) : Prop :=
  ∃ fragment cause, fault = .query fragment cause ∧
    (asciiLower fragment = asciiLower (Term.field key value).text ∨
      ∃ short glob, shortForm? key = some short ∧ Glob.ofText value = .error glob ∧
        fragment = short ++ ":" ++ value ∧ cause = .glob glob)

/-- A pattern for names is told with the short form of its key, whichever form it has. -/
theorem namesTerm_of_glob (short : String) {glob : Glob.Fault}
    (hkey : asciiLower key = short ∨ shortForm? key = some short)
    (hshort : asciiLower short = short) (hglob : Glob.ofText value = .error glob) :
    NamesTerm key value (.query (short ++ ":" ++ value) (.glob glob)) := by
  refine ⟨_, _, rfl, ?_⟩
  rcases hkey with hkey | hkey
  · left
    rw [Term.text, asciiLower_append, asciiLower_append, asciiLower_append (key ++ ":"),
      asciiLower_append key, hshort, hkey]
  · exact .inr ⟨short, glob, hkey, hglob, rfl, rfl⟩

theorem namesTerm_of_fieldPredicate {now : Calendar.Instant}
    (h : fieldPredicate now key value = .error fault) : NamesTerm key value fault := by
  have hname := Key.mem_names key
  obtain ⟨fragment, cause, rfl, hrefuses⟩ := refuses_of_fieldPredicate h
  cases hrefuses with
  | missingValue | unknownStatus | updated | invalidScore => exact ⟨_, _, rfl, .inl rfl⟩
  | repository hkey hglob =>
      rw [hkey] at hname
      refine namesTerm_of_glob "repo" ?_ (by decide) hglob
      rcases List.mem_pair.1 hname with hshort | hlong
      · exact .inl hshort
      · exact .inr (by simp [shortForm?, hlong])
  | organization hkey hglob =>
      rw [hkey] at hname
      refine namesTerm_of_glob "org" ?_ (by decide) hglob
      rcases List.mem_pair.1 hname with hshort | hlong
      · exact .inl hshort
      · exact .inr (by simp [shortForm?, hlong])
  | field hkey =>
      rw [hkey] at hname
      rw [← List.mem_singleton.1 hname]
      exact ⟨_, _, rfl, .inl (by simp [Term.text, asciiLower_append])⟩

/-- What the fault of a query says, if there is one. -/
def queryFault? (run : Except Error Filter) : Option (String × QueryFault) :=
  match run with
  | .error (.query fragment cause) => some (fragment, cause)
  | .error _ => none
  | .ok _ => none

theorem eq_of_queryFault? {run : Except Error Filter} {fragment : String} {cause : QueryFault}
    (h : queryFault? run = some (fragment, cause)) : run = .error (.query fragment cause) := by
  unfold queryFault? at h
  split at h
  · cases h
    rfl
  · cases h
  · cases h

/-- The error has a fragment that names its place in the query. -/
def Locates (query : String) (fault : Error) : Prop :=
  ∃ fragment cause, fault = .query fragment cause ∧ Names query fragment cause

theorem locates_of_token (hts : tokens text = .ok ts) (ht : t ∈ ts) (hne : t.text ≠ "")
    (cause : QueryFault) : Locates text (.query t.text cause) :=
  ⟨_, _, rfl, .part (pointsInto_of_token hts ht hne rfl)⟩

theorem locates_of_fieldPredicate {now : Calendar.Instant} (hts : tokens text = .ok ts)
    (ht : .term (.field key value) ∈ ts) (h : fieldPredicate now key value = .error fault) :
    Locates text fault := by
  have hne : (Token.term (.field key value)).text ≠ "" := by simp [Token.text, Term.text]
  obtain ⟨fragment, cause, rfl, hsame | ⟨short, glob, hkey, hglob, rfl, rfl⟩⟩ :=
    namesTerm_of_fieldPredicate h
  · exact ⟨_, _, rfl, .part (pointsInto_of_token hts ht hne hsame)⟩
  · exact ⟨_, _, rfl, .shortened hkey hglob (pointsInto_of_token hts ht hne rfl)⟩

theorem eq_of_reference? {word name : String} (h : reference? word = some name) :
    word = "@" ++ name := by
  rw [reference?] at h
  split at h
  · rename_i name' hword
    cases h
    rw [← String.toList_inj, hword]
    simp
  · cases h

/-- A term that refers to no saved filter is refused with a fault that names its place. -/
theorem locates_of_filterOfTerm {now : Calendar.Instant}
    {named : String → Except Error Filter} {term : Term}
    (hnames : ∀ name, References text name → name = "") (hts : tokens text = .ok ts)
    (ht : .term term ∈ ts) (h : filterOfTerm now named term = .error fault) :
    Locates text fault := by
  cases term with
  | field key value =>
      rw [filterOfTerm, ← bind_pure_comp] at h
      rcases bind_error_iff.1 h with h | ⟨_, -, h⟩
      · exact locates_of_fieldPredicate hts ht h
      · cases h
  | word word =>
      rw [filterOfTerm] at h
      split at h
      · rename_i name hword
        have hname := hnames name ⟨ts, word, tokens_trim.2 hts, ht, hword⟩
        rw [if_pos hname] at h
        cases h
        rw [hname] at hword
        have hat : word = "@" := eq_of_reference? hword
        subst hat
        exact locates_of_token hts ht (by decide) _
      · split at h
        · rename_i hempty
          cases h
          subst hempty
          exact ⟨_, _, rfl, .emptyWord hts ht⟩
        · cases h

/--
**A fault is found in the query.**  When a query without references is refused, the message has a
fragment that is not empty and occurs in the query up to ASCII case, as it is written or with its
quotes left out.  The exceptions are a word of nothing but quotes, which has no text, and a pattern
for names under a long key, for which the short form of the key is told.
-/
theorem filterOf_faults_locate (ctx : Context) (text : String) (fault : Error)
    (hnames : ∀ name, References text name → name = "")
    (h : filterOf ctx text = .error fault) :
    ∃ fragment cause, fault = .query fragment cause ∧ Names text fragment cause := by
  rw [filterOf, filterWithin, filterWith] at h
  split at h
  · cases h
  · rename_i hblank
    split at h
    · rename_i fragment hopen
      cases h
      exact ⟨_, _, rfl, .part (pointsInto_of_open_quote hopen)⟩
    · rename_i ts hts
      have hts := tokens_trim.1 hts
      rcases bind_error_iff.1 h with h | ⟨_, -, h⟩
      · rcases formulaOf_error_of_ne_nil (tokens_ne_nil hblank hts) h with
          ⟨term, hterm, hleaf⟩ | ⟨t, ht, hmark, cause, rfl⟩
        · exact locates_of_filterOfTerm hnames hts hterm hleaf
        · have hne : t.text ≠ "" := by
            cases t with
            | term term => cases hmark
            | and | or | not | openGroup | closeGroup => decide
          exact locates_of_token hts ht hne cause
      · cases h

/-- A value that is no score, with its key in capitals and quotes all over the word. -/
theorem filterOf_faults_locate_quoted_score :
    let ctx : Context := ⟨⟨0, 0⟩, none⟩
    let text := "wid\"get\" AND (SC\"ORE\":\"fi ve\" OR @)"
    (∀ name, References text name → name = "") ∧
      filterOf ctx text = .error (.query "SCORE:fi ve" .invalidScore) ∧
      ∃ fragment cause, Error.query "SCORE:fi ve" .invalidScore = .query fragment cause ∧
        Names text fragment cause := by
  intro ctx text
  have hnames : ∀ name, References text name → name = "" := by
    intro name h
    have hall : ∀ name ∈ referenced text, name = "" := by decide +kernel
    exact hall name (references_iff.1 h)
  have hfault : filterOf ctx text = .error (.query "SCORE:fi ve" .invalidScore) := by
    refine eq_of_queryFault? ?_
    rw [filterOf, filterWithin]
    decide +kernel
  exact ⟨hnames, hfault, filterOf_faults_locate ctx text _ hnames hfault⟩

/-- Two quotes are an empty word, of which nothing is named, and a bad pattern is named with a key
that does not stand in the query. -/
theorem filterOf_faults_miss_empty_word_and_long_key :
    let ctx : Context := ⟨⟨0, 0⟩, none⟩
    (referenced "\"\"" = [] ∧ filterOf ctx "\"\"" = .error (.query "" .emptyTerm) ∧
      ¬PointsInto "\"\"" "") ∧
      referenced "repository:[oops" = [] ∧
      filterOf ctx "repository:[oops" = .error (.query "repo:[oops" (.glob .invalidRange)) ∧
      ¬PointsInto "repository:[oops" "repo:[oops" := by
  intro ctx
  refine ⟨⟨by decide +kernel, eq_of_queryFault? ?_, by decide +kernel⟩, by decide +kernel,
    eq_of_queryFault? ?_, by decide +kernel⟩
  all_goals
    rw [filterOf, filterWithin]
    decide +kernel

end Triage.Query
