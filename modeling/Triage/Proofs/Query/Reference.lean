/-
The graph of saved filters that refer to each other.

A text refers to a saved filter by one of its words, and the expression of that filter refers
further.  `Reaches` and `Leads` are about the texts alone and know nothing of how queries are read:
the first says which names can be come across at all, the second which names were followed on the
way.  Reading a query walks in this graph and keeps the chain of names it came by.
-/
import Triage.Proofs.Query.Fault

namespace Triage.Query

open Triage.Text

/-- A text refers to a saved filter. -/
def References (text name : String) : Prop :=
  ∃ ts word, tokens (trim text) = .ok ts ∧ Token.term (.word word) ∈ ts ∧
    reference? word = some name

/-- The names that a text refers to. -/
def referenced (text : String) : List String :=
  match tokens (trim text) with
  | .error _ => []
  | .ok ts => ts.filterMap fun
    | .term (.word word) => reference? word
    | _ => none

theorem references_iff {text name : String} : References text name ↔ name ∈ referenced text := by
  rw [References, referenced]
  cases tokens (trim text) with
  | error fragment => simp
  | ok ts =>
      simp only [Except.ok.injEq, List.mem_filterMap]
      constructor
      · rintro ⟨_, word, rfl, hmem, hword⟩
        exact ⟨_, hmem, hword⟩
      · rintro ⟨t, hmem, ht⟩
        split at ht
        · rename_i word
          exact ⟨ts, word, rfl, hmem, ht⟩
        · cases ht

namespace Context

variable {ctx : Context} {chain path : List String} {text name first : String}

/-- The expression of a saved filter. -/
def expression? (ctx : Context) (name : String) : Option String := ctx.saved.bind (·.get? name)

/-- A name is come across when references are followed from a text. -/
inductive Reaches (ctx : Context) : String → String → Prop
  | here {text name : String} (h : References text name) : Reaches ctx text name
  | through {text first expression name : String} (h : References text first)
      (hfirst : ctx.expression? first = some expression)
      (hrest : Reaches ctx expression name) : Reaches ctx text name

/-- A list that holds the names of a text, and with a name those of its expression, holds all that
are come across. -/
theorem Reaches.mem_of_closed {l : List String} (h : ctx.Reaches text name)
    (htext : ∀ first ∈ referenced text, first ∈ l)
    (hclosed : ∀ first ∈ l, ∀ next ∈ ((ctx.expression? first).map referenced).getD [],
      next ∈ l) : name ∈ l := by
  induction h with
  | here href => exact htext _ (references_iff.1 href)
  | through href hfirst _ ih =>
      refine ih fun next hnext => hclosed _ (htext _ (references_iff.1 href)) next ?_
      rw [hfirst, Option.map_some, Option.getD_some]
      exact hnext

/-- The names of a path are followed one after the other, and the last one leads to a name. -/
def Leads (ctx : Context) (text : String) : List String → String → Prop
  | [], name => References text name
  | first :: rest, name =>
    References text first ∧
      ∃ expression, ctx.expression? first = some expression ∧ Leads ctx expression rest name

/-- A saved filter comes across itself. -/
def Recurs (ctx : Context) (name : String) : Prop :=
  ∃ expression, ctx.expression? name = some expression ∧ ctx.Reaches expression name

theorem Leads.reaches (h : ctx.Leads text path name) : ctx.Reaches text name := by
  induction path generalizing text with
  | nil => exact .here h
  | cons first rest ih =>
      obtain ⟨hfirst, expression, hexpression, hrest⟩ := h
      exact .through hfirst hexpression (ih hrest)

/-- Every name on a path comes across the name the path leads to. -/
theorem Leads.reaches_of_mem (h : ctx.Leads text path name) (hmem : first ∈ path) :
    ctx.Reaches text first ∧
      ∃ expression, ctx.expression? first = some expression ∧ ctx.Reaches expression name := by
  induction path generalizing text with
  | nil => cases hmem
  | cons next rest ih =>
      obtain ⟨hnext, expression, hexpression, hrest⟩ := h
      rcases List.mem_cons.1 hmem with rfl | hmem
      · exact ⟨.here hnext, expression, hexpression, hrest.reaches⟩
      · obtain ⟨hreach, hlast⟩ := ih hrest hmem
        exact ⟨.through hnext hexpression hreach, hlast⟩

/-! ### Expansion

One expansion follows one reference.  It is refused for a name that is not saved, and for one that
is being expanded already.
-/

theorem expression?_of_saved {saved : SortedMap String} (h : ctx.saved = some saved)
    (name : String) : ctx.expression? name = saved.get? name := by
  rw [expression?, h]
  rfl

theorem expand_ok_iff {expression : String} :
    (∃ e, ctx.expand chain name = .ok e ∧ e.1 = expression) ↔
      ctx.expression? name = some expression ∧ name ∉ chain := by
  constructor
  · rintro ⟨e, he, rfl⟩
    unfold expand at he
    split at he
    · cases he
    · rename_i saved hsaved
      split at he
      · cases he
      · rename_i hchain
        split at he
        · cases he
        · rename_i hname
          cases he
          exact ⟨(expression?_of_saved hsaved name).trans hname, hchain⟩
  · rintro ⟨hname, hchain⟩
    unfold expand
    split
    · rename_i hsaved
      rw [expression?, hsaved] at hname
      cases hname
    · rename_i saved hsaved
      rw [expression?_of_saved hsaved] at hname
      rw [dif_neg hchain]
      split
      · rename_i hnone
        exact absurd (hnone.symm.trans hname) (by simp)
      · rename_i found hfound
        exact ⟨_, rfl, Option.some.inj (hfound.symm.trans hname)⟩

theorem expand_error {fault : Error} (h : ctx.expand chain name = .error fault) :
    (name ∈ chain ∧ fault = .reference (.cycle name chain)) ∨
      (ctx.expression? name = none ∧ (fault = .reference (.noStore name) ∨
        fault = .reference (.unknown name))) := by
  unfold expand at h
  split at h
  · rename_i hsaved
    cases h
    exact .inr ⟨by rw [expression?, hsaved]; rfl, .inl rfl⟩
  · rename_i saved hsaved
    split at h
    · rename_i hchain
      cases h
      exact .inl ⟨hchain, rfl⟩
    · split at h
      · rename_i hnone
        cases h
        exact .inr ⟨(expression?_of_saved hsaved name).trans hnone, .inr rfl⟩
      · cases h

/-- What holds of a chain when it holds of every chain it can be expanded to holds of all chains:
there are fewer names left each time. -/
theorem expansion_induction (ctx : Context) {motive : List String → Prop}
    (step : ∀ chain, (∀ name e, ctx.expand chain name = .ok e → motive (chain ++ [name])) →
      motive chain) (chain : List String) : motive chain :=
  step chain fun name e _ => expansion_induction ctx step (chain ++ [name])
termination_by ctx.unexpanded chain
decreasing_by exact e.2

end Context

/-! ### Terms that refer to saved filters -/

variable {ctx : Context} {chain : List String} {text name word : String}

/-- The filter that a name stands for within the expansion of a chain of saved filters. -/
def namedFilter (ctx : Context) (chain : List String) (name : String) : Except Error Filter := do
  let expression ← ctx.expand chain name
  filterWithin ctx (chain ++ [name]) expression.1

theorem namedFilter_ok_iff {f : Filter} :
    namedFilter ctx chain name = .ok f ↔ ∃ expression, ctx.expression? name = some expression ∧
      name ∉ chain ∧ filterWithin ctx (chain ++ [name]) expression = .ok f := by
  rw [namedFilter, bind_ok_iff]
  constructor
  · rintro ⟨e, he, hf⟩
    obtain ⟨hsaved, hnew⟩ := Context.expand_ok_iff.1 ⟨e, he, rfl⟩
    exact ⟨e.1, hsaved, hnew, hf⟩
  · rintro ⟨expression, hsaved, hnew, hf⟩
    obtain ⟨e, he, rfl⟩ := Context.expand_ok_iff.2 ⟨hsaved, hnew⟩
    exact ⟨e, he, hf⟩

theorem namedFilter_error {fault : Error} (h : namedFilter ctx chain name = .error fault) :
    ctx.expand chain name = .error fault ∨
      ∃ e, ctx.expand chain name = .ok e ∧ ctx.expression? name = some e.1 ∧
        filterWithin ctx (chain ++ [name]) e.1 = .error fault := by
  rcases bind_error_iff.1 h with h | ⟨e, he, h⟩
  · exact .inl h
  · exact .inr ⟨e, he, (Context.expand_ok_iff.1 ⟨e, he, rfl⟩).1, h⟩

/-- A word that refers to a name stands for what the name stands for. -/
theorem filterOfTerm_reference {now : Calendar.Instant} {named : String → Except Error Filter}
    (hword : reference? word = some name) (hname : name ≠ "") :
    filterOfTerm now named (.word word) = named name := by
  rw [filterOfTerm, hword]
  exact if_neg hname

/-- A term whose names can be read with other meanings fails only where a name does. -/
theorem filterOfTerm_of_ok {now : Calendar.Instant} {named named' : String → Except Error Filter}
    {t : Term} {f : Filter} (h : filterOfTerm now named t = .ok f) :
    (∃ word name, t = .word word ∧ reference? word = some name ∧ name ≠ "" ∧
      filterOfTerm now named' t = named' name) ∨ filterOfTerm now named' t = .ok f := by
  cases t with
  | field key value => exact .inr h
  | word word =>
      cases hword : reference? word with
      | none =>
          rw [filterOfTerm, hword] at h ⊢
          exact .inr h
      | some name =>
          by_cases hname : name = ""
          · rw [filterOfTerm, hword] at h
            simp [hname] at h
          · exact .inl ⟨word, name, rfl, hword, hname, filterOfTerm_reference hword hname⟩

/-! ### Queries -/

/-- A blank text refers to nothing. -/
theorem not_references_of_blank (h : trim text = "") : ¬References text name := by
  rintro ⟨ts, word, hts, hmem, -⟩
  have hnone : tokens "" = .ok [] := rfl
  rw [h, hnone] at hts
  cases hts
  cases hmem

theorem filterWith_of_tokens {ts : List Token} (hblank : trim text ≠ "")
    (hts : tokens (trim text) = .ok ts) (now : Calendar.Instant)
    (named : String → Except Error Filter) :
    filterWith now named text =
      formulaOf (filterOfTerm now named) (trim text) ts >>= fun f => .ok f.flatten := by
  rw [filterWith, if_neg hblank, hts]
  rfl

/-- A query that is not blank and was read has tokens that make a formula. -/
theorem filterWith_ok {now : Calendar.Instant} {named : String → Except Error Filter}
    {f : Filter} (hblank : trim text ≠ "") (h : filterWith now named text = .ok f) :
    ∃ ts formula, tokens (trim text) = .ok ts ∧
      formulaOf (filterOfTerm now named) (trim text) ts = .ok formula ∧ formula.flatten = f := by
  rw [filterWith, if_neg hblank] at h
  cases hts : tokens (trim text) with
  | error fragment =>
      rw [hts] at h
      cases h
  | ok ts =>
      rw [hts] at h
      obtain ⟨formula, hformula, h⟩ := bind_ok_iff.1 h
      cases h
      exact ⟨ts, formula, rfl, hformula, rfl⟩

/-- A query that is refused has a term that is, or it is at fault itself. -/
theorem filterWith_error {now : Calendar.Instant} {named : String → Except Error Filter}
    {fault : Error} (h : filterWith now named text = .error fault) :
    (∃ ts t, tokens (trim text) = .ok ts ∧ .term t ∈ ts ∧
      filterOfTerm now named t = .error fault) ∨
      ∃ fragment cause, fault = .query fragment cause := by
  rw [filterWith] at h
  split at h
  · cases h
  · split at h
    · cases h
      exact .inr ⟨_, _, rfl⟩
    · rename_i ts hts
      rcases bind_error_iff.1 h with h | ⟨_, -, h⟩
      · rcases formulaOf_error h with ⟨t, ht, hleaf⟩ | hquery
        · exact .inl ⟨ts, t, hts, ht, hleaf⟩
        · exact .inr hquery
      · cases h

/-- In a query that was read every name stands for a filter. -/
theorem named_ok_of_references {now : Calendar.Instant}
    {named : String → Except Error Filter} {f : Filter} (h : filterWith now named text = .ok f)
    (href : References text name) : name ≠ "" ∧ ∃ g, named name = .ok g := by
  by_cases hblank : trim text = ""
  · exact absurd href (not_references_of_blank hblank)
  · obtain ⟨ts, word, hts, hmem, hword⟩ := href
    obtain ⟨ts', formula, hts', hformula, -⟩ := filterWith_ok hblank h
    rw [hts] at hts'
    cases hts'
    obtain ⟨g, hg⟩ := leaf_ok_of_formulaOf hformula hmem
    have hname : name ≠ "" := by
      rintro rfl
      rw [filterOfTerm, hword] at hg
      simp at hg
    exact ⟨hname, g, (filterOfTerm_reference hword hname).symm.trans hg⟩

/--
**Only names decide.**  A query that can be read with some meanings for its names can be read with
others exactly if those are filters; otherwise it fails as one of its names does.
-/
theorem filterWith_of_readable {now : Calendar.Instant}
    {named named' : String → Except Error Filter} {f : Filter}
    (h : filterWith now named text = .ok f) :
    (∃ g, filterWith now named' text = .ok g) ∨
      ∃ name fault, References text name ∧ named' name = .error fault ∧
        filterWith now named' text = .error fault := by
  by_cases hblank : trim text = ""
  · exact .inl ⟨_, by rw [filterWith, if_pos hblank]⟩
  · obtain ⟨ts, formula, hts, hformula, -⟩ := filterWith_ok hblank h
    obtain ⟨e, he⟩ := derives_of_formulaOf hformula
    rcases @formulaOf_of_grammar _ (filterOfTerm now named') (trim text) _ _ _ he with
      ⟨g, hg⟩ | ⟨t, fault, ht, hleaf, hfault⟩
    · exact .inl ⟨g.flatten, by rw [filterWith_of_tokens hblank hts, hg]; rfl⟩
    · obtain ⟨g, hg⟩ := leaf_ok_of_formulaOf hformula ht
      rcases @filterOfTerm_of_ok _ _ named' _ _ hg with
        ⟨word, name, rfl, hword, -, hsame⟩ | hok
      · exact .inr ⟨name, fault, ⟨ts, word, hts, ht, hword⟩, hsame.symm.trans hleaf,
          by rw [filterWith_of_tokens hblank hts, hfault]; rfl⟩
      · rw [hok] at hleaf
        cases hleaf

end Triage.Query
