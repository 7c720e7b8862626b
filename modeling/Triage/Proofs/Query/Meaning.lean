/-
What phrases mean.

`Means` ties the tokens of a phrase to a filter: the terms of the phrase all stand for filters, and
the phrase accepts what the filter accepts.  There is a rule for each way to put phrases together,
so that the meaning of a query can be told from its parts without looking at how it is read; and a
list of tokens means what the filter says that is read from it.  `Tells` goes on to texts: a text
tells a filter if it is read, wherever it stands, as a phrase that means it.
-/
import Triage.Proofs.Query.Conditions
import Triage.Proofs.Query.Parentheses
import Triage.Proofs.Query.Passage

namespace Triage.Query

open Text

/-- The tokens are a phrase that accepts what the filter accepts, and all its terms stand for
filters. -/
structure Means (leaf : Term → Except Error Filter) (φ : Phrase) (ts : List Token) (f : Filter) :
    Prop where
  terms : ∀ t, .term t ∈ ts → ∃ a, leaf t = .ok a
  accepts : ∃ e, Derives φ ts e ∧
    ∀ g : Term → Filter, (∀ t, .term t ∈ ts → leaf t = .ok (g t)) →
      ∀ test, (e.value fun t => (g t).holds test) = f.holds test

namespace Means

variable {leaf : Term → Except Error Filter} {φ ψ : Phrase} {ts us : List Token} {f g : Filter}
  {t : Term}

/-- Filters that accept the same are meant by the same phrases. -/
theorem of_holds (h : Means leaf φ ts f) (hsame : ∀ test, f.holds test = g.holds test) :
    Means leaf φ ts g := by
  obtain ⟨e, he, hvalue⟩ := h.accepts
  exact ⟨h.terms, e, he, fun g hg test => (hvalue g hg test).trans (hsame test)⟩

theorem lift (h : Means leaf φ ts f) (hrank : ψ.rank ≤ φ.rank) : Means leaf ψ ts f := by
  obtain ⟨e, he, hvalue⟩ := h.accepts
  exact ⟨h.terms, e, he.lift hrank, hvalue⟩

theorem term (h : leaf t = .ok f) : Means leaf .primary [.term t] f := by
  refine ⟨fun u hu => ?_, .term t, .term t, fun g hg test => ?_⟩
  · cases List.mem_singleton.1 hu
    exact ⟨f, h⟩
  · cases h.symm.trans (hg t List.mem_cons_self)
    rfl

theorem group (h : Means leaf .disjunction ts f) :
    Means leaf .primary (.openGroup :: (ts ++ [.closeGroup])) f := by
  obtain ⟨e, he, hvalue⟩ := h.accepts
  refine ⟨fun t ht => h.terms t (by simpa using ht), e, he.group, fun g hg test => ?_⟩
  exact hvalue g (fun t ht => hg t (by simp [ht])) test

theorem not (h : Means leaf .negation ts f) : Means leaf .negation (.not :: ts) (.not f) := by
  obtain ⟨e, he, hvalue⟩ := h.accepts
  refine ⟨fun t ht => h.terms t (by simpa using ht), .not e, he.not, fun g hg test => ?_⟩
  rw [Tree.value, Formula.holds, hvalue g (fun t ht => hg t (by simp [ht])) test]

/-- Two phrases that are joined to one, with the terms of both. -/
theorem join {χ : Phrase} {vs : List Token} {k : Filter} (node : Tree → Tree → Tree)
    (op : Bool → Bool → Bool) (h : Means leaf φ ts f) (hg : Means leaf ψ us g)
    (hterms : ∀ t, .term t ∈ vs ↔ .term t ∈ ts ∨ .term t ∈ us)
    (hnode : ∀ e e', Derives φ ts e → Derives ψ us e' → Derives χ vs (node e e'))
    (hvalue : ∀ e e' test, (node e e').value test = op (e.value test) (e'.value test))
    (hk : ∀ test, k.holds test = op (f.holds test) (g.holds test)) : Means leaf χ vs k := by
  obtain ⟨e, he, hleft⟩ := h.accepts
  obtain ⟨e', he', hright⟩ := hg.accepts
  refine ⟨fun t ht => ((hterms t).1 ht).elim (h.terms t) (hg.terms t), node e e',
    hnode e e' he he', fun leaves hleaves test => ?_⟩
  rw [hvalue, hk, hleft leaves fun t ht => hleaves t ((hterms t).2 (.inl ht)),
    hright leaves fun t ht => hleaves t ((hterms t).2 (.inr ht))]

theorem and (h : Means leaf .conjunction ts f) (hg : Means leaf .negation us g) :
    Means leaf .conjunction (ts ++ .and :: us) (f.both g) :=
  h.join .and (· && ·) hg (by simp) (fun _ _ => .and) (fun _ _ _ => rfl) fun _ =>
    Formula.holds_both f g

theorem implicitAnd (h : Means leaf .conjunction ts f) (hg : Means leaf .negation us g) :
    Means leaf .conjunction (ts ++ us) (f.both g) :=
  h.join .and (· && ·) hg (by simp) (fun _ _ => .implicitAnd) (fun _ _ _ => rfl) fun _ =>
    Formula.holds_both f g

theorem or (h : Means leaf .disjunction ts f) (hg : Means leaf .conjunction us g) :
    Means leaf .disjunction (ts ++ .or :: us) (f.either g) :=
  h.join .or (· || ·) hg (by simp) (fun _ _ => .or) (fun _ _ _ => rfl) fun _ =>
    Formula.holds_either f g

end Means

/-! ### Tokens of a query -/

section tokens

variable {ctx : Context} {chain : List String} {query : String} {ts : List Token} {f : Filter}

/-- A list of tokens with a meaning is accepted, and its filter is what it means. -/
theorem Means.exists_filter (h : Means (termFilter ctx chain) .disjunction ts f) (query : String) :
    ∃ f', filterOfTokens ctx chain query ts = .ok f' ∧
      ∀ score n, f'.accepts score n = f.accepts score n := by
  obtain ⟨e, he, hvalue⟩ := h.accepts
  let g (t : Term) : Filter := ((termFilter ctx chain t).toOption).getD (.atom .anything)
  have hg (t : Term) (ht : .term t ∈ ts) : termFilter ctx chain t = .ok (g t) := by
    obtain ⟨a, ha⟩ := h.terms t ht
    simp [g, ha, Except.toOption]
  refine ⟨_, filterOfTokens_ok_iff.2 ⟨_, formulaOf_of_derives he hg, rfl⟩, fun score n => ?_⟩
  rw [Filter.accepts, Formula.holds_flatten, Tree.holds_formula]
  exact hvalue g hg _

/-- What a phrase says depends on its own terms only. -/
theorem value_congr {φ : Phrase} {e : Tree} {test test' : Term → Bool} (he : Derives φ ts e)
    (h : ∀ t, .term t ∈ ts → test t = test' t) : e.value test = e.value test' := by
  have hterms : (e.formula id).Every fun t => test t = test' t := every_formula he h
  have hsame := Formula.holds_congr _ hterms
  rwa [Tree.holds_formula, Tree.holds_formula] at hsame

/-- A list of tokens that is accepted means what its filter says. -/
theorem means_of_filterOfTokens (h : filterOfTokens ctx chain query ts = .ok f) :
    Means (termFilter ctx chain) .disjunction ts f := by
  obtain ⟨formula, hformula, rfl⟩ := filterOfTokens_ok_iff.1 h
  obtain ⟨e, g, he, hg, rfl⟩ := exists_tree_of_formulaOf hformula
  refine ⟨fun t ht => ⟨g t, hg t ht⟩, e, he, fun g' hg' test => ?_⟩
  rw [Formula.holds_flatten, Tree.holds_formula]
  refine value_congr he fun t ht => ?_
  rw [Except.ok.inj ((hg t ht).symm.trans (hg' t ht))]

end tokens

/-! ### Texts with a meaning -/

/-- Wherever it stands, the text is read as a phrase that means the filter. -/
def Tells (leaf : Term → Except Error Filter) (φ : Phrase) (text : String) (f : Filter) : Prop :=
  ∃ ts, Reads text.toList ts ∧ Means leaf φ ts f

namespace Tells

variable {leaf : Term → Except Error Filter} {φ ψ : Phrase} {text other : String} {f g : Filter}

theorem of_holds (h : Tells leaf φ text f) (hsame : ∀ test, f.holds test = g.holds test) :
    Tells leaf φ text g :=
  let ⟨ts, hreads, hmeans⟩ := h
  ⟨ts, hreads, hmeans.of_holds hsame⟩

theorem lift (h : Tells leaf φ text f) (hrank : ψ.rank ≤ φ.rank) : Tells leaf ψ text f :=
  let ⟨ts, hreads, hmeans⟩ := h
  ⟨ts, hreads, hmeans.lift hrank⟩

theorem group (h : Tells leaf .disjunction text f) :
    Tells leaf .primary ("(" ++ text ++ ")") f := by
  obtain ⟨ts, hreads, hmeans⟩ := h
  refine ⟨_, ?_, hmeans.group⟩
  simpa using hreads.group

theorem not (h : Tells leaf .negation text f) : Tells leaf .negation ("NOT " ++ text) (.not f) := by
  obtain ⟨ts, hreads, hmeans⟩ := h
  refine ⟨_, ?_, hmeans.not⟩
  simpa using Reads.not.spaced hreads

theorem and (h : Tells leaf .conjunction text f) (hg : Tells leaf .negation other g) :
    Tells leaf .conjunction (text ++ " AND " ++ other) (f.both g) := by
  obtain ⟨ts, hreads, hmeans⟩ := h
  obtain ⟨us, hreads', hmeans'⟩ := hg
  refine ⟨_, ?_, hmeans.and hmeans'⟩
  simpa using hreads.spaced (Reads.and.spaced hreads')

theorem implicitAnd (h : Tells leaf .conjunction text f) (hg : Tells leaf .negation other g) :
    Tells leaf .conjunction (text ++ " " ++ other) (f.both g) := by
  obtain ⟨ts, hreads, hmeans⟩ := h
  obtain ⟨us, hreads', hmeans'⟩ := hg
  refine ⟨_, ?_, hmeans.implicitAnd hmeans'⟩
  simpa using hreads.spaced hreads'

theorem or (h : Tells leaf .disjunction text f) (hg : Tells leaf .conjunction other g) :
    Tells leaf .disjunction (text ++ " OR " ++ other) (f.either g) := by
  obtain ⟨ts, hreads, hmeans⟩ := h
  obtain ⟨us, hreads', hmeans'⟩ := hg
  refine ⟨_, ?_, hmeans.or hmeans'⟩
  simpa using hreads.spaced (Reads.or.spaced hreads')

end Tells

/-! ### Conditions -/

section conditions

variable {ctx : Context} {chain : List String} {p : Predicate}

/-- A key with a value is told by every text that is read so. -/
theorem tells_of_reads {text key value : String}
    (hreads : Reads text.toList [.term (.field key value)])
    (h : fieldPredicate ctx.now key value = .ok p) :
    Tells (termFilter ctx chain) .primary text (.atom p) := by
  refine ⟨_, hreads, .term ?_⟩
  rw [termFilter, filterOfTerm, h]
  rfl

theorem tells_of_field (key value : String) (hkey : IsPlain key) (hvalue : IsPlainValue value)
    (h : fieldPredicate ctx.now key value = .ok p) :
    Tells (termFilter ctx chain) .primary (key ++ ":" ++ value) (.atom p) :=
  tells_of_reads (by simpa using Reads.field hkey hvalue.2) h

theorem tells_of_quotedField (key value : String) (hkey : IsPlain key)
    (hvalue : '"' ∉ value.toList) (h : fieldPredicate ctx.now key value = .ok p) :
    Tells (termFilter ctx chain) .primary (key ++ ":\"" ++ value ++ "\"") (.atom p) :=
  tells_of_reads (by simpa [inQuotes] using Reads.quotedField hkey hvalue) h

end conditions

/-! ### Queries -/

section queries

variable {ctx : Context} {chain : List String} {query : String} {f : Filter}

/-- A query with a meaning is accepted, and its filter is what it means. -/
theorem Tells.exists_filter (h : Tells (termFilter ctx chain) .disjunction query f) :
    ∃ f', filterWithin ctx chain query = .ok f' ∧
      ∀ score n, f'.accepts score n = f.accepts score n := by
  obtain ⟨ts, hreads, hmeans⟩ := h
  obtain ⟨e, he, -⟩ := hmeans.accepts
  obtain ⟨t, rest, hts, -⟩ := he.startsOperand
  have htokens : tokens (trim query) = .ok ts := tokens_trim.2 hreads.tokens_eq
  have hblank : trim query ≠ "" := ne_empty_of_tokens htokens (by simp [hts])
  rw [filterWithin_of_tokens hblank htokens]
  exact hmeans.exists_filter _

/-- A query that is accepted and not blank means what its filter says. -/
theorem tells_of_filterWithin (hblank : trim query ≠ "")
    (h : filterWithin ctx chain query = .ok f) :
    Tells (termFilter ctx chain) .disjunction query f := by
  obtain ⟨ts, -, htokens, -⟩ := filterWith_ok hblank (by rwa [filterWithin] at h)
  rw [filterWithin_of_tokens hblank htokens] at h
  exact ⟨ts, .of_tokens (tokens_trim.1 htokens), means_of_filterOfTokens h⟩

/-- A query of a single term stands for what the term stands for. -/
theorem filterWithin_of_reads {t : Term} (h : Reads query.toList [.term t]) :
    filterWithin ctx chain query = termFilter ctx chain t := by
  have htokens : tokens (trim query) = .ok [.term t] := tokens_trim.2 h.tokens_eq
  have hblank : trim query ≠ "" := ne_empty_of_tokens htokens (List.cons_ne_nil _ _)
  rw [filterWithin_of_tokens hblank htokens, filterOfTokens, formulaOf, List.foldlM_cons,
    Reading.step]
  cases termFilter ctx chain t <;> rfl

end queries

end Triage.Query
