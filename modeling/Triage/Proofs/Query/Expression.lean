/-
Reading an expression is parsing by the grammar.

An expression is accepted exactly when the grammar derives it, and the filter that
comes of it accepts what the derivation says, each term standing for its own filter.
The two directions are proved in `Proofs/Query/Complete.lean` and
`Proofs/Query/Sound.lean`; here they meet, first for formulas over terms of any
meaning and then for queries.
-/
import Triage.Proofs.Query.Sound
import Triage.Query.Filter

namespace Triage.Query

open Triage.Text

section formulas

variable {α : Type} {leaf : Term → Except Error α} {g : Term → α} {query : String}

theorem formulaOf_ok_iff {ts : List Token} {f : Formula α} :
    formulaOf leaf query ts = .ok f ↔ ∃ r, Reading.steps leaf Reading.start ts = .ok r ∧
      r.needsOperand = false ∧ Reading.closeAll r.complete r.waiting = .ok [f] := by
  rw [formulaOf, bind_ok_iff]
  refine exists_congr fun r => and_congr_right fun _ => ?_
  rw [Reading.finish]
  by_cases hneeds : r.needsOperand = true
  · simp [hneeds]
  · rw [if_neg hneeds, bind_ok_iff]
    refine ⟨fun ⟨complete, hclose, h⟩ => ⟨by simpa using hneeds, ?_⟩, fun ⟨_, hclose⟩ => ?_⟩
    · split at h
      · cases h
        exact hclose
      · cases h
      · cases h
    · exact ⟨[f], hclose, rfl⟩

theorem formulaOf_of_derives {ts : List Token} {e : Tree} (h : Derives .disjunction ts e)
    (hleaf : ∀ t, .term t ∈ ts → leaf t = .ok (g t)) :
    formulaOf leaf query ts = .ok (e.formula g) := by
  obtain ⟨r, hr, above, ops, rfl, -, hunwind⟩ := Reading.steps_of_derives h [] [] trivial hleaf
  exact formulaOf_ok_iff.2 ⟨_, hr, rfl, Reading.closeAll_unwind hunwind⟩

theorem derives_of_formulaOf {ts : List Token} {f : Formula α}
    (h : formulaOf leaf query ts = .ok f) : ∃ e, Derives .disjunction ts e := by
  obtain ⟨r, hr, hneeds, hclose⟩ := formulaOf_ok_iff.1 h
  have haccounts := Reading.accounts_steps Reading.accounts_start hr
  rw [Reading.Accounts, if_neg (by simp [hneeds]), List.nil_append] at haccounts
  exact Reading.derives_of_closeAll hclose haccounts

/-- An implicit `AND` may be written out, whatever the text around the tokens. -/
theorem formulaOf_insert_and {query' : String} {ts us : List Token} {t u : Token}
    {f : Formula α} (ht : t.endsOperand = true) (hu : u.startsOperand = true) :
    formulaOf leaf query' (ts ++ t :: .and :: u :: us) = .ok f ↔
      formulaOf leaf query (ts ++ t :: u :: us) = .ok f := by
  rw [formulaOf_ok_iff, formulaOf_ok_iff, Reading.steps_insert_and _ ht hu]

end formulas

/-! ### Queries

`termFilter` is what a single term stands for; a term that names a saved filter stands
for the whole of it.
-/

/-- The filter that a term stands for within the expansion of a chain of saved filters. -/
def termFilter (ctx : Context) (chain : List String) : Term → Except Error Filter :=
  filterOfTerm ctx.now fun name => do
    let expression ← ctx.expand chain name
    filterWithin ctx (chain ++ [name]) expression.1

theorem filterWithin_ok_iff {ctx : Context} {chain : List String} {text : String}
    {ts : List Token} (hblank : trim text ≠ "") (hts : tokens (trim text) = .ok ts)
    {f : Filter} : filterWithin ctx chain text = .ok f ↔
      ∃ formula, formulaOf (termFilter ctx chain) (trim text) ts = .ok formula ∧
        formula.flatten = f := by
  rw [filterWithin, filterWith, if_neg hblank, hts]
  refine bind_ok_iff.trans (exists_congr fun formula => and_congr_right fun _ => ?_)
  exact ⟨fun h => by cases h; rfl, fun h => h ▸ rfl⟩

/-- A text with tokens is not blank. -/
theorem ne_empty_of_tokens {text : String} {ts : List Token} (hts : tokens text = .ok ts)
    (hne : ts ≠ []) : text ≠ "" := by
  rintro rfl
  have hnone : tokens "" = .ok [] := rfl
  rw [hnone] at hts
  cases hts
  exact hne rfl

/--
**A query is read as the grammar says.**  For a query whose terms all stand for
filters, it is accepted exactly when the grammar derives its tokens; the filter then
accepts what any derivation says, and writing an implicit `AND` out gives the same
filter.
-/
theorem filterWithin_follows_grammar (ctx : Context) (chain : List String) (text : String)
    (ts : List Token) (leaf : Term → Filter) (hblank : trim text ≠ "")
    (hts : tokens (trim text) = .ok ts)
    (hleaf : ∀ t, .term t ∈ ts → termFilter ctx chain t = .ok (leaf t)) :
    ((∃ f, filterWithin ctx chain text = .ok f) ↔ ∃ e, Derives .disjunction ts e) ∧
    (∀ f e, filterWithin ctx chain text = .ok f → Derives .disjunction ts e →
      ∀ score n, f.accepts score n = e.value fun t => (leaf t).accepts score n) ∧
    ∀ (text' : String) (before after : List Token) (t u : Token),
      t.endsOperand = true → u.startsOperand = true → ts = before ++ t :: u :: after →
      tokens (trim text') = .ok (before ++ t :: .and :: u :: after) →
      ∀ f, filterWithin ctx chain text' = .ok f ↔ filterWithin ctx chain text = .ok f := by
  refine ⟨⟨?_, ?_⟩, ?_, ?_⟩
  · rintro ⟨f, hf⟩
    obtain ⟨formula, hformula, -⟩ := (filterWithin_ok_iff hblank hts).1 hf
    exact derives_of_formulaOf hformula
  · rintro ⟨e, he⟩
    exact ⟨_, (filterWithin_ok_iff hblank hts).2 ⟨_, formulaOf_of_derives he hleaf, rfl⟩⟩
  · intro f e hf he score n
    obtain ⟨formula, hformula, rfl⟩ := (filterWithin_ok_iff hblank hts).1 hf
    rw [formulaOf_of_derives he hleaf] at hformula
    cases hformula
    rw [Filter.accepts, Formula.holds_flatten, Tree.holds_formula]
    rfl
  · rintro text' before after t u ht hu rfl hts' f
    have hblank' : trim text' ≠ "" := ne_empty_of_tokens hts' (by simp)
    rw [filterWithin_ok_iff hblank' hts', filterWithin_ok_iff hblank hts]
    exact exists_congr fun formula => and_congr_left fun _ => formulaOf_insert_and ht hu

/-- A negated group after a word: the `AND` between them may be left out. -/
theorem filterWithin_follows_grammar_negated_group :
    let ctx : Context := ⟨⟨0, 0⟩, none⟩
    let word (text : String) : Filter := .atom (.ofText text)
    trim "a NOT (b OR c)" ≠ "" ∧
    tokens (trim "a NOT (b OR c)") = .ok [.term (.word "a"), .not, .openGroup,
      .term (.word "b"), .or, .term (.word "c"), .closeGroup] ∧
    (∀ t ∈ [Term.word "a", .word "b", .word "c"], termFilter ctx [] t = .ok (word t.text)) ∧
    ∃ f, filterWithin ctx [] "a NOT (b OR c)" = .ok f ∧
      filterWithin ctx [] "a AND NOT (b OR c)" = .ok f ∧
      ∀ score n, f.accepts score n = ((word "a").accepts score n &&
        !((word "b").accepts score n || (word "c").accepts score n)) := by
  intro ctx word
  have hblank : trim "a NOT (b OR c)" ≠ "" := by decide +kernel
  have hts : tokens (trim "a NOT (b OR c)") = .ok [.term (.word "a"), .not, .openGroup,
      .term (.word "b"), .or, .term (.word "c"), .closeGroup] := by rfl
  have hts' : tokens (trim "a AND NOT (b OR c)") = .ok [.term (.word "a"), .and, .not,
      .openGroup, .term (.word "b"), .or, .term (.word "c"), .closeGroup] := by rfl
  have hleaf : ∀ t ∈ [Term.word "a", .word "b", .word "c"],
      termFilter ctx [] t = .ok (word t.text) := by
    intro t ht
    simp only [List.mem_cons, List.not_mem_nil, or_false] at ht
    rcases ht with rfl | rfl | rfl <;> rfl
  have hderives : Derives .disjunction [.term (.word "a"), .not, .openGroup,
      .term (.word "b"), .or, .term (.word "c"), .closeGroup]
      (.and (.term (.word "a")) (.not (.or (.term (.word "b")) (.term (.word "c"))))) :=
    .conjunction (.implicitAnd (.negation (.primary (.term _)))
      (.not (.primary (.group (.or (.conjunction (.negation (.primary (.term _))))
        (.negation (.primary (.term _))))))))
  obtain ⟨haccept, hmeaning, hand⟩ := filterWithin_follows_grammar ctx [] "a NOT (b OR c)" _
    (fun t => word t.text) hblank hts fun t ht => hleaf t (by simpa using ht)
  obtain ⟨f, hf⟩ := haccept.2 ⟨_, hderives⟩
  refine ⟨hblank, hts, hleaf, f, hf, ?_, ?_⟩
  · exact (hand "a AND NOT (b OR c)" [] _ _ _ rfl rfl rfl hts' f).2 hf
  · intro score n
    exact hmeaning f _ hf hderives score n

end Triage.Query
