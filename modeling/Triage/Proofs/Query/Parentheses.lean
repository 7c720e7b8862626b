/-
A reference means its expression in parentheses.

The expression of a saved filter is read by itself and comes back as one filter, while the same
tokens between parentheses share the stacks with the query around them.  `Alike` says that two
readings differ only in formulas that agree; a reading that is past the reference and one that is
past the parentheses are alike, and whatever is read after that keeps them so.

The expression is read with the name of its filter on the chain, the tokens in parentheses are not.
That makes no difference to a text that was read, since a name that is being expanded only ever
refuses texts.
-/
import Mathlib.Data.List.Forall2
import Triage.Proofs.Query.Resolution

namespace Triage.Query

open Context Text

/-! ### Formulas that agree -/

/-- Two formulas over filters accept the same, whatever holds of what. -/
def Agree (f f' : Formula Filter) : Prop :=
  ∀ test, f.flatten.holds test = f'.flatten.holds test

namespace Agree

variable {f f' g g' : Formula Filter}

@[refl] theorem refl (f : Formula Filter) : Agree f f := fun _ => rfl

instance : Std.Refl Agree := ⟨refl⟩

theorem symm (h : Agree f f') : Agree f' f := fun test => (h test).symm

/-- A filter as one condition agrees with the formula that it was made of. -/
theorem atom_flatten (f : Formula Filter) : Agree (.atom f.flatten) f := fun _ => rfl

theorem not (h : Agree f f') : Agree (.not f) (.not f') := by
  intro test
  have := h test
  simp only [Formula.holds_flatten, Formula.holds] at this ⊢
  rw [this]

theorem both (h : Agree f f') (hg : Agree g g') : Agree (f.both g) (f'.both g') := by
  intro test
  have hf := h test
  have hg := hg test
  simp only [Formula.holds_flatten, Formula.holds_both] at hf hg ⊢
  rw [hf, hg]

theorem either (h : Agree f f') (hg : Agree g g') : Agree (f.either g) (f'.either g') := by
  intro test
  have hf := h test
  have hg := hg test
  simp only [Formula.holds_flatten, Formula.holds_either] at hf hg ⊢
  rw [hf, hg]

end Agree

/-! ### Readings that are alike -/

namespace Reading

variable {leaf : Term → Except Error Filter} {op : Operator} {waiting : List Waiting}
  {complete complete' : List (Formula Filter)} {r r' : Reading Filter}

/-- Two readings are at the same point, with formulas that agree. -/
structure Alike (r r' : Reading Filter) : Prop where
  complete : List.Forall₂ Agree r.complete r'.complete
  waiting : r.waiting = r'.waiting
  needsOperand : r.needsOperand = r'.needsOperand

theorem Alike.symm (h : Alike r r') : Alike r' r :=
  ⟨(h.complete.imp fun _ _ => Agree.symm).flip, h.waiting.symm, h.needsOperand.symm⟩

theorem reduce_alike (h : List.Forall₂ Agree complete complete') {done : List (Formula Filter)}
    (hdone : reduce op complete = .ok done) :
    ∃ done', reduce op complete' = .ok done' ∧ List.Forall₂ Agree done done' := by
  unfold reduce at hdone
  split at hdone
  · cases hdone
    obtain _ | ⟨hf, hrest⟩ := h
    exact ⟨_, rfl, .cons hf.not hrest⟩
  · cases hdone
    obtain _ | ⟨hright, _ | ⟨hleft, hrest⟩⟩ := h
    exact ⟨_, rfl, .cons (hleft.both hright) hrest⟩
  · cases hdone
    obtain _ | ⟨hright, _ | ⟨hleft, hrest⟩⟩ := h
    exact ⟨_, rfl, .cons (hleft.either hright) hrest⟩
  · cases hdone

theorem reduceWhile_alike (h : List.Forall₂ Agree complete complete')
    {done : List (Formula Filter)} {left : List Waiting}
    (hdone : reduceWhile op complete waiting = .ok (done, left)) :
    ∃ done', reduceWhile op complete' waiting = .ok (done', left) ∧
      List.Forall₂ Agree done done' := by
  induction waiting generalizing complete complete' with
  | nil =>
      cases hdone
      exact ⟨_, rfl, h⟩
  | cons top rest ih =>
      cases top with
      | group =>
          cases hdone
          exact ⟨_, rfl, h⟩
      | operator top =>
          rw [reduceWhile] at hdone ⊢
          by_cases hrank : top.rank < op.rank
          · rw [if_pos hrank] at hdone ⊢
            cases hdone
            exact ⟨_, rfl, h⟩
          · rw [if_neg hrank] at hdone ⊢
            obtain ⟨next, hnext, hdone⟩ := bind_ok_iff.1 hdone
            obtain ⟨next', hnext', hagree⟩ := reduce_alike h hnext
            rw [hnext']
            exact ih hagree hdone

theorem closeGroup_alike (h : List.Forall₂ Agree complete complete')
    {done : List (Formula Filter)} {left : List Waiting}
    (hdone : closeGroup complete waiting = .ok (done, left)) :
    ∃ done', closeGroup complete' waiting = .ok (done', left) ∧ List.Forall₂ Agree done done' := by
  induction waiting generalizing complete complete' with
  | nil => cases hdone
  | cons top rest ih =>
      cases top with
      | group =>
          cases hdone
          exact ⟨_, rfl, h⟩
      | operator top =>
          obtain ⟨next, hnext, hdone⟩ := bind_ok_iff.1 hdone
          obtain ⟨next', hnext', hagree⟩ := reduce_alike h hnext
          rw [closeGroup, hnext']
          exact ih hagree hdone

theorem closeAll_alike (h : List.Forall₂ Agree complete complete') {done : List (Formula Filter)}
    (hdone : closeAll complete waiting = .ok done) :
    ∃ done', closeAll complete' waiting = .ok done' ∧ List.Forall₂ Agree done done' := by
  induction waiting generalizing complete complete' with
  | nil =>
      cases hdone
      exact ⟨_, rfl, h⟩
  | cons top rest ih =>
      cases top with
      | group => cases hdone
      | operator top =>
          obtain ⟨next, hnext, hdone⟩ := bind_ok_iff.1 hdone
          obtain ⟨next', hnext', hagree⟩ := reduce_alike h hnext
          rw [closeAll, hnext']
          exact ih hagree hdone

theorem Alike.pushBinary {s : Reading Filter} (h : Alike r r') (hs : r.pushBinary op = .ok s) :
    ∃ s', r'.pushBinary op = .ok s' ∧ Alike s s' := by
  obtain ⟨⟨done, left⟩, hreduce, hs⟩ := bind_ok_iff.1 hs
  cases hs
  obtain ⟨done', hdone', hagree⟩ := reduceWhile_alike h.complete hreduce
  rw [Reading.pushBinary, ← h.waiting, hdone']
  exact ⟨_, rfl, hagree, rfl, rfl⟩

theorem Alike.beforeOperand {s : Reading Filter} (h : Alike r r') (hs : r.beforeOperand = .ok s) :
    ∃ s', r'.beforeOperand = .ok s' ∧ Alike s s' := by
  rw [Reading.beforeOperand] at hs ⊢
  rw [← h.needsOperand]
  by_cases hneeds : r.needsOperand = true
  · rw [if_pos hneeds] at hs ⊢
    cases hs
    exact ⟨r', rfl, h⟩
  · rw [if_neg hneeds] at hs ⊢
    exact h.pushBinary hs

/-- One more token keeps two readings alike. -/
theorem Alike.step {s : Reading Filter} {t : Token} (h : Alike r r')
    (hs : step leaf r t = .ok s) : ∃ s', Reading.step leaf r' t = .ok s' ∧ Alike s s' := by
  cases t with
  | term term =>
      obtain ⟨before, hbefore, hs⟩ := bind_ok_iff.1 hs
      obtain ⟨a, ha, hs⟩ := bind_ok_iff.1 hs
      cases hs
      obtain ⟨before', hbefore', halike⟩ := h.beforeOperand hbefore
      rw [Reading.step, hbefore', ha]
      exact ⟨_, rfl, .cons (.refl _) halike.complete, halike.waiting, rfl⟩
  | not | openGroup =>
      obtain ⟨before, hbefore, hs⟩ := bind_ok_iff.1 hs
      cases hs
      obtain ⟨before', hbefore', halike⟩ := h.beforeOperand hbefore
      rw [Reading.step, hbefore']
      exact ⟨_, rfl, halike.complete, by rw [halike.waiting], rfl⟩
  | closeGroup =>
      rw [Reading.step] at hs ⊢
      rw [← h.needsOperand, ← h.waiting]
      by_cases hneeds : r.needsOperand = true
      · rw [if_pos hneeds] at hs
        cases hs
      · rw [if_neg hneeds] at hs ⊢
        obtain ⟨⟨done, left⟩, hclose, hs⟩ := bind_ok_iff.1 hs
        cases hs
        obtain ⟨done', hdone', hagree⟩ := closeGroup_alike h.complete hclose
        rw [hdone']
        exact ⟨_, rfl, hagree, rfl, rfl⟩
  | and | or =>
      rw [Reading.step] at hs ⊢
      rw [← h.needsOperand]
      by_cases hneeds : r.needsOperand = true
      · rw [if_pos hneeds] at hs
        cases hs
      · rw [if_neg hneeds] at hs ⊢
        exact h.pushBinary hs

/-- **Readings that are alike stay alike**, whatever is read after that. -/
theorem Alike.steps {s : Reading Filter} {ts : List Token} (h : Alike r r')
    (hs : steps leaf r ts = .ok s) : ∃ s', Reading.steps leaf r' ts = .ok s' ∧ Alike s s' := by
  induction ts generalizing r r' with
  | nil =>
      cases hs
      exact ⟨r', rfl, h⟩
  | cons t rest ih =>
      obtain ⟨next, hnext, hs⟩ := bind_ok_iff.1 (steps_cons r t rest ▸ hs)
      obtain ⟨next', hnext', halike⟩ := h.step hnext
      rw [steps_cons_of_ok hnext']
      exact ih halike hs

/-- What an operand in parentheses leaves is its formula, on top of what was there. -/
theorem steps_group {α : Type} {leaf : Term → Except Error α} {g : Term → α} {r s : Reading α}
    {ts : List Token} {e : Tree} (hs : r.beforeOperand = .ok s)
    (he : Derives .disjunction ts e) (hleaf : ∀ t, .term t ∈ ts → leaf t = .ok (g t)) :
    steps leaf r (.openGroup :: ts ++ [.closeGroup]) =
      .ok ⟨e.formula g :: s.complete, s.waiting, false⟩ := by
  have hopen : Reading.step leaf r .openGroup =
      .ok ⟨s.complete, .group :: s.waiting, true⟩ := by
    rw [Reading.step, hs]
    rfl
  obtain ⟨r', hr', hsettles⟩ :=
    steps_of_derives he s.complete (.group :: s.waiting) trivial hleaf
  rw [List.cons_append, steps_cons_of_ok hopen, steps_append_of_ok hr',
    steps_cons_of_ok hsettles.step_closeGroup]
  rfl

end Reading

/-! ### The chain of names -/

section chain

variable {ctx : Context} {chain chain' : List String} {text name : String} {f : Filter} {t : Term}

theorem append_subset_append_right (hsub : chain' ⊆ chain) :
    chain' ++ [name] ⊆ chain ++ [name] :=
  List.append_subset.2 ⟨List.subset_append_of_subset_left _ hsub, List.subset_append_right _ _⟩

theorem filterOfTerm_of_named {now : Calendar.Instant}
    {named named' : String → Except Error Filter}
    (hnamed : ∀ name g, named name = .ok g → named' name = .ok g)
    (h : filterOfTerm now named t = .ok f) : filterOfTerm now named' t = .ok f := by
  rcases @filterOfTerm_of_ok _ _ named' _ _ h with ⟨word, name, rfl, hword, hname, hsame⟩ | hok
  · rw [filterOfTerm_reference hword hname] at h
    exact hsame.trans (hnamed name f h)
  · exact hok

/-- Names that mean more than before leave what was read as it is. -/
theorem filterWith_of_named {now : Calendar.Instant}
    {named named' : String → Except Error Filter}
    (hnamed : ∀ name g, named name = .ok g → named' name = .ok g)
    (h : filterWith now named text = .ok f) : filterWith now named' text = .ok f := by
  by_cases hblank : trim text = ""
  · rw [filterWith, if_pos hblank] at h ⊢
    exact h
  · obtain ⟨ts, formula, hts, hformula, rfl⟩ := filterWith_ok hblank h
    have hsteps (r : Reading Filter) :
        r.steps (filterOfTerm now named) ts = r.steps (filterOfTerm now named') ts :=
      Reading.steps_congr fun t ht => by
        obtain ⟨a, ha⟩ := leaf_ok_of_formulaOf hformula ht
        rw [ha, filterOfTerm_of_named hnamed ha]
    rw [formulaOf_ok_iff, hsteps, ← formulaOf_ok_iff] at hformula
    rw [filterWith_of_tokens hblank hts, hformula]
    rfl

/-- **A name on the chain only refuses texts**: without it what was read is read the same. -/
theorem filterWithin_of_subset (ctx : Context) (chain : List String) :
    ∀ (chain' : List String) (text : String) (f : Filter), chain' ⊆ chain →
      filterWithin ctx chain text = .ok f → filterWithin ctx chain' text = .ok f := by
  induction chain using ctx.expansion_induction with
  | step chain ih =>
      intro chain' text f hsub h
      rw [filterWithin] at h ⊢
      refine filterWith_of_named (fun name g hname => ?_) h
      obtain ⟨expression, hsaved, hnew, hg⟩ := namedFilter_ok_iff.1 hname
      obtain ⟨e, he, rfl⟩ := expand_ok_iff.2 ⟨hsaved, hnew⟩
      refine namedFilter_ok_iff.2 ⟨e.1, hsaved, fun hmem => hnew (hsub hmem), ?_⟩
      exact ih name e he _ e.1 g (append_subset_append_right hsub) hg

theorem termFilter_of_subset (hsub : chain' ⊆ chain) (h : termFilter ctx chain t = .ok f) :
    termFilter ctx chain' t = .ok f := by
  refine filterOfTerm_of_named (fun name g hname => ?_) h
  obtain ⟨expression, hsaved, hnew, hg⟩ := namedFilter_ok_iff.1 hname
  exact namedFilter_ok_iff.2 ⟨expression, hsaved, fun hmem => hnew (hsub hmem),
    filterWithin_of_subset ctx _ _ _ _ (append_subset_append_right hsub) hg⟩

end chain

/-! ### Inlining -/

section inlining

variable {ctx : Context} {chain : List String} {word name expression query query' : String}
  {before es after : List Token}

/-- The filter that a list of tokens stands for within the expansion of a chain of saved
filters. -/
def filterOfTokens (ctx : Context) (chain : List String) (query : String) (ts : List Token) :
    Except Error Filter := do
  let formula ← formulaOf (termFilter ctx chain) query ts
  return formula.flatten

theorem filterOfTokens_ok_iff {ts : List Token} {f : Filter} :
    filterOfTokens ctx chain query ts = .ok f ↔
      ∃ formula, formulaOf (termFilter ctx chain) query ts = .ok formula ∧ formula.flatten = f := by
  refine bind_ok_iff.trans (exists_congr fun formula => and_congr_right fun _ => ?_)
  exact ⟨fun h => by cases h; rfl, fun h => h ▸ rfl⟩

/-- A query that is not blank stands for the filter of its tokens. -/
theorem filterWithin_of_tokens {text : String} {ts : List Token} (hblank : trim text ≠ "")
    (hts : tokens (trim text) = .ok ts) :
    filterWithin ctx chain text = filterOfTokens ctx chain (trim text) ts := by
  rw [filterWithin, filterWith_of_tokens hblank hts]
  rfl

/-- An expression that was read by itself is a phrase, and its filter is what the phrase says of
the filters that its terms have outside of it. -/
theorem derives_of_expression {a : Filter} (hblank : trim expression ≠ "")
    (ha : filterWithin ctx (chain ++ [name]) expression = .ok a) :
    ∃ es e g, tokens (trim expression) = .ok es ∧ Derives .disjunction es e ∧
      (∀ t, .term t ∈ es → termFilter ctx chain t = .ok (g t)) ∧ (e.formula g).flatten = a := by
  obtain ⟨es, formula, hes, hformula, hflat⟩ := filterWith_ok hblank (by rwa [filterWithin] at ha)
  obtain ⟨e, g, he, hg, rfl⟩ := exists_tree_of_formulaOf hformula
  refine ⟨es, e, g, hes, he, fun t ht => ?_, hflat⟩
  exact termFilter_of_subset (List.subset_append_left _ _) (hg t ht)

/-- The reading past a reference is like the one past its expression in parentheses. -/
theorem alike_of_reference {r s : Reading Filter} {e : Tree} {g : Term → Filter}
    (hs : r.beforeOperand = .ok s) (hword : reference? word = some name) (hname : name ≠ "")
    (hsaved : ctx.expression? name = some expression) (hnew : name ∉ chain)
    (ha : filterWithin ctx (chain ++ [name]) expression = .ok (e.formula g).flatten)
    (he : Derives .disjunction es e)
    (hleaf : ∀ t, .term t ∈ es → termFilter ctx chain t = .ok (g t)) :
    ∃ p p', r.steps (termFilter ctx chain) [.term (.word word)] = .ok p ∧
      r.steps (termFilter ctx chain) (.openGroup :: es ++ [.closeGroup]) = .ok p' ∧
      p.Alike p' := by
  have hterm : termFilter ctx chain (.word word) = .ok (e.formula g).flatten :=
    (filterOfTerm_reference hword hname).trans
      (namedFilter_ok_iff.2 ⟨expression, hsaved, hnew, ha⟩)
  have hstep : r.step (termFilter ctx chain) (.term (.word word)) =
      .ok ⟨.atom (e.formula g).flatten :: s.complete, s.waiting, false⟩ := by
    rw [Reading.step, hs, hterm]
    rfl
  refine ⟨_, _, Reading.steps_cons_of_ok hstep [], Reading.steps_group hs he hleaf, ?_⟩
  exact ⟨.cons (.atom_flatten _) (List.forall₂_refl _), rfl, rfl⟩

theorem formulaOf_of_alike {leaf : Term → Except Error Filter} {us vs : List Token}
    {p p' : Reading Filter} {f : Formula Filter} (hus : Reading.start.steps leaf us = .ok p)
    (hvs : Reading.start.steps leaf vs = .ok p') (halike : p.Alike p')
    (hf : formulaOf leaf query (us ++ after) = .ok f) :
    ∃ f', formulaOf leaf query' (vs ++ after) = .ok f' ∧ Agree f f' := by
  obtain ⟨r, hr, hneeds, hclose⟩ := formulaOf_ok_iff.1 hf
  rw [Reading.steps_append_of_ok hus] at hr
  obtain ⟨r', hr', halike⟩ := halike.steps hr
  obtain ⟨done, hdone, hagree⟩ := Reading.closeAll_alike halike.complete hclose
  obtain _ | ⟨hfirst, _ | _⟩ := hagree
  refine ⟨_, formulaOf_ok_iff.2 ⟨r', ?_, ?_, ?_⟩, hfirst⟩
  · rw [Reading.steps_append_of_ok hvs, hr']
  · rw [← halike.needsOperand, hneeds]
  · rw [← halike.waiting, hdone]

/-- Where an operand begins there was room for one. -/
theorem exists_beforeOperand {α : Type} {leaf : Term → Except Error α} {rest : List Token}
    {t : Token} {f : Formula α} (h : formulaOf leaf query (before ++ t :: rest) = .ok f)
    (ht : t.startsOperand = true) :
    ∃ r s, Reading.start.steps leaf before = .ok r ∧ r.beforeOperand = .ok s := by
  obtain ⟨_, hr, -⟩ := formulaOf_ok_iff.1 h
  rw [Reading.steps_append] at hr
  obtain ⟨r, hbefore, hr⟩ := bind_ok_iff.1 hr
  rw [Reading.steps_cons] at hr
  obtain ⟨_, hstep, -⟩ := bind_ok_iff.1 hr
  cases t with
  | term _ | not | openGroup =>
      obtain ⟨s, hs, -⟩ := bind_ok_iff.1 hstep
      exact ⟨r, s, hbefore, hs⟩
  | closeGroup | and | or => cases ht

/-- A reference that was accepted has a filter, which is that of its expression. -/
theorem expression_of_reference {a : Filter} (hword : reference? word = some name)
    (hsaved : ctx.expression? name = some expression)
    (ha : termFilter ctx chain (.word word) = .ok a) :
    name ≠ "" ∧ name ∉ chain ∧ filterWithin ctx (chain ++ [name]) expression = .ok a := by
  have hname : name ≠ "" := by
    rintro rfl
    rw [termFilter, filterOfTerm, hword] at ha
    simp at ha
  rw [termFilter, filterOfTerm_reference hword hname] at ha
  obtain ⟨_, hsaved', hnew, ha⟩ := namedFilter_ok_iff.1 ha
  cases hsaved.symm.trans hsaved'
  exact ⟨hname, hnew, ha⟩

/--
**A reference means its expression in parentheses.**  Where a list of tokens refers to a saved
filter whose expression is not blank, and the list is accepted, so is the list with the tokens of
the expression in parentheses for the reference, and the two filters accept the same.  If that
list is accepted, and the expression by itself within the expansion of its name, then the
reference is accepted as well.  A reference has a name: an `@` alone has none, and is refused.  So
is a name that is being expanded already.
-/
theorem reference_means_parentheses (ctx : Context) (chain : List String)
    (before after : List Token) (word name expression query query' : String)
    (hword : reference? word = some name) (hsaved : ctx.expression? name = some expression)
    (hblank : trim expression ≠ "") :
    (∀ f, filterOfTokens ctx chain query (before ++ .term (.word word) :: after) = .ok f →
      ∃ es f', tokens (trim expression) = .ok es ∧
        filterOfTokens ctx chain query' (before ++ .openGroup :: es ++ .closeGroup :: after) =
          .ok f' ∧
        ∀ score n, f.accepts score n = f'.accepts score n) ∧
    ∀ es f' a, tokens (trim expression) = .ok es →
      filterOfTokens ctx chain query' (before ++ .openGroup :: es ++ .closeGroup :: after) =
        .ok f' →
      filterWithin ctx (chain ++ [name]) expression = .ok a → name ≠ "" → name ∉ chain →
      ∃ f, filterOfTokens ctx chain query (before ++ .term (.word word) :: after) = .ok f ∧
        ∀ score n, f.accepts score n = f'.accepts score n := by
  have hleft : before ++ .term (.word word) :: after =
      (before ++ [.term (.word word)]) ++ after := by simp
  have hright (es : List Token) : before ++ .openGroup :: es ++ .closeGroup :: after =
      (before ++ (.openGroup :: es ++ [.closeGroup])) ++ after := by simp
  refine ⟨fun f hf => ?_, fun es f' a hes hf' ha hname hnew => ?_⟩
  · obtain ⟨formula, hformula, rfl⟩ := filterOfTokens_ok_iff.1 hf
    obtain ⟨r, s, hbefore, hs⟩ := exists_beforeOperand hformula rfl
    obtain ⟨a, ha⟩ := leaf_ok_of_formulaOf hformula (t := .word word) (by simp)
    obtain ⟨hname, hnew, ha⟩ := expression_of_reference hword hsaved ha
    obtain ⟨es, e, g, hes, he, hleaf, rfl⟩ := derives_of_expression hblank ha
    obtain ⟨p, p', hp, hp', halike⟩ := alike_of_reference hs hword hname hsaved hnew ha he hleaf
    rw [hleft] at hformula
    obtain ⟨formula', hformula', hagree⟩ := formulaOf_of_alike
      ((Reading.steps_append_of_ok hbefore _).trans hp)
      ((Reading.steps_append_of_ok hbefore _).trans hp') halike hformula
    refine ⟨es, _, hes, filterOfTokens_ok_iff.2 ⟨formula', ?_, rfl⟩, fun score n => hagree _⟩
    rw [hright, hformula']
  · obtain ⟨formula', hformula', rfl⟩ := filterOfTokens_ok_iff.1 hf'
    obtain ⟨es', e, g, hes', he, hleaf, rfl⟩ := derives_of_expression hblank ha
    cases hes.symm.trans hes'
    rw [List.append_assoc, List.cons_append] at hformula'
    obtain ⟨r, s, hbefore, hs⟩ := exists_beforeOperand hformula' rfl
    obtain ⟨p, p', hp, hp', halike⟩ := alike_of_reference hs hword hname hsaved hnew ha he hleaf
    rw [← List.cons_append, ← List.append_assoc, hright] at hformula'
    obtain ⟨formula, hformula, hagree⟩ := formulaOf_of_alike
      ((Reading.steps_append_of_ok hbefore _).trans hp')
      ((Reading.steps_append_of_ok hbefore _).trans hp) halike.symm hformula'
    refine ⟨_, filterOfTokens_ok_iff.2 ⟨formula, ?_, rfl⟩, fun score n => (hagree _).symm⟩
    rw [hleft, hformula]

/-- The reference stands between other operands and under a `NOT`, and its expression joins a
condition and a further reference by `OR`. -/
theorem reference_means_parentheses_negated :
    let ctx : Context := ⟨⟨0, 0⟩, some (.ofList
      [("mine", "is:unread OR @rusty"), ("rusty", "y")])⟩
    let before : List Token := [.term (.word "x"), .not]
    let after : List Token := [.term (.word "z")]
    let es : List Token := [.term (.field "is" "unread"), .or, .term (.word "@rusty")]
    reference? "@mine" = some "mine" ∧
    ctx.expression? "mine" = some "is:unread OR @rusty" ∧
    trim "is:unread OR @rusty" ≠ "" ∧ tokens (trim "is:unread OR @rusty") = .ok es ∧
    (∃ a, filterWithin ctx ["mine"] "is:unread OR @rusty" = .ok a) ∧
    ∃ f f', filterOfTokens ctx [] "x NOT @mine z" (before ++ .term (.word "@mine") :: after) =
        .ok f ∧
      filterOfTokens ctx [] "x NOT @mine z" (before ++ .openGroup :: es ++ .closeGroup :: after) =
        .ok f' ∧
      ∀ score n, f.accepts score n = f'.accepts score n := by
  intro ctx before after es
  have hword : reference? "@mine" = some "mine" := by rfl
  have hsaved : ctx.expression? "mine" = some "is:unread OR @rusty" := by rfl
  have hblank : trim "is:unread OR @rusty" ≠ "" := by decide +kernel
  have hes : tokens (trim "is:unread OR @rusty") = .ok es := by rfl
  have hquery : trim "x NOT @mine z" = "x NOT @mine z" := by decide +kernel
  have hts : tokens (trim "x NOT @mine z") =
      .ok (before ++ .term (.word "@mine") :: after) := by rfl
  obtain ⟨f, hf⟩ : ∃ f, filterOfTokens ctx [] "x NOT @mine z"
      (before ++ .term (.word "@mine") :: after) = .ok f := by
    rw [← hquery, ← filterWithin_of_tokens (by decide +kernel) hts,
      ← filterUpTo_eq (.deadline 0 0) (show ctx.unexpanded [] < 3 by decide +kernel)]
    exact exists_of_isOk (by decide +kernel)
  obtain ⟨a, ha⟩ : ∃ a, filterWithin ctx ["mine"] "is:unread OR @rusty" = .ok a := by
    rw [← filterUpTo_eq (.deadline 0 0) (show ctx.unexpanded ["mine"] < 3 by decide +kernel)]
    exact exists_of_isOk (by decide +kernel)
  obtain ⟨hinline, hback⟩ := reference_means_parentheses ctx [] before after "@mine" "mine"
    "is:unread OR @rusty" "x NOT @mine z" "x NOT @mine z" hword hsaved hblank
  obtain ⟨es', f', hes', hf', -⟩ := hinline f hf
  cases hes.symm.trans hes'
  obtain ⟨f, hf, hsame⟩ := hback es f' a hes hf' ha (by decide) (by simp)
  exact ⟨hword, hsaved, hblank, hes, ⟨a, ha⟩, f, f', hf, hf', hsame⟩

end inlining

end Triage.Query
