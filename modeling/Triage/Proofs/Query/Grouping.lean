/-
Parentheses that change nothing.

Parentheses around a single operand, or around a run of operands within their own chain, tell the
reader to join first what it would have joined later.  The formula is the same one, since joining
is associative.  `Meet` says this of two readings, one past the run and one past the run in
parentheses: what waits on their stacks may differ, but once the operators that have to be applied
next are applied, the stacks are equal.
-/
import Mathlib.Logic.Relation
import Triage.Proofs.Query.Balance
import Triage.Proofs.Query.NormalForm
import Triage.Proofs.Query.Parentheses

namespace Triage.Query

/-- Whether the token that follows a phrase makes the reader join the whole of it. -/
def Phrase.EndsAt (φ : Phrase) (t : Token) : Prop := t = .or ∨ t = .closeGroup ∨ 2 ≤ φ.rank

namespace Reading

variable {α : Type} {leaf : Term → Except Error α} {g : Term → α}
  {complete : List (Formula α)} {waiting : List Waiting} {f l : Formula α} {φ : Phrase}
  {r r' s : Reading α} {op : Operator} {t : Token} {ts us vs after : List Token} {e : Tree}
  {query query' : String}

/-! ### What follows a phrase -/

theorem Settles.needsOperand (h : Settles φ f complete waiting r) : r.needsOperand = false := by
  obtain ⟨_, _, rfl, -⟩ := h
  rfl

theorem Settles.pushBinary_eq (h : Settles φ f complete waiting r) (hrank : op.rank ≤ φ.rank) :
    r.pushBinary op = Reading.pushBinary op ⟨f :: complete, waiting, false⟩ := by
  obtain ⟨above, ops, rfl, hops, hunwind⟩ := h
  rw [Reading.pushBinary, Reading.pushBinary,
    reduceWhile_unwind (fun o ho => Nat.le_trans hrank (hops o ho)) hunwind]

theorem Settles.closeAll_eq (h : Settles φ f complete waiting r) :
    closeAll r.complete r.waiting = closeAll (f :: complete) waiting := by
  obtain ⟨above, ops, rfl, -, hunwind⟩ := h
  exact closeAll_unwind hunwind

/-- Where a phrase ends it is read on as if it had been joined already. -/
theorem Settles.step_eq (h : Settles φ f complete waiting r) (ht : φ.EndsAt t) :
    step leaf r t = step leaf ⟨f :: complete, waiting, false⟩ t := by
  have hneeds := h.needsOperand
  have hand (hrank : 2 ≤ φ.rank) :
      step leaf r .and = step leaf ⟨f :: complete, waiting, false⟩ .and := by
    rw [step, step, if_neg (by simp [hneeds]), if_neg (by simp)]
    exact h.pushBinary_eq hrank
  cases t with
  | or =>
      rw [step, step, if_neg (by simp [hneeds]), if_neg (by simp)]
      exact h.pushBinary_eq (by cases φ <;> decide)
  | closeGroup =>
      obtain ⟨above, ops, rfl, -, hunwind⟩ := h
      rw [step, step, if_neg (by simp), if_neg (by simp), closeGroup_unwind hunwind]
  | and => exact hand (by simpa [Phrase.EndsAt] using ht)
  | term _ | not | openGroup =>
      have hrank : 2 ≤ φ.rank := by simpa [Phrase.EndsAt] using ht
      rw [step_of_startsOperand hneeds rfl, hand hrank, ← step_of_startsOperand rfl rfl]

/-- Two readings are past the same phrase. -/
def Meet (φ : Phrase) (r r' : Reading α) : Prop :=
  ∃ f complete waiting, Settles φ f complete waiting r ∧ Settles φ f complete waiting r'

/-- Readings that meet come to the same formula. -/
theorem Meet.formulaOf_ok_iff (h : Meet φ r r') (hr : start.steps leaf us = .ok r)
    (hr' : start.steps leaf vs = .ok r') (hafter : ∀ t ∈ after.head?, φ.EndsAt t) :
    formulaOf leaf query (us ++ after) = .ok f ↔
      formulaOf leaf query' (vs ++ after) = .ok f := by
  obtain ⟨settled, complete, waiting, hsettles, hsettles'⟩ := h
  rw [Query.formulaOf_ok_iff, Query.formulaOf_ok_iff, steps_append_of_ok hr,
    steps_append_of_ok hr']
  cases after with
  | nil =>
      simp only [steps_nil, Except.ok.injEq, exists_eq_left', hsettles.needsOperand,
        hsettles'.needsOperand, hsettles.closeAll_eq, hsettles'.closeAll_eq]
  | cons t rest =>
      have ht : φ.EndsAt t := hafter t rfl
      rw [steps_cons, steps_cons, hsettles.step_eq ht, hsettles'.step_eq ht]

/-! ### Runs within a chain

The first operand of the chain may have been read before the run.
-/

/-- A run of a conjunction joins what stands before it in the conjunction. -/
theorem steps_of_conjunction (h : Derives .conjunction ts e)
    (hfits : Phrase.conjunction.fits waiting) (hleaf : ∀ t, .term t ∈ ts → leaf t = .ok (g t)) :
    ∃ r, steps leaf ⟨l :: complete, .operator .and :: waiting, true⟩ ts = .ok r ∧
      Settles .conjunction (l.both (e.formula g)) complete waiting r := by
  generalize hφ : Phrase.conjunction = φ at h
  induction h with
  | term | group | primary | not | conjunction | or => cases hφ
  | negation h =>
      obtain ⟨r, hr, hsettles⟩ := steps_of_derives h (l :: complete) (.operator .and :: waiting)
        (Phrase.fits_negation _) hleaf
      exact ⟨r, hr, hsettles.reduce (by decide) rfl⟩
  | @and ts us a b _ hb ihl _ =>
      obtain ⟨r₁, hr₁, hleft⟩ := ihl (fun t ht => hleaf t (by simp [ht])) hφ
      obtain ⟨r₂, hr₂, hright⟩ := steps_of_derives hb (l.both (a.formula g) :: complete)
        (.operator .and :: waiting) (Phrase.fits_negation _) fun t ht => hleaf t (by simp [ht])
      refine ⟨r₂, ?_, ?_⟩
      · rw [steps_append_of_ok hr₁, steps_cons_of_ok (hleft.step_and hfits)]
        exact hr₂
      · rw [Tree.formula, ← Formula.both_assoc]
        exact hright.reduce (by decide) rfl
  | @implicitAnd ts us a b _ hb ihl _ =>
      obtain ⟨r₁, hr₁, hleft⟩ := ihl (fun t ht => hleaf t (by simp [ht])) hφ
      obtain ⟨r₂, hr₂, hright⟩ := steps_of_derives hb (l.both (a.formula g) :: complete)
        (.operator .and :: waiting) (Phrase.fits_negation _) fun t ht => hleaf t (by simp [ht])
      obtain ⟨u, rest, rfl, hu⟩ := hb.startsOperand
      refine ⟨r₂, ?_, ?_⟩
      · rw [steps_append_of_ok hr₁, steps_cons, step_of_startsOperand hleft.needsOperand hu,
          hleft.step_and hfits]
        rw [steps_cons] at hr₂
        exact hr₂
      · rw [Tree.formula, ← Formula.both_assoc]
        exact hright.reduce (by decide) rfl

/-- A run of a disjunction joins what stands before it in the disjunction. -/
theorem steps_of_disjunction (h : Derives .disjunction ts e)
    (hfits : Phrase.disjunction.fits waiting) (hleaf : ∀ t, .term t ∈ ts → leaf t = .ok (g t)) :
    ∃ r, steps leaf ⟨l :: complete, .operator .or :: waiting, true⟩ ts = .ok r ∧
      Settles .disjunction (l.either (e.formula g)) complete waiting r := by
  have hor : Phrase.conjunction.fits (.operator .or :: waiting) := .inl (by decide)
  generalize hφ : Phrase.disjunction = φ at h
  induction h with
  | term | group | primary | not | negation | and | implicitAnd => cases hφ
  | conjunction h =>
      obtain ⟨r, hr, hsettles⟩ := steps_of_derives h (l :: complete) (.operator .or :: waiting)
        hor hleaf
      exact ⟨r, hr, hsettles.reduce (by decide) rfl⟩
  | @or ts us a b _ hb ihl _ =>
      obtain ⟨r₁, hr₁, hleft⟩ := ihl (fun t ht => hleaf t (by simp [ht])) hφ
      obtain ⟨r₂, hr₂, hright⟩ := steps_of_derives hb (l.either (a.formula g) :: complete)
        (.operator .or :: waiting) hor fun t ht => hleaf t (by simp [ht])
      refine ⟨r₂, ?_, ?_⟩
      · rw [steps_append_of_ok hr₁, steps_cons_of_ok (hleft.step_or hfits)]
        exact hr₂
      · rw [Tree.formula, ← Formula.either_assoc]
        exact hright.reduce (by decide) rfl

/-! ### A run and the run in parentheses -/

/-- Where an operand begins, what is read is what is read after making room for it. -/
theorem steps_of_beforeOperand (hs : r.beforeOperand = .ok s) (hneeds : s.needsOperand = true)
    (ht : t.startsOperand = true) (rest : List Token) :
    steps leaf r (t :: rest) = steps leaf s (t :: rest) := by
  have hroom : s.beforeOperand = .ok s := by rw [beforeOperand, if_pos hneeds]
  have hstep : step leaf r t = step leaf s t := by
    cases t with
    | term _ | not | openGroup => rw [step, step, hs, hroom]
    | and | or | closeGroup => cases ht
  rw [steps_cons, steps_cons, hstep]

/-- A run that is read from where an operand begins, and the same run in parentheses. -/
theorem exists_meet (hs : r.beforeOperand = .ok s) (hneeds : s.needsOperand = true)
    (h : Derives φ ts e) (hleaf : ∀ t, .term t ∈ ts → leaf t = .ok (g t))
    (hrun : ∃ p, steps leaf s ts = .ok p ∧ Settles φ f complete waiting p)
    (hgroup : Settles φ f complete waiting ⟨e.formula g :: s.complete, s.waiting, false⟩) :
    ∃ p p', steps leaf r ts = .ok p ∧ steps leaf r (.openGroup :: ts ++ [.closeGroup]) = .ok p' ∧
      Meet φ p p' := by
  obtain ⟨p, hp, hsettles⟩ := hrun
  have hdisjunction : Derives .disjunction ts e := h.lift (by cases φ <;> decide)
  refine ⟨p, _, ?_, steps_group hs hdisjunction hleaf, f, complete, waiting, hsettles, hgroup⟩
  obtain ⟨t, rest, rfl, ht⟩ := h.startsOperand
  rw [steps_of_beforeOperand hs hneeds ht, hp]

theorem exists_meet_of_fits (hs : r.beforeOperand = .ok s) (hneeds : s.needsOperand = true)
    (h : Derives φ ts e) (hleaf : ∀ t, .term t ∈ ts → leaf t = .ok (g t))
    (hfits : φ.fits s.waiting) :
    ∃ p p', steps leaf r ts = .ok p ∧ steps leaf r (.openGroup :: ts ++ [.closeGroup]) = .ok p' ∧
      Meet φ p p' := by
  refine exists_meet hs hneeds h hleaf ?_ (settles_top ..)
  obtain ⟨complete, waiting, needs⟩ := s
  cases hneeds
  exact steps_of_derives h complete waiting hfits hleaf

/-- Where no `NOT` stands before it, a run of a conjunction may be put in parentheses. -/
theorem exists_meet_of_conjunction (hs : r.beforeOperand = .ok s) (hneeds : s.needsOperand = true)
    (hbalanced : s.Balanced) {before : List Token} (hopen : Open before s.waiting)
    (hbefore : before.getLast? ≠ some .not) (h : Derives .conjunction ts e)
    (hleaf : ∀ t, .term t ∈ ts → leaf t = .ok (g t)) :
    ∃ p p', steps leaf r ts = .ok p ∧ steps leaf r (.openGroup :: ts ++ [.closeGroup]) = .ok p' ∧
      Meet .conjunction p p' := by
  -- the run goes on with a conjunction only if an `AND` waits for it
  have hand {waiting : List Waiting} (hwaiting : s.waiting = .operator .and :: waiting)
      (hfits : Phrase.conjunction.fits waiting) :
      ∃ p p', steps leaf r ts = .ok p ∧
        steps leaf r (.openGroup :: ts ++ [.closeGroup]) = .ok p' ∧ Meet .conjunction p p' := by
    obtain ⟨left, complete, rfl⟩ := hbalanced.exists_left hneeds (by decide) hwaiting
    refine exists_meet hs hneeds h hleaf (steps_of_conjunction h hfits hleaf) ?_
    exact (settles_top .conjunction ..).reduce (by decide) rfl
  generalize hwaiting : s.waiting = waiting at hopen
  cases hopen with
  | start => exact exists_meet_of_fits hs hneeds h hleaf (by rw [hwaiting]; trivial)
  | group => exact exists_meet_of_fits hs hneeds h hleaf (by rw [hwaiting]; trivial)
  | not => exact absurd List.getLast?_concat hbefore
  | and _ hfits | implicitAnd _ hfits => exact hand hwaiting hfits
  | or => exact exists_meet_of_fits hs hneeds h hleaf (by rw [hwaiting]; exact .inl (by decide))

/-- Where it is not part of a conjunction, a run of a disjunction may be put in parentheses. -/
theorem exists_meet_of_disjunction (hs : r.beforeOperand = .ok s) (hneeds : s.needsOperand = true)
    (hbalanced : s.Balanced) {before : List Token} (hopen : Open before s.waiting)
    (hbefore : ∀ t ∈ before.getLast?, t = .openGroup ∨ t = .or) (h : Derives .disjunction ts e)
    (hleaf : ∀ t, .term t ∈ ts → leaf t = .ok (g t)) :
    ∃ p p', steps leaf r ts = .ok p ∧ steps leaf r (.openGroup :: ts ++ [.closeGroup]) = .ok p' ∧
      Meet .disjunction p p' := by
  generalize hwaiting : s.waiting = waiting at hopen
  cases hopen with
  | start => exact exists_meet_of_fits hs hneeds h hleaf (by rw [hwaiting]; trivial)
  | group => exact exists_meet_of_fits hs hneeds h hleaf (by rw [hwaiting]; trivial)
  | not | and => exact absurd (hbefore _ List.getLast?_concat) (by decide)
  | implicitAnd _ _ hleft =>
      obtain ⟨rest, t, rfl, ht⟩ := hleft.endsOperand
      have hlast := hbefore t (by rw [← List.append_assoc]; exact List.getLast?_concat)
      rcases hlast with rfl | rfl <;> cases ht
  | or _ hfits =>
      obtain ⟨left, complete, rfl⟩ := hbalanced.exists_left hneeds (by decide) hwaiting
      refine exists_meet hs hneeds h hleaf (steps_of_disjunction h hfits hleaf) ?_
      exact (settles_top .disjunction ..).reduce (by decide) rfl

end Reading

/-! ### Lists of tokens that differ in parentheses -/

/-- The second list of tokens has parentheses that the first one does not have: around a single
operand, around a run of operands of a conjunction, or around a run of operands of a disjunction. A
run stays within its chain: its first operand is not the rest of a negation, and a run of a
disjunction does not begin or end within a conjunction. -/
inductive Groups : List Token → List Token → Prop
  | operand (before after : List Token) {ts : List Token} {e : Tree}
      (h : Derives .negation ts e) :
      Groups (before ++ ts ++ after) (before ++ (.openGroup :: ts ++ [.closeGroup]) ++ after)
  | conjunction (before after : List Token) {ts : List Token} {e : Tree}
      (h : Derives .conjunction ts e) (hbefore : before.getLast? ≠ some .not) :
      Groups (before ++ ts ++ after) (before ++ (.openGroup :: ts ++ [.closeGroup]) ++ after)
  | disjunction (before after : List Token) {ts : List Token} {e : Tree}
      (h : Derives .disjunction ts e)
      (hbefore : ∀ t ∈ before.getLast?, t = .openGroup ∨ t = .or)
      (hafter : ∀ t ∈ after.head?, t = .closeGroup ∨ t = .or) :
      Groups (before ++ ts ++ after) (before ++ (.openGroup :: ts ++ [.closeGroup]) ++ after)

section

variable {α : Type} {leaf : Term → Except Error α} {query query' : String} {us vs : List Token}
  {f : Formula α}

/-- A run in parentheses is accepted where the run is, with the same formula. -/
theorem formulaOf_group [Inhabited α] {φ : Phrase} {before ts after : List Token} {e : Tree}
    (h : Derives φ ts e) (hafter : ∀ t ∈ after.head?, φ.EndsAt t)
    (hmeet : ∀ (r s : Reading α) (g : Term → α), r.beforeOperand = .ok s →
      s.needsOperand = true → s.Balanced → Reading.Open before s.waiting →
      (∀ t, .term t ∈ ts → leaf t = .ok (g t)) →
      ∃ p p', r.steps leaf ts = .ok p ∧ r.steps leaf (.openGroup :: ts ++ [.closeGroup]) = .ok p' ∧
        Reading.Meet φ p p') :
    formulaOf leaf query (before ++ ts ++ after) = .ok f ↔
      formulaOf leaf query' (before ++ (.openGroup :: ts ++ [.closeGroup]) ++ after) = .ok f := by
  -- either way the tokens before the run were read, and its terms have a meaning
  have hsame {r s : Reading α} (hr : Reading.start.steps leaf before = .ok r)
      (hs : r.beforeOperand = .ok s) (hleaf : ∀ t, .term t ∈ ts → ∃ a, leaf t = .ok a) :
      formulaOf leaf query (before ++ ts ++ after) = .ok f ↔
        formulaOf leaf query' (before ++ (.openGroup :: ts ++ [.closeGroup]) ++ after) = .ok f := by
    obtain ⟨hbalanced, hneeds⟩ := (Reading.Balanced.start.steps hr).beforeOperand hs
    have hopen := Reading.open_of_beforeOperand
      (Reading.accounts_steps Reading.accounts_start hr) hs
    rw [List.nil_append] at hopen
    obtain ⟨p, p', hp, hp', hmeet⟩ := hmeet r s (fun t => ((leaf t).toOption).getD default) hs
      hneeds hbalanced hopen fun t ht => by
        obtain ⟨a, ha⟩ := hleaf t ht
        simp [ha, Except.toOption]
    exact hmeet.formulaOf_ok_iff ((Reading.steps_append_of_ok hr _).trans hp)
      ((Reading.steps_append_of_ok hr _).trans hp') hafter
  constructor
  · intro hf
    have hleaf (t : Term) (ht : .term t ∈ ts) : ∃ a, leaf t = .ok a :=
      leaf_ok_of_formulaOf hf (by simp [ht])
    obtain ⟨t, rest, rfl, ht⟩ := h.startsOperand
    obtain ⟨r, s, hr, hs⟩ := exists_beforeOperand (by simpa using hf) ht
    exact (hsame hr hs hleaf).1 hf
  · intro hf
    have hleaf (t : Term) (ht : .term t ∈ ts) : ∃ a, leaf t = .ok a :=
      leaf_ok_of_formulaOf hf (by simp [ht])
    obtain ⟨r, s, hr, hs⟩ := exists_beforeOperand (t := .openGroup) (by simpa using hf) rfl
    exact (hsame hr hs hleaf).2 hf

/-- Parentheses within a chain are accepted where the chain is, with the same formula. -/
theorem Groups.formulaOf_ok_iff [Inhabited α] (h : Groups us vs) :
    formulaOf leaf query us = .ok f ↔ formulaOf leaf query' vs = .ok f := by
  cases h with
  | operand before after h =>
      refine formulaOf_group h (fun t _ => .inr (.inr (by decide)))
        fun r s g hs hneeds _ _ hleaf => ?_
      exact Reading.exists_meet_of_fits hs hneeds h hleaf (Phrase.fits_negation _)
  | conjunction before after h hbefore =>
      refine formulaOf_group h (fun t _ => .inr (.inr (by decide)))
        fun r s g hs hneeds hbalanced hopen hleaf => ?_
      exact Reading.exists_meet_of_conjunction hs hneeds hbalanced hopen hbefore h hleaf
  | disjunction before after h hbefore hafter =>
      refine formulaOf_group h (fun t ht => ?_) fun r s g hs hneeds hbalanced hopen hleaf => ?_
      · rcases hafter t ht with rfl | rfl
        · exact .inr (.inl rfl)
        · exact .inl rfl
      · exact Reading.exists_meet_of_disjunction hs hneeds hbalanced hopen hbefore h hleaf

/-- So does any number of parentheses that are added or taken away, one after the other. -/
theorem formulaOf_regrouped [Inhabited α] (h : Relation.EqvGen Groups us vs) :
    formulaOf leaf query us = .ok f ↔ formulaOf leaf query' vs = .ok f := by
  induction h generalizing query query' with
  | rel us vs h => exact h.formulaOf_ok_iff
  | refl us => exact formulaOf_ok_iff.trans formulaOf_ok_iff.symm
  | symm us vs _ ih => exact ih.symm
  | trans us vs ws _ _ ih ih' =>
      have hleft : formulaOf leaf query us = .ok f ↔ formulaOf leaf query vs = .ok f := ih
      exact hleft.trans ih'

end

/--
**Filters are in a normal form that ignores grouping.**  Whatever query is read, its filter is a
formula over conditions and over filters of saved expressions, and every node of the formula that
joins has at least two members and none that is a node of its own kind.  Two lists of tokens that
differ only in parentheses around single operands, or around runs within their chains, are accepted
alike and stand for one filter, with one text and one bucket.
-/
theorem normal_form_ignores_grouping (ctx : Context) (chain : List String) :
    (∀ text f, filterWithin ctx chain text = .ok f →
      ∃ formula, ctx.Builds chain text formula ∧ formula.flatten = f ∧ formula.IsNormal ∧
        formula.Every (ctx.Leaf chain text)) ∧
    ∀ (us vs : List Token) (query query' : String), Relation.EqvGen Groups us vs →
      (∀ f, filterOfTokens ctx chain query us = .ok f ↔
        filterOfTokens ctx chain query' vs = .ok f) ∧
      ∀ f f', filterOfTokens ctx chain query us = .ok f →
        filterOfTokens ctx chain query' vs = .ok f' →
          f'.describe = f.describe ∧ f'.key? = f.key? := by
  refine ⟨fun text f hf => ?_, fun us vs query query' h => ?_⟩
  · obtain ⟨formula, hbuilds, hflat⟩ := filterWithin_ok_iff_builds.1 hf
    exact ⟨formula, hbuilds, hflat, hbuilds.isNormal⟩
  · have hsame (f : Filter) : filterOfTokens ctx chain query us = .ok f ↔
        filterOfTokens ctx chain query' vs = .ok f := by
      rw [filterOfTokens_ok_iff, filterOfTokens_ok_iff]
      exact exists_congr fun formula => and_congr_left fun _ => formulaOf_regrouped h
    refine ⟨hsame, fun f f' hf hf' => ?_⟩
    cases ((hsame f).1 hf).symm.trans hf'
    exact ⟨rfl, rfl⟩

/-- A conjunction that begins with a saved conjunction keeps it as a member of its own; and a
disjunction takes parentheses around the whole, around a negation, around what is negated and around
the end of a conjunction. -/
theorem normal_form_ignores_grouping_negated :
    let ctx : Context := ⟨⟨0, 0⟩, some (.ofList [("mine", "x y")])⟩
    let word (text : String) : Token := .term (.word text)
    let text (word : String) : Filter := .atom (.ofText word)
    let us : List Token := [.not, word "a", word "b", word "c", .or, word "d"]
    let vs : List Token := [.openGroup, .openGroup, .not, .openGroup, word "a", .closeGroup,
      .closeGroup, .openGroup, word "b", word "c", .closeGroup, .or, word "d", .closeGroup]
    (∃ f, filterWithin ctx [] "@mine z" = .ok f ∧
      ∃ formula, ctx.Builds [] "@mine z" formula ∧ formula.flatten = f ∧ formula.IsNormal) ∧
    Relation.EqvGen Groups us vs ∧
    ∃ f f', filterOfTokens ctx [] "" us = .ok f ∧ filterOfTokens ctx [] "" vs = .ok f' ∧
      f = .any [.all [.not (text "a"), text "b", text "c"], text "d"] ∧
      f'.describe = f.describe ∧ f'.key? = f.key? := by
  intro ctx word text us vs
  obtain ⟨hnormal, hgrouping⟩ := normal_form_ignores_grouping ctx []
  obtain ⟨f, hf⟩ : ∃ f, filterWithin ctx [] "@mine z" = .ok f := by
    rw [← filterUpTo_eq (.deadline 0 0) (show ctx.unexpanded [] < 2 by decide +kernel)]
    exact exists_of_isOk (by decide +kernel)
  obtain ⟨formula, hbuilds, hflat, hform, -⟩ := hnormal "@mine z" f hf
  have hterm (t : String) : Derives .negation [word t] (.term (.word t)) := .primary (.term _)
  have hnot : Derives .negation [.not, word "a"] (.not (.term (.word "a"))) := (hterm "a").not
  have hrun : Derives .conjunction [word "b", word "c"]
      (.and (.term (.word "b")) (.term (.word "c"))) :=
    .implicitAnd (.negation (hterm "b")) (hterm "c")
  have hwhole : Derives .disjunction us _ :=
    .or (.conjunction (.implicitAnd (.implicitAnd (.negation hnot) (hterm "b")) (hterm "c")))
      (.negation (hterm "d"))
  have hgroups : Relation.EqvGen Groups us vs :=
    .trans _ _ _ (.rel _ _ (.disjunction [] [] hwhole nofun nofun)) <|
    .trans _ _ _ (.rel _ _ (.operand [.openGroup]
      [word "b", word "c", .or, word "d", .closeGroup] hnot)) <|
    .trans _ _ _ (.rel _ _ (.operand [.openGroup, .openGroup, .not]
      [.closeGroup, word "b", word "c", .or, word "d", .closeGroup] (hterm "a"))) <|
    .rel _ _ (.conjunction [.openGroup, .openGroup, .not, .openGroup, word "a", .closeGroup,
      .closeGroup] [.or, word "d", .closeGroup] hrun (by decide))
  obtain ⟨hsame, htold⟩ := hgrouping us vs "" "" hgroups
  have hus : filterOfTokens ctx [] "" us =
      .ok (.any [.all [.not (text "a"), text "b", text "c"], text "d"]) := rfl
  have hvs := (hsame _).1 hus
  exact ⟨⟨f, hf, formula, hbuilds, hflat, hform⟩, hgroups, _, _, hus, hvs, rfl, htold _ _ hus hvs⟩

end Triage.Query
