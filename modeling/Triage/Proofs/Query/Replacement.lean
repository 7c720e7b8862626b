/-
What a query means once one saved filter was added or replaced.

The graph of references changes at one name only.  A text then comes across what it came across
before, and, where it came across that name, what the new expression comes across.  So saving a
filter leaves no reference without an expression; but it can close a cycle, and does so exactly if
the expression comes across the name it is saved under.
-/
import Triage.Proofs.Query.Later
import Triage.Proofs.Query.Resolution

namespace Triage.Query

open Context

variable {ctx ctx' : Context} {text name expression : String} {f : Filter}

/-! ### Nothing missing -/

/-- The text and all that it comes across can be read, and every name that it comes across is
saved.  Only a cycle can be wrong with it. -/
structure Whole (ctx : Context) (text : String) : Prop where
  readable : ReadableThroughout ctx text
  saved : ∀ name, ctx.Reaches text name → ∃ expression, ctx.expression? name = some expression

theorem Readable.of_now_eq (h : Readable ctx text) (hnow : ctx'.now = ctx.now) :
    Readable ctx' text := by
  rw [Readable, hnow]
  exact h

theorem readable_of_ok {chain : List String} (hf : filterWithin ctx chain text = .ok f) :
    Readable ctx text := by
  rw [filterWithin] at hf
  rcases @filterWith_of_readable _ _ _ (fun name => .ok (.atom (.ofText name))) _ hf with
    hread | ⟨_, _, _, hfault, _⟩
  · exact hread
  · cases hfault

theorem whole_of_ok (hf : filterOf ctx text = .ok f) : Whole ctx text := by
  refine ⟨⟨readable_of_ok hf, fun name expression hreach hsaved => ?_⟩,
    fun name hreach => (resolvable_of_ok hf name hreach).1⟩
  obtain ⟨_, expression', g, -, -, hsaved', hg⟩ := expanded_of_reaches hf hreach
  rw [hsaved] at hsaved'
  cases hsaved'
  exact readable_of_ok hg

theorem Context.expression?_of_saved_eq (hsaved : ctx'.saved = ctx.saved) (name : String) :
    ctx'.expression? name = ctx.expression? name := by
  rw [expression?, expression?, hsaved]

theorem Context.Reaches.of_saved_eq (h : ctx.Reaches text name) (hsaved : ctx'.saved = ctx.saved) :
    ctx'.Reaches text name := by
  induction h with
  | here href => exact .here href
  | through href hfirst _ ih =>
      exact .through href ((expression?_of_saved_eq hsaved _).trans hfirst) ih

/-- What can be read can be read later. -/
theorem Readable.later (h : Readable ctx text) (hclock : ctx.now.Forward ctx'.now) :
    Readable ctx' text := by
  obtain ⟨f, hf⟩ := h
  exact filterWith_of_terms hf fun _ _ ht => filterOfTerm_later hclock (fun _ g hg => ⟨g, hg⟩) ht

/-- Nothing goes missing as time goes on. -/
theorem Whole.later (h : Whole ctx text) (hclock : ctx.now.Forward ctx'.now)
    (hsaved : ctx'.saved = ctx.saved) : Whole ctx' text := by
  have hsame := expression?_of_saved_eq hsaved
  refine ⟨⟨h.readable.1.later hclock, fun other saved hreach hother => ?_⟩, fun other hreach => ?_⟩
  · rw [hsame] at hother
    exact (h.readable.2 other saved (hreach.of_saved_eq hsaved.symm) hother).later hclock
  · rw [hsame]
    exact h.saved other (hreach.of_saved_eq hsaved.symm)

theorem Whole.ok_iff (h : Whole ctx text) :
    (∃ f, filterOf ctx text = .ok f) ↔ ∀ name, ctx.Reaches text name → ¬ctx.Recurs name :=
  ⟨fun ⟨_, hf⟩ name hreach => (resolvable_of_ok hf name hreach).2,
    fun hrecurs => ok_of_resolvable ctx [] text h.readable
      (fun name hreach => ⟨h.saved name hreach, hrecurs name hreach⟩) (by simp)⟩

theorem Whole.ok_or_cycle (h : Whole ctx text) : (∃ f, filterOf ctx text = .ok f) ∨
    ∃ name walked, filterOf ctx text = .error (.reference (.cycle name walked)) := by
  cases hf : filterOf ctx text with
  | ok f => exact .inl ⟨f, rfl⟩
  | error fault =>
      obtain ⟨broken, rfl, ⟨name, walked, rfl⟩ | ⟨name, hreach, hnone⟩⟩ :=
        broken_of_error ctx [] text fault h.readable hf
      · exact .inr ⟨name, walked, rfl⟩
      · obtain ⟨expression, hsaved⟩ := h.saved name hreach
        rw [hnone] at hsaved
        cases hsaved

/-! ### One name with another expression -/

namespace Context

theorem Reaches.trans {first other : String} (h : ctx.Reaches text first)
    (hfirst : ctx.expression? first = some expression) (hrest : ctx.Reaches expression other) :
    ctx.Reaches text other := by
  induction h with
  | here href => exact .through href hfirst hrest
  | through href hsaved _ ih => exact .through href hsaved (ih hfirst)

/-- An expression is saved under a name, and everything else is as before. -/
structure Saves (ctx ctx' : Context) (name expression : String) : Prop where
  now : ctx'.now = ctx.now
  saved : ctx'.expression? name = some expression
  kept : ∀ other, other ≠ name → ctx'.expression? other = ctx.expression? other

/-- What is come across afterwards was come across before, or the new expression does. -/
theorem Saves.reaches (h : ctx.Saves ctx' name expression) {other : String}
    (hreach : ctx'.Reaches text other) :
    ctx.Reaches text other ∨ (ctx.Reaches text name ∧ ctx.Reaches expression other) := by
  induction hreach with
  | here href => exact .inl (.here href)
  | @through text first saved other href hfirst _ ih =>
      by_cases hname : first = name
      · subst hname
        rw [h.saved] at hfirst
        cases hfirst
        exact .inr ⟨.here href, ih.elim id And.right⟩
      · rw [h.kept first hname] at hfirst
        exact ih.imp (.through href hfirst) (And.imp_left (.through href hfirst))

/-- Whether the name itself is come across does not change. -/
theorem Saves.reaches_name (h : ctx.Saves ctx' name expression) :
    ctx'.Reaches text name ↔ ctx.Reaches text name := by
  refine ⟨fun hreach => (h.reaches hreach).elim id And.left, fun hreach => ?_⟩
  generalize hother : name = other at hreach
  induction hreach with
  | here href => exact .here href
  | @through text first saved other href hfirst _ ih =>
      subst hother
      by_cases hname : first = name
      · exact .here (hname ▸ href)
      · exact .through href ((h.kept first hname).trans hfirst) (ih rfl)

theorem Saves.exists_expression (h : ctx.Saves ctx' name expression) {other saved : String}
    (hother : ctx.expression? other = some saved) : ∃ saved', ctx'.expression? other = some saved' := by
  by_cases hname : other = name
  · exact ⟨expression, hname ▸ h.saved⟩
  · exact ⟨saved, (h.kept other hname).trans hother⟩

end Context

/-- Saving a filter that can be read leaves nothing missing. -/
theorem Whole.save (htext : Whole ctx text) (hexpression : Whole ctx expression)
    (h : ctx.Saves ctx' name expression) : Whole ctx' text := by
  refine ⟨⟨htext.readable.1.of_now_eq h.now, fun other saved hreach hother => ?_⟩,
    fun other hreach => ?_⟩
  · by_cases hname : other = name
    · subst hname
      rw [h.saved] at hother
      cases hother
      exact hexpression.readable.1.of_now_eq h.now
    · rw [h.kept other hname] at hother
      rcases h.reaches hreach with hreach | ⟨-, hreach⟩
      · exact (htext.readable.2 other saved hreach hother).of_now_eq h.now
      · exact (hexpression.readable.2 other saved hreach hother).of_now_eq h.now
  · rcases h.reaches hreach with hreach | ⟨-, hreach⟩
    · exact (htext.saved other hreach).elim fun _ => h.exists_expression
    · exact (hexpression.saved other hreach).elim fun _ => h.exists_expression

/-- **Saving breaks exactly the queries that come across a new cycle.** -/
theorem ok_iff_of_saves {g : Filter} (h : ctx.Saves ctx' name expression)
    (hf : filterOf ctx text = .ok f) (hg : filterOf ctx expression = .ok g) :
    (∃ f', filterOf ctx' text = .ok f') ↔
      ¬(ctx.Reaches text name ∧ ctx.Reaches expression name) := by
  rw [((whole_of_ok hf).save (whole_of_ok hg) h).ok_iff]
  constructor
  · rintro hrecurs ⟨htext, hself⟩
    exact hrecurs name (h.reaches_name.2 htext) ⟨expression, h.saved, h.reaches_name.2 hself⟩
  · rintro hapart other hreach ⟨saved, hother, hback⟩
    by_cases hname : other = name
    · subst hname
      rw [h.saved] at hother
      cases hother
      exact hapart ⟨h.reaches_name.1 hreach, h.reaches_name.1 hback⟩
    · rw [h.kept other hname] at hother
      rcases h.reaches hback with hback | ⟨hsaved, hback⟩
      -- a cycle apart from the name was there before
      · have hrecurs : ctx.Recurs other := ⟨saved, hother, hback⟩
        rcases h.reaches hreach with hreach | ⟨-, hreach⟩
        · exact (resolvable_of_ok hf other hreach).2 hrecurs
        · exact (resolvable_of_ok hg other hreach).2 hrecurs
      -- the new expression comes across a name that leads back to its own
      · refine hapart ⟨?_, hback.trans hother hsaved⟩
        rcases h.reaches hreach with hreach | ⟨htext, -⟩
        · exact hreach.trans hother hsaved
        · exact htext

/-! ### The name by itself -/

/-- A query that is one name and nothing else. -/
structure IsReference (text name : String) : Prop where
  references : ∀ other, References text other ↔ other = name
  readable : ∀ ctx, Readable ctx text

theorem IsReference.reaches (htext : IsReference text name) (h : ctx.expression? name = some expression)
    {other : String} (hreach : ctx.Reaches text other) :
    other = name ∨ ctx.Reaches expression other := by
  cases hreach with
  | here href => exact .inl ((htext.references _).1 href)
  | through href hfirst hrest =>
      rw [(htext.references _).1 href, h] at hfirst
      cases hfirst
      exact .inr hrest

theorem IsReference.whole (htext : IsReference text name)
    (h : ctx.expression? name = some expression) (hexpression : Whole ctx expression) :
    Whole ctx text := by
  refine ⟨⟨htext.readable ctx, fun other saved hreach hother => ?_⟩, fun other hreach => ?_⟩
  · rcases htext.reaches h hreach with rfl | hreach
    · rw [h] at hother
      cases hother
      exact hexpression.readable.1
    · exact hexpression.readable.2 other saved hreach hother
  · rcases htext.reaches h hreach with rfl | hreach
    · exact ⟨expression, h⟩
    · exact hexpression.saved other hreach

/-- The name that was saved can be used exactly if its expression does not come across it. -/
theorem IsReference.ok_iff_of_saves (htext : IsReference text name)
    (h : ctx.Saves ctx' name expression) (hf : filterOf ctx expression = .ok f) :
    (∃ f', filterOf ctx' text = .ok f') ↔ ¬ctx.Reaches expression name := by
  have hwhole : Whole ctx' expression := (whole_of_ok hf).save (whole_of_ok hf) h
  rw [(htext.whole h.saved hwhole).ok_iff]
  constructor
  · intro hrecurs hself
    exact hrecurs name (.here ((htext.references name).2 rfl))
      ⟨expression, h.saved, h.reaches_name.2 hself⟩
  · intro hapart other hreach
    rcases htext.reaches h.saved hreach with rfl | hreach
    · rintro ⟨saved, hother, hback⟩
      rw [h.saved] at hother
      cases hother
      exact hapart (h.reaches_name.1 hback)
    · exact hwhole.ok_iff.1 ((Query.ok_iff_of_saves h hf hf).2 fun hself => hapart hself.1) other
        hreach

end Triage.Query
