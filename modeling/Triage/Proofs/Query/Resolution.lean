/-
Saved filters are resolved exactly when their graph allows it.

Reading a query goes down the graph of references with the chain of names it came by.  A name may
not stand on that chain already, so it never gets deeper than there are names.  Where the texts
themselves can be read, nothing but the graph decides: a query is accepted if every name it comes
across is saved and none comes across itself, and a cycle that is reported is one that was walked.
-/
import Triage.Proofs.Query.Reference

namespace Triage.Query

open Context

variable {ctx : Context} {chain path : List String} {text name : String} {f : Filter}

/-! ### Depth -/

/-- Reads a query with at most so many texts inside one another. -/
def filterUpTo (ctx : Context) (giveUp : Error) :
    Nat → List String → String → Except Error Filter
  | 0, _, _ => .error giveUp
  | budget + 1, chain, text =>
    filterWith ctx.now
      (fun name => do
        let expression ← ctx.expand chain name
        filterUpTo ctx giveUp budget (chain ++ [name]) expression.1)
      text

/-- A budget beyond the number of names that are left is never used up. -/
theorem filterUpTo_eq (giveUp : Error) {budget : Nat} (h : ctx.unexpanded chain < budget)
    (text : String) : filterUpTo ctx giveUp budget chain text = filterWithin ctx chain text := by
  induction budget generalizing chain text with
  | zero => exact absurd h (Nat.not_lt_zero _)
  | succ budget ih =>
      rw [filterUpTo, filterWithin]
      congr 1
      funext name
      cases he : ctx.expand chain name with
      | error fault => rfl
      | ok e => exact ih (Nat.lt_of_lt_of_le e.2 (Nat.lt_succ_iff.1 h)) e.1

/-! ### Accepted queries -/

/-- A name that an accepted query comes across was expanded, and not within itself. -/
theorem expanded_of_reaches (hf : filterWithin ctx chain text = .ok f)
    (h : ctx.Reaches text name) : ∃ above expression g, chain ⊆ above ∧ name ∉ above ∧
      ctx.expression? name = some expression ∧
      filterWithin ctx (above ++ [name]) expression = .ok g := by
  have hnamed {text name : String} {chain : List String} {f : Filter}
      (hf : filterWithin ctx chain text = .ok f) (href : References text name) :
      ∃ g, namedFilter ctx chain name = .ok g :=
    (named_ok_of_references (by rwa [filterWithin] at hf) href).2
  induction h generalizing chain f with
  | here href =>
      obtain ⟨g, hg⟩ := hnamed hf href
      obtain ⟨expression, hsaved, hnew, hg⟩ := namedFilter_ok_iff.1 hg
      exact ⟨chain, expression, g, List.Subset.refl _, hnew, hsaved, hg⟩
  | @through text first expression name href hfirst _ ih =>
      obtain ⟨g, hg⟩ := hnamed hf href
      obtain ⟨expression', hsaved, -, hg⟩ := namedFilter_ok_iff.1 hg
      rw [hfirst] at hsaved
      cases hsaved
      obtain ⟨above, e, g', hsub, hrest⟩ := ih hg
      exact ⟨above, e, g', List.Subset.trans (List.subset_append_left _ _) hsub, hrest⟩

/-- Every name that is come across is saved, and none comes across itself. -/
def Resolvable (ctx : Context) (text : String) : Prop :=
  ∀ name, ctx.Reaches text name →
    (∃ expression, ctx.expression? name = some expression) ∧ ¬ctx.Recurs name

theorem resolvable_of_ok (hf : filterWithin ctx chain text = .ok f) : Resolvable ctx text := by
  intro name h
  obtain ⟨above, expression, g, -, -, hsaved, hg⟩ := expanded_of_reaches hf h
  refine ⟨⟨expression, hsaved⟩, fun ⟨expression', hsaved', hreach⟩ => ?_⟩
  rw [hsaved] at hsaved'
  cases hsaved'
  -- within its own expansion the name stands on the chain
  obtain ⟨above', -, -, hsub, hnew, -⟩ := expanded_of_reaches hg hreach
  exact hnew (hsub (List.mem_append_right _ (List.mem_singleton_self _)))

theorem Resolvable.through {expression : String} (h : Resolvable ctx text)
    (href : References text name) (hsaved : ctx.expression? name = some expression) :
    Resolvable ctx expression :=
  fun other hreach => h other (.through href hsaved hreach)

/-! ### Texts that can be read -/

/-- A text can be read once its names, none of them empty, are read as words. -/
def Readable (ctx : Context) (text : String) : Prop :=
  ∃ f, filterWith ctx.now (fun name => .ok (.atom (.ofText name))) text = .ok f

/-- A text and all the expressions that are come across from it can be read. -/
def ReadableThroughout (ctx : Context) (text : String) : Prop :=
  Readable ctx text ∧ ∀ name expression, ctx.Reaches text name →
    ctx.expression? name = some expression → Readable ctx expression

theorem ReadableThroughout.through {expression : String} (h : ReadableThroughout ctx text)
    (href : References text name) (hsaved : ctx.expression? name = some expression) :
    ReadableThroughout ctx expression :=
  ⟨h.2 name expression (.here href) hsaved,
    fun other e hreach => h.2 other e (.through href hsaved hreach)⟩

/-- A readable query is accepted, or it fails as one of its names does. -/
theorem filterWithin_of_readable (h : Readable ctx text) (chain : List String) :
    (∃ f, filterWithin ctx chain text = .ok f) ∨
      ∃ name fault, References text name ∧ namedFilter ctx chain name = .error fault ∧
        filterWithin ctx chain text = .error fault := by
  obtain ⟨f, hf⟩ := h
  rw [filterWithin]
  exact filterWith_of_readable hf

/-- A resolvable query is accepted if none of the names it comes across is being expanded. -/
theorem ok_of_resolvable (ctx : Context) (chain : List String) :
    ∀ text, ReadableThroughout ctx text → Resolvable ctx text →
      (∀ name ∈ chain, ¬ctx.Reaches text name) → ∃ f, filterWithin ctx chain text = .ok f := by
  induction chain using ctx.expansion_induction with
  | step chain ih =>
      intro text hread hresolvable hapart
      rcases filterWithin_of_readable hread.1 chain with hok | ⟨name, fault, href, hfault, -⟩
      · exact hok
      · obtain ⟨⟨expression, hsaved⟩, hrecurs⟩ := hresolvable name (.here href)
        have hnew : name ∉ chain := fun hmem => hapart name hmem (.here href)
        obtain ⟨e, he, rfl⟩ := expand_ok_iff.2 ⟨hsaved, hnew⟩
        obtain ⟨f, hf⟩ := ih name e he e.1 (hread.through href hsaved)
          (hresolvable.through href hsaved) fun other hmem hreach => by
            rcases List.mem_append.1 hmem with hmem | hmem
            · exact hapart other hmem (.through href hsaved hreach)
            · rw [List.mem_singleton.1 hmem] at hreach
              exact hrecurs ⟨e.1, hsaved, hreach⟩
        rw [namedFilter_ok_iff.2 ⟨e.1, hsaved, hnew, hf⟩] at hfault
        cases hfault

/-- Where all texts can be read, only a reference fails: it leads back, or to a name that is not
saved. -/
theorem broken_of_error (ctx : Context) (chain : List String) :
    ∀ text fault, ReadableThroughout ctx text → filterWithin ctx chain text = .error fault →
      ∃ broken, fault = .reference broken ∧ ((∃ name walked, broken = .cycle name walked) ∨
        ∃ name, ctx.Reaches text name ∧ ctx.expression? name = none) := by
  induction chain using ctx.expansion_induction with
  | step chain ih =>
      intro text fault hread h
      rcases filterWithin_of_readable hread.1 chain with ⟨f, hf⟩ | ⟨name, _, href, hfault, hsame⟩
      · rw [hf] at h
        cases h
      · cases hsame.symm.trans h
        rcases namedFilter_error hfault with hexpand | ⟨e, he, hsaved, hinner⟩
        · rcases expand_error hexpand with ⟨-, rfl⟩ | ⟨hnone, rfl | rfl⟩
          · exact ⟨_, rfl, .inl ⟨_, _, rfl⟩⟩
          all_goals exact ⟨_, rfl, .inr ⟨name, .here href, hnone⟩⟩
        · obtain ⟨broken, hbroken, hcause⟩ :=
            ih name e he e.1 fault (hread.through href hsaved) hinner
          exact ⟨broken, hbroken, hcause.imp_right fun ⟨other, hreach, hnone⟩ =>
            ⟨other, .through href hsaved hreach, hnone⟩⟩

/-- Where all texts can be read, only a reference fails. -/
theorem reference_of_error (ctx : Context) (chain : List String) (text : String) (fault : Error)
    (hread : ReadableThroughout ctx text) (h : filterWithin ctx chain text = .error fault) :
    ∃ broken, fault = .reference broken :=
  (broken_of_error ctx chain text fault hread h).imp fun _ hbroken => hbroken.1

/-! ### Cycles -/

/-- A cycle that is reported was walked: the chain goes on from the one before by a path. -/
theorem leads_of_cycle (ctx : Context) (chain : List String) :
    ∀ text name walked, filterWithin ctx chain text = .error (.reference (.cycle name walked)) →
      ∃ path, walked = chain ++ path ∧ ctx.Leads text path name ∧ name ∈ walked := by
  induction chain using ctx.expansion_induction with
  | step chain ih =>
      intro text name walked h
      have hterm : ∃ first, References text first ∧
          namedFilter ctx chain first = .error (.reference (.cycle name walked)) := by
        rw [filterWithin] at h
        rcases filterWith_error h with ⟨ts, t, hts, ht, hleaf⟩ | ⟨_, _, h⟩
        · rcases filterOfTerm_error hleaf with ⟨word, first, rfl, hword, hfirst⟩ | ⟨_, _, h⟩
          · exact ⟨first, ⟨ts, word, hts, ht, hword⟩, hfirst⟩
          · cases h
        · cases h
      obtain ⟨first, href, hfirst⟩ := hterm
      rcases namedFilter_error hfirst with hexpand | ⟨e, he, hsaved, hinner⟩
      · rcases expand_error hexpand with ⟨hmem, h⟩ | ⟨-, h | h⟩
        · cases h
          exact ⟨[], (List.append_nil _).symm, href, hmem⟩
        · cases h
        · cases h
      · obtain ⟨path, rfl, hleads, hmem⟩ := ih first e he e.1 name walked hinner
        exact ⟨first :: path, by simp, ⟨href, e.1, hsaved, hleads⟩, hmem⟩

/-! ### Resolution -/

/--
**Saved filters resolve exactly when their graph allows it.**  No query is read more deeply than
there are saved filters.  An accepted query comes across saved names only, and across none that
comes across itself.  Where all the texts that are come across can be read, such a query is
accepted, and any other one is refused for a reference.  A cycle that is reported follows the
references from the query on, to a name that stands on the way and does come across itself.
-/
theorem filterOf_resolves (ctx : Context) (text : String) :
    (∀ giveUp budget, ctx.names.length < budget →
      filterUpTo ctx giveUp budget [] text = filterOf ctx text) ∧
    (∀ f, filterOf ctx text = .ok f → Resolvable ctx text) ∧
    (ReadableThroughout ctx text →
      ((∃ f, filterOf ctx text = .ok f) ↔ Resolvable ctx text) ∧
      (¬Resolvable ctx text → ∃ broken, filterOf ctx text = .error (.reference broken))) ∧
    ∀ name walked, filterOf ctx text = .error (.reference (.cycle name walked)) →
      ctx.Leads text walked name ∧ name ∈ walked ∧ ctx.Recurs name := by
  refine ⟨?_, fun f hf => resolvable_of_ok hf, fun hread => ⟨⟨?_, ?_⟩, ?_⟩, ?_⟩
  · intro giveUp budget hbudget
    exact filterUpTo_eq giveUp (Nat.lt_of_le_of_lt List.countP_le_length hbudget) text
  · rintro ⟨f, hf⟩
    exact resolvable_of_ok hf
  · intro hresolvable
    exact ok_of_resolvable ctx [] text hread hresolvable (by simp)
  · intro hbroken
    cases h : filterOf ctx text with
    | ok f => exact absurd (resolvable_of_ok h) hbroken
    | error fault =>
        obtain ⟨broken, rfl⟩ := reference_of_error ctx [] text fault hread h
        exact ⟨broken, rfl⟩
  · intro name walked h
    obtain ⟨path, rfl, hleads, hmem⟩ := leads_of_cycle ctx [] text name walked h
    exact ⟨hleads, hmem, (hleads.reaches_of_mem hmem).2⟩

/-- One name is used on two branches of the first query, and one comes across itself in the
second. -/
theorem filterOf_resolves_branches_and_cycle :
    let ctx : Context := ⟨⟨0, 0⟩, some (.ofList
      [("a", "x OR @b"), ("b", "@a"), ("mine", "is:unread AND @rusty"), ("rusty", "y")])⟩
    (ReadableThroughout ctx "@mine OR @rusty" ∧ Resolvable ctx "@mine OR @rusty" ∧
      ∃ f, filterOf ctx "@mine OR @rusty" = .ok f ∧
        filterUpTo ctx (.deadline 0 0) 5 [] "@mine OR @rusty" = .ok f) ∧
    filterOf ctx "@a" = .error (.reference (.cycle "a" ["a", "b"])) ∧
    ctx.Leads "@a" ["a", "b"] "a" ∧ ctx.Recurs "a" := by
  intro ctx
  obtain ⟨hdepth, -, hexact, -⟩ := filterOf_resolves ctx "@mine OR @rusty"
  obtain ⟨-, -, -, hcycle⟩ := filterOf_resolves ctx "@a"
  have hreaches : ∀ name, ctx.Reaches "@mine OR @rusty" name → name ∈ ["mine", "rusty"] :=
    fun name hreach => hreach.mem_of_closed (by decide +kernel) (by decide +kernel)
  have hread : ReadableThroughout ctx "@mine OR @rusty" := by
    refine ⟨⟨_, rfl⟩, fun name expression hreach hsaved => ?_⟩
    have hmem := hreaches name hreach
    simp only [List.mem_cons, List.not_mem_nil, or_false] at hmem
    rcases hmem with rfl | rfl <;> cases hsaved <;> exact ⟨_, rfl⟩
  have hresolvable : Resolvable ctx "@mine OR @rusty" := by
    intro name hreach
    have hmem := hreaches name hreach
    simp only [List.mem_cons, List.not_mem_nil, or_false] at hmem
    rcases hmem with rfl | rfl
    · refine ⟨⟨_, rfl⟩, fun ⟨expression, hsaved, hback⟩ => ?_⟩
      cases hsaved
      have hmem : "mine" ∈ ["rusty"] :=
        hback.mem_of_closed (by decide +kernel) (by decide +kernel)
      exact absurd hmem (by decide)
    · refine ⟨⟨_, rfl⟩, fun ⟨expression, hsaved, hback⟩ => ?_⟩
      cases hsaved
      have hmem : "rusty" ∈ [] := hback.mem_of_closed (by decide +kernel) (by decide +kernel)
      exact absurd hmem (by decide)
  obtain ⟨f, hf⟩ := (hexact hread).1.2 hresolvable
  have hreported : filterOf ctx "@a" = .error (.reference (.cycle "a" ["a", "b"])) := by
    rw [← (filterOf_resolves ctx "@a").1 (.deadline 0 0) 5 (by decide +kernel)]
    have hbroken : (match filterUpTo ctx (.deadline 0 0) 5 [] "@a" with
        | .error (.reference broken) => some broken
        | _ => none) = some (.cycle "a" ["a", "b"]) := by decide +kernel
    split at hbroken
    · rename_i broken h
      rw [h, Option.some.inj hbroken]
    · cases hbroken
  obtain ⟨hleads, -, hrecurs⟩ := hcycle "a" ["a", "b"] hreported
  exact ⟨⟨hread, hresolvable, f, hf,
    (hdepth (.deadline 0 0) 5 (by decide +kernel)).trans hf⟩, hreported, hleads, hrecurs⟩

end Triage.Query
