/-
The normal form of formulas that were read.

Joining two formulas takes over the members of a side that is a node of the same kind.  So the
members of a node that was made by joining are never of its own kind, and it does not matter which
of several formulas are joined first.  The formula of a query is made of the filters of its terms
by joining them and by nothing else; a term that names a saved filter keeps the nodes of that
filter to itself.
-/
import Triage.Proofs.Query.Conditions

namespace Triage

namespace Formula

variable {α : Type} {f g h m : Formula α}

/-! ### Joining several formulas -/

/-- It does not matter which of three formulas are joined first by and. -/
theorem both_assoc (f g h : Formula α) : (f.both g).both h = f.both (g.both h) :=
  congrArg Formula.all (List.append_assoc ..)

/-- It does not matter which of three formulas are joined first by or. -/
theorem either_assoc (f g h : Formula α) : (f.either g).either h = f.either (g.either h) :=
  congrArg Formula.any (List.append_assoc ..)

/-! ### Normal form -/

/-- The formula is a conjunction. -/
def IsAll (f : Formula α) : Prop := ∃ members, f = .all members

/-- The formula is a disjunction. -/
def IsAny (f : Formula α) : Prop := ∃ members, f = .any members

/-- Every node that joins has at least two members, and none of its own kind. -/
inductive IsNormal : Formula α → Prop
  | atom (a : α) : IsNormal (.atom a)
  | all {members : List (Formula α)} (htwo : 2 ≤ members.length)
      (hkind : ∀ m ∈ members, ¬m.IsAll) (hmembers : ∀ m ∈ members, IsNormal m) :
      IsNormal (.all members)
  | any {members : List (Formula α)} (htwo : 2 ≤ members.length)
      (hkind : ∀ m ∈ members, ¬m.IsAny) (hmembers : ∀ m ∈ members, IsNormal m) :
      IsNormal (.any members)
  | not {member : Formula α} (hmember : IsNormal member) : IsNormal (.not member)

namespace IsNormal

theorem conjuncts_length (hf : f.IsNormal) : 1 ≤ f.conjuncts.length := by
  cases hf with
  | all htwo => exact Nat.le_of_succ_le htwo
  | atom | any | not => exact Nat.le_refl 1

theorem disjuncts_length (hf : f.IsNormal) : 1 ≤ f.disjuncts.length := by
  cases hf with
  | any htwo => exact Nat.le_of_succ_le htwo
  | atom | all | not => exact Nat.le_refl 1

theorem of_mem_conjuncts (hf : f.IsNormal) (hm : m ∈ f.conjuncts) : ¬m.IsAll ∧ m.IsNormal := by
  cases hf with
  | all _ hkind hmembers => exact ⟨hkind m hm, hmembers m hm⟩
  | atom a =>
      cases List.mem_singleton.1 hm
      exact ⟨nofun, .atom a⟩
  | any htwo hkind hmembers =>
      cases List.mem_singleton.1 hm
      exact ⟨nofun, .any htwo hkind hmembers⟩
  | not hmember =>
      cases List.mem_singleton.1 hm
      exact ⟨nofun, .not hmember⟩

theorem of_mem_disjuncts (hf : f.IsNormal) (hm : m ∈ f.disjuncts) : ¬m.IsAny ∧ m.IsNormal := by
  cases hf with
  | any _ hkind hmembers => exact ⟨hkind m hm, hmembers m hm⟩
  | atom a =>
      cases List.mem_singleton.1 hm
      exact ⟨nofun, .atom a⟩
  | all htwo hkind hmembers =>
      cases List.mem_singleton.1 hm
      exact ⟨nofun, .all htwo hkind hmembers⟩
  | not hmember =>
      cases List.mem_singleton.1 hm
      exact ⟨nofun, .not hmember⟩

/-- Joining by and keeps the normal form. -/
theorem both (hf : f.IsNormal) (hg : g.IsNormal) : (f.both g).IsNormal := by
  have hmem (m : Formula α) (hm : m ∈ f.conjuncts ++ g.conjuncts) : ¬m.IsAll ∧ m.IsNormal :=
    (List.mem_append.1 hm).elim hf.of_mem_conjuncts hg.of_mem_conjuncts
  refine .all ?_ (fun m hm => (hmem m hm).1) fun m hm => (hmem m hm).2
  have hleft := hf.conjuncts_length
  have hright := hg.conjuncts_length
  rw [List.length_append]
  omega

/-- Joining by or keeps the normal form. -/
theorem either (hf : f.IsNormal) (hg : g.IsNormal) : (f.either g).IsNormal := by
  have hmem (m : Formula α) (hm : m ∈ f.disjuncts ++ g.disjuncts) : ¬m.IsAny ∧ m.IsNormal :=
    (List.mem_append.1 hm).elim hf.of_mem_disjuncts hg.of_mem_disjuncts
  refine .any ?_ (fun m hm => (hmem m hm).1) fun m hm => (hmem m hm).2
  have hleft := hf.disjuncts_length
  have hright := hg.disjuncts_length
  rw [List.length_append]
  omega

end IsNormal

end Formula

namespace Query

open Text

/-- The formula of a parse tree is in normal form. -/
theorem Tree.isNormal_formula {α : Type} (leaf : Term → α) (e : Tree) :
    (e.formula leaf).IsNormal := by
  induction e with
  | term t => exact .atom (leaf t)
  | not member ih => exact ih.not
  | and left right ihl ihr => exact ihl.both ihr
  | or left right ihl ihr => exact ihl.either ihr

variable {ctx : Context} {chain : List String} {text : String} {ts : List Token}

/-- A filter that a query takes over as a whole: a single condition, or the filter of a saved
expression that the query refers to. -/
inductive Context.Leaf (ctx : Context) (chain : List String) (text : String) : Filter → Prop
  | condition (p : Predicate) : Leaf ctx chain text (.atom p)
  | saved {name expression : String} {f : Filter} (href : References text name)
      (hname : ctx.expression? name = some expression)
      (hf : filterWithin ctx (chain ++ [name]) expression = .ok f) : Leaf ctx chain text f

/-- The formula that is made of the tokens of a query.  A blank query has none and accepts
everything. -/
def Context.Builds (ctx : Context) (chain : List String) (text : String)
    (formula : Formula Filter) : Prop :=
  if trim text = "" then formula = .atom (.atom .anything)
  else ∃ ts, tokens (trim text) = .ok ts ∧
    formulaOf (termFilter ctx chain) (trim text) ts = .ok formula

/-- The filter of a query is the formula that is made of its tokens. -/
theorem filterWithin_ok_iff_builds {f : Filter} : filterWithin ctx chain text = .ok f ↔
    ∃ formula, ctx.Builds chain text formula ∧ formula.flatten = f := by
  unfold Context.Builds
  by_cases hblank : trim text = ""
  · rw [filterWithin, filterWith, if_pos hblank]
    simp only [hblank, if_true]
    exact ⟨fun h => ⟨_, rfl, Except.ok.inj h⟩, by rintro ⟨_, rfl, rfl⟩; rfl⟩
  · simp only [if_neg hblank]
    constructor
    · intro h
      rw [filterWithin] at h
      obtain ⟨ts, formula, hts, hformula, hflat⟩ := filterWith_ok hblank h
      exact ⟨formula, ⟨ts, hts, hformula⟩, hflat⟩
    · rintro ⟨formula, ⟨ts, hts, hformula⟩, hflat⟩
      exact (filterWithin_ok_iff hblank hts).2 ⟨formula, hformula, hflat⟩

theorem leaf_of_termFilter {t : Term} {f : Filter} (hts : tokens (trim text) = .ok ts)
    (ht : .term t ∈ ts) (h : termFilter ctx chain t = .ok f) : ctx.Leaf chain text f := by
  cases t with
  | field key value =>
      rw [termFilter, filterOfTerm, ← bind_pure_comp] at h
      obtain ⟨p, -, hf⟩ := bind_ok_iff.1 h
      cases hf
      exact .condition p
  | word word =>
      rw [termFilter, filterOfTerm] at h
      split at h
      · rename_i name hword
        split at h
        · cases h
        · obtain ⟨expression, hname, -, hf⟩ := namedFilter_ok_iff.1 h
          exact .saved ⟨ts, word, hts, ht, hword⟩ hname hf
      · split at h
        · cases h
        · cases h
          exact .condition _

/-- **What is built is in normal form**, over conditions and saved filters. -/
theorem Context.Builds.isNormal {formula : Formula Filter} (h : ctx.Builds chain text formula) :
    formula.IsNormal ∧ formula.Every (ctx.Leaf chain text) := by
  unfold Context.Builds at h
  split at h
  · subst h
    exact ⟨.atom _, .condition _⟩
  · obtain ⟨ts, hts, hformula⟩ := h
    obtain ⟨e, g, he, hg, rfl⟩ := exists_tree_of_formulaOf hformula
    refine ⟨e.isNormal_formula g, every_formula he fun t ht => ?_⟩
    exact leaf_of_termFilter hts ht (hg t ht)

end Query

end Triage
