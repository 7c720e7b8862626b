/-
Which conditions a filter is made of.

A filter has a condition for each term of its query and for each term of the saved filters that the
query comes across, and no others.  What holds of the conditions of all these terms holds of every
condition of the filter, however terms are joined.
-/
import Triage.Proofs.Query.Reference

namespace Triage

/-! ### Conditions of a formula -/

namespace Formula

variable {α β : Type} {P Q : α → Prop}

mutual

/-- Every condition of the formula has a property. -/
def Every (P : α → Prop) : Formula α → Prop
  | atom a => P a
  | all members => EveryMember P members
  | any members => EveryMember P members
  | not member => member.Every P

/-- Every condition of several formulas has a property. -/
def EveryMember (P : α → Prop) : List (Formula α) → Prop
  | [] => True
  | member :: rest => member.Every P ∧ EveryMember P rest

end

theorem everyMember_append {l l' : List (Formula α)} :
    EveryMember P (l ++ l') ↔ EveryMember P l ∧ EveryMember P l' := by
  induction l with
  | nil => simp [EveryMember]
  | cons member rest ih => simp [EveryMember, ih, and_assoc]

theorem everyMember_conjuncts (f : Formula α) : EveryMember P f.conjuncts ↔ f.Every P := by
  cases f <;> simp [conjuncts, EveryMember, Every]

theorem everyMember_disjuncts (f : Formula α) : EveryMember P f.disjuncts ↔ f.Every P := by
  cases f <;> simp [disjuncts, EveryMember, Every]

@[simp] theorem every_both (a b : Formula α) : (a.both b).Every P ↔ a.Every P ∧ b.Every P := by
  rw [both, Every, everyMember_append, everyMember_conjuncts, everyMember_conjuncts]

@[simp] theorem every_either (a b : Formula α) : (a.either b).Every P ↔ a.Every P ∧ b.Every P := by
  rw [either, Every, everyMember_append, everyMember_disjuncts, everyMember_disjuncts]

mutual

theorem every_bind (P : β → Prop) (g : α → Formula β) :
    (f : Formula α) → ((f.bind g).Every P ↔ f.Every fun a => (g a).Every P)
  | atom a => by rw [bind, Every]
  | all members => by rw [bind, Every, Every, everyMember_bindEach P g members]
  | any members => by rw [bind, Every, Every, everyMember_bindEach P g members]
  | not member => by rw [bind, Every, Every, every_bind P g member]

theorem everyMember_bindEach (P : β → Prop) (g : α → Formula β) :
    (l : List (Formula α)) →
      (EveryMember P (bindEach g l) ↔ EveryMember (fun a => (g a).Every P) l)
  | [] => Iff.rfl
  | member :: rest => by
    rw [bindEach, EveryMember, EveryMember, every_bind P g member, everyMember_bindEach P g rest]

end

theorem every_flatten (f : Formula (Formula α)) :
    f.flatten.Every P ↔ f.Every fun a => a.Every P :=
  every_bind P id f

mutual

theorem Every.imp (h : ∀ a, P a → Q a) : (f : Formula α) → f.Every P → f.Every Q
  | atom a => h a
  | all members => EveryMember.imp h members
  | any members => EveryMember.imp h members
  | not member => Every.imp h member

theorem EveryMember.imp (h : ∀ a, P a → Q a) :
    (l : List (Formula α)) → EveryMember P l → EveryMember Q l
  | [] => id
  | member :: rest => And.imp (Every.imp h member) (EveryMember.imp h rest)

end

mutual

theorem every_of_forall (h : ∀ a, P a) : (f : Formula α) → f.Every P
  | atom a => h a
  | all members => everyMember_of_forall h members
  | any members => everyMember_of_forall h members
  | not member => every_of_forall h member

theorem everyMember_of_forall (h : ∀ a, P a) : (l : List (Formula α)) → EveryMember P l
  | [] => trivial
  | member :: rest => ⟨every_of_forall h member, everyMember_of_forall h rest⟩

end

mutual

/-- Only the conditions of a formula decide whether it holds. -/
theorem holds_congr {test test' : α → Bool} :
    (f : Formula α) → f.Every (fun a => test a = test' a) → f.holds test = f.holds test'
  | atom _, h => h
  | all members, h => by rw [holds, holds, holdsAll_congr members h]
  | any members, h => by rw [holds, holds, holdsAny_congr members h]
  | not member, h => by rw [holds, holds, holds_congr member h]

theorem holdsAll_congr {test test' : α → Bool} :
    (l : List (Formula α)) → EveryMember (fun a => test a = test' a) l →
      holdsAll test l = holdsAll test' l
  | [], _ => rfl
  | member :: rest, h => by
    rw [holdsAll, holdsAll, holds_congr member h.1, holdsAll_congr rest h.2]

theorem holdsAny_congr {test test' : α → Bool} :
    (l : List (Formula α)) → EveryMember (fun a => test a = test' a) l →
      holdsAny test l = holdsAny test' l
  | [], _ => rfl
  | member :: rest, h => by
    rw [holdsAny, holdsAny, holds_congr member h.1, holdsAny_congr rest h.2]

end

end Formula

namespace Query

open Text

/-! ### Terms -/

theorem every_formula {α : Type} {P : α → Prop} {leaf : Term → α} {φ : Phrase}
    {ts : List Token} {e : Tree} (h : Derives φ ts e) (hleaf : ∀ t, .term t ∈ ts → P (leaf t)) :
    (e.formula leaf).Every P := by
  induction h with
  | term t => exact hleaf t List.mem_cons_self
  | group _ ih => exact ih fun t ht => hleaf t (by simp [ht])
  | primary _ ih | negation _ ih | conjunction _ ih => exact ih hleaf
  | not _ ih =>
      rw [Tree.formula, Formula.Every]
      exact ih fun t ht => hleaf t (List.mem_cons_of_mem _ ht)
  | and _ _ ihl ihr =>
      rw [Tree.formula, Formula.every_both]
      exact ⟨ihl fun t ht => hleaf t (by simp [ht]), ihr fun t ht => hleaf t (by simp [ht])⟩
  | implicitAnd _ _ ihl ihr =>
      rw [Tree.formula, Formula.every_both]
      exact ⟨ihl fun t ht => hleaf t (by simp [ht]), ihr fun t ht => hleaf t (by simp [ht])⟩
  | or _ _ ihl ihr =>
      rw [Tree.formula, Formula.every_either]
      exact ⟨ihl fun t ht => hleaf t (by simp [ht]), ihr fun t ht => hleaf t (by simp [ht])⟩

theorem every_of_formulaOf {α : Type} [Inhabited α] {P : α → Prop}
    {leaf : Term → Except Error α} {query : String} {ts : List Token} {f : Formula α}
    (h : formulaOf leaf query ts = .ok f)
    (hleaf : ∀ t a, .term t ∈ ts → leaf t = .ok a → P a) : f.Every P := by
  obtain ⟨e, g, he, hg, rfl⟩ := exists_tree_of_formulaOf h
  exact every_formula he fun t ht => hleaf t _ ht (hg t ht)

/-- What a key with a value may stand for. -/
inductive Denotes (now : Calendar.Instant) (key value : String) : Predicate → Prop
  | unread (state : Bool) (hkey : Key.ofText key = .status) : Denotes now key value (.unread state)
  | repository {glob : Glob} (hkey : Key.ofText key = .repository)
      (h : Glob.ofText value = .ok glob) : Denotes now key value (.repository glob)
  | organization {glob : Glob} (hkey : Key.ofText key = .organization)
      (h : Glob.ofText value = .ok glob) : Denotes now key value (.organization glob)
  | type (hkey : Key.ofText key = .type) : Denotes now key value (.ofType value)
  | reason (hkey : Key.ofText key = .reason) : Denotes now key value (.ofReason value)
  | updated {w : Window} (hkey : Key.ofText key = .updated) (h : window now value = .ok w) :
      Denotes now key value (.updated w)
  | score {range : ScoreRange} (hkey : Key.ofText key = .score)
      (h : scoreRange? value = some range) : Denotes now key value (.score range)
  | field {name : String} {pattern : Pattern} (hkey : Key.ofText key = .field name)
      (h : Pattern.read value = .ok pattern) :
      Denotes now key value (.field (asciiLower name) pattern)

theorem denotes_of_fieldPredicate {now : Calendar.Instant} {key value : String} {p : Predicate}
    (h : fieldPredicate now key value = .ok p) : Denotes now key value p := by
  unfold fieldPredicate at h
  split at h
  · cases h
  · cases hkey : Key.ofText key with
    | status =>
        simp only [hkey] at h
        split at h
        · cases h
          exact .unread true hkey
        · split at h
          · cases h
            exact .unread false hkey
          · cases h
    | repository =>
        simp only [hkey, Predicate.ofRepository] at h
        split at h
        · rename_i glob hglob
          cases h
          exact .repository hkey hglob
        · cases h
    | organization =>
        simp only [hkey, Predicate.ofOrganization] at h
        split at h
        · rename_i glob hglob
          cases h
          exact .organization hkey hglob
        · cases h
    | type =>
        simp only [hkey] at h
        cases h
        exact .type hkey
    | reason =>
        simp only [hkey] at h
        cases h
        exact .reason hkey
    | updated =>
        simp only [hkey] at h
        split at h
        · rename_i w hw
          cases h
          exact .updated hkey hw
        · cases h
    | score =>
        simp only [hkey] at h
        split at h
        · rename_i range hrange
          cases h
          exact .score hkey hrange
        · cases h
    | field name =>
        simp only [hkey, Predicate.ofField] at h
        split at h
        · rename_i pattern hpattern
          cases h
          exact .field hkey hpattern
        · cases h

/-- A text has a term. -/
def HasTerm (text : String) (t : Term) : Prop :=
  ∃ ts, tokens (trim text) = .ok ts ∧ .term t ∈ ts

/-- A text or an expression that is come across from it has a term. -/
inductive Context.Asks (ctx : Context) : String → Term → Prop
  | here {text : String} {t : Term} (h : HasTerm text t) : Asks ctx text t
  | through {text name expression : String} {t : Term} (h : References text name)
      (hname : ctx.expression? name = some expression) (hrest : Asks ctx expression t) :
      Asks ctx text t

/-- The conditions of a filter are those of the terms that its query asks for. -/
theorem every_of_filterWithin {P : Predicate → Prop} (ctx : Context) (chain : List String)
    (hanything : P .anything) (hword : ∀ word, P (.ofText word)) :
    ∀ text f, filterWithin ctx chain text = .ok f →
      (∀ key value p, ctx.Asks text (.field key value) → Denotes ctx.now key value p → P p) →
      f.Every P := by
  induction chain using ctx.expansion_induction with
  | step chain ih =>
      intro text f h hfield
      rw [filterWithin] at h
      by_cases hblank : trim text = ""
      · rw [filterWith, if_pos hblank] at h
        cases h
        exact hanything
      · obtain ⟨ts, formula, hts, hformula, rfl⟩ := filterWith_ok hblank h
        rw [Formula.every_flatten]
        refine every_of_formulaOf hformula fun t g ht hg => ?_
        cases t with
        | field key value =>
            rw [filterOfTerm, ← bind_pure_comp] at hg
            obtain ⟨a, ha, hg⟩ := bind_ok_iff.1 hg
            cases hg
            exact hfield key value a (.here ⟨ts, hts, ht⟩) (denotes_of_fieldPredicate ha)
        | word word =>
            cases hname : reference? word with
            | none =>
                rw [filterOfTerm, hname] at hg
                simp only at hg
                split at hg
                · cases hg
                · cases hg
                  exact hword word
            | some name =>
                rw [filterOfTerm, hname] at hg
                simp only at hg
                split at hg
                · cases hg
                · -- a name adds the conditions of its expression, one name further down the chain
                  obtain ⟨expression, hsaved, hnew, hg⟩ := namedFilter_ok_iff.1 hg
                  obtain ⟨e, he, rfl⟩ := Context.expand_ok_iff.2 ⟨hsaved, hnew⟩
                  exact ih name e he e.1 g hg fun key value a hasks =>
                    hfield key value a (.through ⟨ts, word, hts, ht, hname⟩ hsaved hasks)

end Query

end Triage
