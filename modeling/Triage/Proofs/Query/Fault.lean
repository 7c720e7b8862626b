/-
What can go wrong when an expression is read.

A reading fails either where one of its terms stands for nothing, with the fault of that term, or
because its operators and parentheses do not fit, which is a fault of the query itself.  The
second does not happen to an expression of the grammar: there the first term that stands for
nothing decides.  `Refuses` lists the ways in which a key with a value can stand for nothing.
-/
import Triage.Proofs.Query.Expression

namespace Triage

/-- A fault that lies with the reader: its stacks do not hold what it needs. -/
def QueryFault.isInternal : QueryFault → Bool
  | missingOperand | emptyExpression | danglingOperands => true
  | _ => false

/-- An error that tells of a fault of the reader. -/
def Error.isInternal : Error → Bool
  | query _ cause => cause.isInternal
  | _ => false

end Triage

namespace Triage.Query

open Triage.Text

/-- A run that can only fail with a fault of the query itself. -/
def FailsInQuery {α : Type} (run : Except Error α) : Prop :=
  ∀ fault, run = .error fault → ∃ fragment cause, fault = .query fragment cause

namespace FailsInQuery

variable {α β : Type}

theorem ok (a : α) : FailsInQuery (.ok a) := fun _ h => nomatch h

theorem query (fragment : String) (cause : QueryFault) :
    FailsInQuery (.error (.query fragment cause) : Except Error α) :=
  fun _ h => by
    cases h
    exact ⟨fragment, cause, rfl⟩

theorem bind {run : Except Error α} {next : α → Except Error β} (hrun : FailsInQuery run)
    (hnext : ∀ a, run = .ok a → FailsInQuery (next a)) : FailsInQuery (run >>= next) := by
  intro fault h
  rcases bind_error_iff.1 h with h | ⟨a, ha, h⟩
  · exact hrun fault h
  · exact hnext a ha fault h

end FailsInQuery

/-! ### Operators and parentheses -/

namespace Reading

variable {α : Type} {leaf : Term → Except Error α}

theorem failsInQuery_reduce (op : Operator) (complete : List (Formula α)) :
    FailsInQuery (reduce op complete) := by
  unfold reduce
  split
  · exact .ok _
  · exact .ok _
  · exact .ok _
  · exact .query _ _

theorem failsInQuery_reduceWhile (op : Operator) (complete : List (Formula α))
    (waiting : List Waiting) : FailsInQuery (reduceWhile op complete waiting) := by
  induction waiting generalizing complete with
  | nil => exact .ok _
  | cons top rest ih =>
      cases top with
      | group => exact .ok _
      | operator top =>
          rw [reduceWhile]
          split
          · exact .ok _
          · exact (failsInQuery_reduce top complete).bind fun next _ => ih next

theorem failsInQuery_closeGroup (complete : List (Formula α)) (waiting : List Waiting) :
    FailsInQuery (closeGroup complete waiting) := by
  induction waiting generalizing complete with
  | nil => exact .query _ _
  | cons top rest ih =>
      cases top with
      | group => exact .ok _
      | operator op => exact (failsInQuery_reduce op complete).bind fun next _ => ih next

theorem failsInQuery_closeAll (complete : List (Formula α)) (waiting : List Waiting) :
    FailsInQuery (closeAll complete waiting) := by
  induction waiting generalizing complete with
  | nil => exact .ok _
  | cons top rest ih =>
      cases top with
      | group => exact .query _ _
      | operator op => exact (failsInQuery_reduce op complete).bind fun next _ => ih next

theorem failsInQuery_pushBinary (op : Operator) (r : Reading α) :
    FailsInQuery (r.pushBinary op) :=
  (failsInQuery_reduceWhile op _ _).bind fun _ _ => .ok _

theorem failsInQuery_beforeOperand (r : Reading α) : FailsInQuery r.beforeOperand := by
  rw [beforeOperand]
  split
  · exact .ok _
  · exact failsInQuery_pushBinary _ r

theorem failsInQuery_finish (query : String) (r : Reading α) :
    FailsInQuery (r.finish query) := by
  rw [finish]
  split
  · exact .query _ _
  · refine (failsInQuery_closeAll _ _).bind fun complete _ => ?_
    split
    · exact .ok _
    · exact .query _ _
    · exact .query _ _

/-- Only a term can fail a step with anything but a fault of the query. -/
theorem step_error {r : Reading α} {t : Token} {fault : Error}
    (h : step leaf r t = .error fault) :
    (∃ term, t = .term term ∧ leaf term = .error fault) ∨
      ∃ fragment cause, fault = .query fragment cause := by
  cases t with
  | term term =>
      rcases bind_error_iff.1 h with h | ⟨r₁, -, h⟩
      · exact .inr (failsInQuery_beforeOperand r fault h)
      · rcases bind_error_iff.1 h with h | ⟨_, -, h⟩
        · exact .inl ⟨term, rfl, h⟩
        · cases h
  | not | openGroup =>
      exact .inr ((failsInQuery_beforeOperand r).bind (fun _ _ => .ok _) fault h)
  | closeGroup =>
      rw [step] at h
      split at h
      · exact .inr (FailsInQuery.query _ _ fault h)
      · exact .inr ((failsInQuery_closeGroup _ _).bind (fun _ _ => .ok _) fault h)
  | and | or =>
      rw [step] at h
      split at h
      · exact .inr (FailsInQuery.query _ _ fault h)
      · exact .inr (failsInQuery_pushBinary _ r fault h)

theorem steps_error {r : Reading α} {ts : List Token} {fault : Error}
    (h : steps leaf r ts = .error fault) :
    (∃ term, Token.term term ∈ ts ∧ leaf term = .error fault) ∨
      ∃ fragment cause, fault = .query fragment cause := by
  induction ts generalizing r with
  | nil => cases h
  | cons t rest ih =>
      rcases bind_error_iff.1 (steps_cons r t rest ▸ h) with h | ⟨r', -, h⟩
      · rcases step_error h with ⟨term, rfl, hterm⟩ | hquery
        · exact .inl ⟨term, List.mem_cons_self, hterm⟩
        · exact .inr hquery
      · exact (ih h).imp_left fun ⟨term, hmem, hterm⟩ =>
          ⟨term, List.mem_cons_of_mem _ hmem, hterm⟩

/-- What was read had a meaning term by term. -/
theorem leaf_ok_of_steps {r r' : Reading α} {ts : List Token} (h : steps leaf r ts = .ok r')
    {term : Term} (hterm : .term term ∈ ts) : ∃ a, leaf term = .ok a := by
  induction ts generalizing r with
  | nil => cases hterm
  | cons t rest ih =>
      obtain ⟨r₁, hstep, hrest⟩ := bind_ok_iff.1 (steps_cons r t rest ▸ h)
      rcases List.mem_cons.1 hterm with rfl | hterm
      · obtain ⟨r₂, -, hstep⟩ := bind_ok_iff.1 hstep
        obtain ⟨a, ha, -⟩ := bind_ok_iff.1 hstep
        exact ⟨a, ha⟩
      · exact ih hrest hterm

theorem steps_congr {leaf' : Term → Except Error α} {r : Reading α} {ts : List Token}
    (h : ∀ term, Token.term term ∈ ts → leaf term = leaf' term) :
    steps leaf r ts = steps leaf' r ts := by
  induction ts generalizing r with
  | nil => rfl
  | cons t rest ih =>
      have hstep : step leaf r t = step leaf' r t := by
        cases t with
        | term term => rw [step, step, h term List.mem_cons_self]
        | _ => rfl
      rw [steps_cons, steps_cons, hstep]
      congr 1
      funext r'
      exact ih fun term hmem => h term (List.mem_cons_of_mem _ hmem)

end Reading

/-! ### Whole expressions -/

section formulas

variable {α : Type} {leaf : Term → Except Error α} {query : String} {ts : List Token}

theorem leaf_ok_of_formulaOf {f : Formula α} (h : formulaOf leaf query ts = .ok f) {t : Term}
    (ht : .term t ∈ ts) : ∃ a, leaf t = .ok a := by
  obtain ⟨r, hr, -⟩ := formulaOf_ok_iff.1 h
  exact Reading.leaf_ok_of_steps hr ht

/-- Tokens that were read are those of a phrase whose terms all have a meaning. -/
theorem exists_tree_of_formulaOf [Inhabited α] {f : Formula α}
    (h : formulaOf leaf query ts = .ok f) :
    ∃ e g, Derives .disjunction ts e ∧ (∀ t, .term t ∈ ts → leaf t = .ok (g t)) ∧
      e.formula g = f := by
  obtain ⟨e, he⟩ := derives_of_formulaOf h
  let g (t : Term) : α := ((leaf t).toOption).getD default
  have hg (t : Term) (ht : .term t ∈ ts) : leaf t = .ok (g t) := by
    obtain ⟨a, ha⟩ := leaf_ok_of_formulaOf h ht
    simp [g, ha, Except.toOption]
  rw [formulaOf_of_derives he hg] at h
  cases h
  exact ⟨e, g, he, hg, rfl⟩

/-- An expression that is refused has a term that is, or it is at fault itself. -/
theorem formulaOf_error {fault : Error} (h : formulaOf leaf query ts = .error fault) :
    (∃ t, .term t ∈ ts ∧ leaf t = .error fault) ∨
      ∃ fragment cause, fault = .query fragment cause := by
  rcases bind_error_iff.1 h with h | ⟨r, -, h⟩
  · exact Reading.steps_error h
  · exact .inr (Reading.failsInQuery_finish query r fault h)

/-- The first term that is refused, with what stands before and after it. -/
theorem exists_first_refused (leaf : Term → Except Error α) (ts : List Token) :
    (∀ t, .term t ∈ ts → ∃ a, leaf t = .ok a) ∨
      ∃ us t vs fault, ts = us ++ .term t :: vs ∧ leaf t = .error fault ∧
        ∀ u, .term u ∈ us → ∃ a, leaf u = .ok a := by
  induction ts with
  | nil => exact .inl (by simp)
  | cons first rest ih =>
      have hfirst : (∃ t fault, first = .term t ∧ leaf t = .error fault) ∨
          ∀ t, Token.term t = first → ∃ a, leaf t = .ok a := by
        cases first with
        | term t =>
            cases hleaf : leaf t with
            | error fault => exact .inl ⟨t, fault, rfl, hleaf⟩
            | ok a =>
                refine .inr fun u hu => ?_
                cases hu
                exact ⟨a, hleaf⟩
        | _ => exact .inr fun _ h => nomatch h
      rcases hfirst with ⟨t, fault, rfl, hleaf⟩ | hfirst
      · exact .inr ⟨[], t, rest, fault, rfl, hleaf, by simp⟩
      · rcases ih with hall | ⟨us, t, vs, fault, rfl, hleaf, hus⟩
        · refine .inl fun t ht => ?_
          rcases List.mem_cons.1 ht with ht | ht
          · exact hfirst t ht
          · exact hall t ht
        · refine .inr ⟨first :: us, t, vs, fault, rfl, hleaf, fun u hu => ?_⟩
          rcases List.mem_cons.1 hu with hu | hu
          · exact hfirst u hu
          · exact hus u hu

/--
**An expression of the grammar is refused only for a term.**  If its terms all have a meaning it
is read; otherwise the first one that has none decides what is wrong.
-/
theorem formulaOf_of_grammar [Inhabited α] {e : Tree} (h : Derives .disjunction ts e) :
    (∃ f, formulaOf leaf query ts = .ok f) ∨
      ∃ t fault, .term t ∈ ts ∧ leaf t = .error fault ∧
        formulaOf leaf query ts = .error fault := by
  rcases exists_first_refused leaf ts with hall | ⟨us, t, vs, fault, rfl, hleaf, hus⟩
  · refine .inl ⟨e.formula fun t => ((leaf t).toOption).getD default, ?_⟩
    refine formulaOf_of_derives h fun t ht => ?_
    obtain ⟨a, ha⟩ := hall t ht
    rw [ha]
    rfl
  · -- with some meaning for the terms that have none, the reading gets as far as the term
    refine .inr ⟨t, fault, by simp, hleaf, ?_⟩
    let total (u : Term) : Except Error α := .ok (((leaf u).toOption).getD default)
    have htotal (u : Term) : total u = .ok (((leaf u).toOption).getD default) := rfl
    obtain ⟨r, hr, -⟩ := Reading.steps_of_derives h [] [] trivial fun u _ => htotal u
    rw [Reading.steps_append] at hr
    obtain ⟨r₁, hbefore, hr⟩ := bind_ok_iff.1 hr
    rw [Reading.steps_cons] at hr
    obtain ⟨_, hstep, -⟩ := bind_ok_iff.1 hr
    obtain ⟨r₂, hroom, -⟩ := bind_ok_iff.1 hstep
    have hsame : Reading.steps leaf Reading.start us = .ok r₁ := by
      rw [← hbefore]
      refine Reading.steps_congr fun u hu => ?_
      obtain ⟨a, ha⟩ := hus u hu
      simp [total, ha, Except.toOption]
    have hfail : Reading.step leaf r₁ (.term t) = .error fault := by
      rw [Reading.step, hroom, hleaf]
      rfl
    have hsteps : Reading.steps leaf Reading.start (us ++ .term t :: vs) = .error fault := by
      rw [Reading.steps_append_of_ok hsame, Reading.steps_cons, hfail]
      rfl
    exact bind_error_iff.2 (.inl hsteps)

end formulas

/-! ### Terms -/

theorem cutoff_error {now : Calendar.Instant} {cs : List Char} {cause : QueryFault}
    (h : cutoff now cs = .error cause) : cause.isInternal = false := by
  unfold cutoff at h
  split at h
  · split at h
    · cases h
    · cases h
      rfl
  · cases h
    rfl
  · simp only at h
    split at h
    · cases h
    · cases h
      rfl

theorem window_error {now : Calendar.Instant} {value : String} {cause : QueryFault}
    (h : window now value = .error cause) : cause.isInternal = false := by
  unfold window at h
  split at h
  all_goals
    rcases bind_error_iff.1 h with h | ⟨_, -, h⟩
    · exact cutoff_error h
    · cases h

/-- Why a key with a value is refused, and the fragment that is named.  It is the text of the term,
but for patterns, which are told with the key that they are read under. -/
inductive Refuses (now : Calendar.Instant) (key value : String) : String → QueryFault → Prop
  | missingValue (h : value = "") :
      Refuses now key value (Term.field key value).text .missingValue
  | unknownStatus (hkey : Key.ofText key = .status) :
      Refuses now key value (Term.field key value).text .unknownStatus
  | repository {fault : Glob.Fault} (hkey : Key.ofText key = .repository)
      (h : Glob.ofText value = .error fault) :
      Refuses now key value ("repo:" ++ value) (.glob fault)
  | organization {fault : Glob.Fault} (hkey : Key.ofText key = .organization)
      (h : Glob.ofText value = .error fault) :
      Refuses now key value ("org:" ++ value) (.glob fault)
  | updated {cause : QueryFault} (hkey : Key.ofText key = .updated)
      (h : window now value = .error cause) :
      Refuses now key value (Term.field key value).text cause
  | invalidScore (hkey : Key.ofText key = .score) (h : scoreRange? value = none) :
      Refuses now key value (Term.field key value).text .invalidScore
  | field {name : String} {fault : Pattern.Fault} (hkey : Key.ofText key = .field name)
      (h : Pattern.read value = .error fault) :
      Refuses now key value (name ++ ":" ++ value) (.pattern fault)

theorem refuses_of_fieldPredicate {now : Calendar.Instant} {key value : String} {fault : Error}
    (h : fieldPredicate now key value = .error fault) :
    ∃ fragment cause, fault = .query fragment cause ∧ Refuses now key value fragment cause := by
  unfold fieldPredicate at h
  split at h
  · rename_i hvalue
    cases h
    exact ⟨_, _, rfl, .missingValue hvalue⟩
  · cases hkey : Key.ofText key with
    | status =>
        simp only [hkey] at h
        split at h
        · cases h
        · split at h
          · cases h
          · cases h
            exact ⟨_, _, rfl, .unknownStatus hkey⟩
    | repository =>
        simp only [hkey, Predicate.ofRepository] at h
        split at h
        · cases h
        · rename_i hglob
          cases h
          exact ⟨_, _, rfl, .repository hkey hglob⟩
    | organization =>
        simp only [hkey, Predicate.ofOrganization] at h
        split at h
        · cases h
        · rename_i hglob
          cases h
          exact ⟨_, _, rfl, .organization hkey hglob⟩
    | type | reason =>
        simp only [hkey] at h
        cases h
    | updated =>
        simp only [hkey] at h
        split at h
        · cases h
        · rename_i hwindow
          cases h
          exact ⟨_, _, rfl, .updated hkey hwindow⟩
    | score =>
        simp only [hkey] at h
        split at h
        · cases h
        · rename_i hrange
          cases h
          exact ⟨_, _, rfl, .invalidScore hkey hrange⟩
    | field name =>
        simp only [hkey, Predicate.ofField] at h
        split at h
        · cases h
        · rename_i hpattern
          cases h
          exact ⟨_, _, rfl, .field hkey hpattern⟩

/-- The reason lies in the query. -/
theorem Refuses.not_internal {now : Calendar.Instant} {key value fragment : String}
    {cause : QueryFault} (h : Refuses now key value fragment cause) :
    cause.isInternal = false := by
  cases h with
  | updated _ hwindow => exact window_error hwindow
  | _ => rfl

theorem failsInQuery_fieldPredicate (now : Calendar.Instant) (key value : String) :
    FailsInQuery (fieldPredicate now key value) := by
  intro fault h
  obtain ⟨fragment, cause, hfault, -⟩ := refuses_of_fieldPredicate h
  exact ⟨fragment, cause, hfault⟩

/-- A term fails with a fault of the query, or with that of the name it refers to. -/
theorem filterOfTerm_error {now : Calendar.Instant} {named : String → Except Error Filter}
    {t : Term} {fault : Error} (h : filterOfTerm now named t = .error fault) :
    (∃ word name, t = .word word ∧ reference? word = some name ∧
      named name = .error fault) ∨ ∃ fragment cause, fault = .query fragment cause := by
  cases t with
  | field key value =>
      refine .inr ?_
      rw [filterOfTerm] at h
      have hfails : FailsInQuery (Formula.atom <$> fieldPredicate now key value) := by
        rw [← bind_pure_comp]
        exact (failsInQuery_fieldPredicate now key value).bind fun _ _ => .ok _
      exact hfails fault h
  | word word =>
      rw [filterOfTerm] at h
      split at h
      · rename_i name hname
        split at h
        · exact .inr (FailsInQuery.query _ _ fault h)
        · exact .inl ⟨word, name, rfl, hname, h⟩
      · split at h
        · exact .inr (FailsInQuery.query _ _ fault h)
        · cases h

end Triage.Query
