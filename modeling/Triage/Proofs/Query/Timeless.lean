/-
Queries that mean the same at all times.

Only a term for a span of time before now reads the clock when a query is read, and only a term for
scores reads it when a notification is looked at.  A query that asks for neither, in its own text or
in a saved filter that it comes across, stands for one filter, and the scores do not matter to it.
-/
import Triage.Proofs.Query.Conditions

namespace Triage

open Calendar Text

namespace Query

/-! ### Terms -/

/-- Whether an age is a span of time before now. -/
def Age.isSpan : Age → Bool
  | seconds _ => true
  | outOfRange | unrecognized => false

/-- What a value names an instant by, without the sign for before or after. -/
def momentText (value : String) : List Char :=
  match value.toList with
  | '<' :: rest | '>' :: rest => rest
  | cs => cs

/-- Whether a term reads no clock: it asks for no score and for no span of time before now. -/
def Term.isTimeless : Term → Bool
  | .word _ => true
  | .field key value =>
    match Key.ofText key with
    | .score => false
    | .updated => !(Age.ofChars (momentText value)).isSpan
    | _ => true

theorem cutoff_congr {cs : List Char} (h : (Age.ofChars cs).isSpan = false) (now now' : Instant) :
    cutoff now cs = cutoff now' cs := by
  unfold cutoff
  cases hage : Age.ofChars cs with
  | seconds n =>
      rw [hage] at h
      cases h
  | outOfRange | unrecognized => rfl

theorem window_congr {value : String} (h : (Age.ofChars (momentText value)).isSpan = false)
    (now now' : Instant) : window now value = window now' value := by
  unfold momentText at h
  unfold window
  generalize value.toList = cs at h ⊢
  split at h
  all_goals simp only [cutoff_congr h now now']

theorem fieldPredicate_congr {key value : String}
    (h : (Term.field key value).isTimeless = true) (now now' : Instant) :
    fieldPredicate now key value = fieldPredicate now' key value := by
  unfold fieldPredicate
  cases hkey : Key.ofText key with
  | updated =>
      have hspan : (Age.ofChars (momentText value)).isSpan = false := by
        simpa [Term.isTimeless, hkey] using h
      simp only [window_congr hspan now now']
  | _ => rfl

/-! ### Queries -/

/-- No term that a text asks for reads the clock. -/
def Timeless (ctx : Context) (text : String) : Prop :=
  ∀ t, ctx.Asks text t → t.isTimeless = true

theorem Timeless.through {ctx : Context} {text name expression : String}
    (h : Timeless ctx text) (href : References text name)
    (hname : ctx.expression? name = some expression) : Timeless ctx expression :=
  fun t ht => h t (.through href hname ht)

/-- A text without names has no terms but its own. -/
theorem timeless_of_tokens {ctx : Context} {text : String} {ts : List Token}
    (hts : tokens (trim text) = .ok ts) (hnames : referenced text = [])
    (hterms : ∀ t, .term t ∈ ts → t.isTimeless = true) : Timeless ctx text := by
  intro t ht
  cases ht with
  | here ht =>
      obtain ⟨ts', hts', hmem⟩ := ht
      cases hts.symm.trans hts'
      exact hterms t hmem
  | through href =>
      rw [references_iff, hnames] at href
      cases href

/-- What a name stands for, step by step. -/
theorem namedFilter_eq (now : Instant) (saved : Option (SortedMap String)) (chain : List String)
    (name : String) : namedFilter ⟨now, saved⟩ chain name =
      match saved with
      | none => .error (.reference (.noStore name))
      | some saved =>
        if name ∈ chain then .error (.reference (.cycle name chain))
        else
          match saved.get? name with
          | none => .error (.reference (.unknown name))
          | some expression => filterWithin ⟨now, some saved⟩ (chain ++ [name]) expression := by
  cases saved with
  | none => rfl
  | some saved =>
      unfold namedFilter Context.expand
      simp only
      split
      · rfl
      · split
        · rename_i hname
          simp only [hname]
          rfl
        · rename_i hname
          simp only [hname]
          rfl

theorem formulaOf_congr {α : Type} {leaf leaf' : Term → Except Error α} {ts : List Token}
    (h : ∀ t, .term t ∈ ts → leaf t = leaf' t) (query : String) :
    formulaOf leaf query ts = formulaOf leaf' query ts := by
  have hsteps : ts.foldlM (Reading.step leaf) Reading.start =
      ts.foldlM (Reading.step leaf') Reading.start := Reading.steps_congr h
  rw [formulaOf, formulaOf, hsteps]

/-- A text is read alike if its terms are. -/
theorem filterWith_congr {now now' : Instant} {named named' : String → Except Error Filter}
    {text : String} (h : ∀ t, HasTerm text t → filterOfTerm now named t = filterOfTerm now' named' t) :
    filterWith now named text = filterWith now' named' text := by
  unfold filterWith
  simp only
  split
  · rfl
  · cases hts : tokens (trim text) with
    | error fragment => rfl
    | ok ts =>
        have hformula := formulaOf_congr (fun t ht => h t ⟨ts, hts, ht⟩) (trim text)
        simp only [hformula]

/-- A timeless text is read alike at all times. -/
theorem Timeless.filterWithin_eq {now : Instant} {saved : Option (SortedMap String)}
    (now' : Instant) (chain : List String) : ∀ text, Timeless ⟨now, saved⟩ text →
      filterWithin ⟨now, saved⟩ chain text = filterWithin ⟨now', saved⟩ chain text := by
  induction chain using Context.expansion_induction ⟨now, saved⟩ with
  | step chain ih =>
      intro text h
      rw [filterWithin, filterWithin]
      refine filterWith_congr fun t ht => ?_
      cases t with
      | field key value =>
          rw [filterOfTerm, filterOfTerm, fieldPredicate_congr (h _ (.here ht)) now now']
      | word word =>
          obtain ⟨ts, hts, ht⟩ := ht
          cases hword : reference? word with
          | none => rw [filterOfTerm, filterOfTerm, hword]
          | some name =>
              have hnamed : namedFilter ⟨now, saved⟩ chain name =
                  namedFilter ⟨now', saved⟩ chain name := by
                rw [namedFilter_eq, namedFilter_eq]
                cases saved with
                | none => rfl
                | some saved =>
                    simp only
                    split
                    · rfl
                    · rename_i hnew
                      cases hname : saved.get? name with
                      | none => rfl
                      | some expression =>
                          have hname : Context.expression? ⟨now, some saved⟩ name =
                              some expression := hname
                          obtain ⟨e, he, rfl⟩ := Context.expand_ok_iff.2 ⟨hname, hnew⟩
                          exact ih name e he e.1 (h.through ⟨ts, word, hts, ht, hword⟩ hname)
              rw [filterOfTerm, filterOfTerm, hword]
              exact ite_congr rfl (fun _ => rfl) fun _ => hnamed

theorem Timeless.filterOf_eq {now : Instant} {saved : Option (SortedMap String)} {text : String}
    (h : Timeless ⟨now, saved⟩ text) (now' : Instant) :
    filterOf ⟨now, saved⟩ text = filterOf ⟨now', saved⟩ text :=
  Timeless.filterWithin_eq now' [] text h

/-! ### Blanks around a text -/

theorem filterOf_of_trim_eq {text text' : String} (h : trim text = trim text') (ctx : Context) :
    filterOf ctx text = filterOf ctx text' := by
  rw [filterOf, filterOf, filterWithin, filterWithin, filterWith, filterWith, h]

end Query

/-! ### Scores -/

/-- Whether a condition is on scores. -/
def Predicate.isScore : Predicate → Bool
  | .score _ => true
  | _ => false

/-- No condition of a filter is on scores. -/
def Filter.Scoreless (f : Filter) : Prop := Formula.Every (fun p => p.isScore = false) f

theorem Filter.Scoreless.accepts_eq {f : Filter} (h : f.Scoreless)
    (score score' : Notification → UInt8) (n : Notification) :
    f.accepts score n = f.accepts score' n := by
  refine Formula.holds_congr f (Formula.Every.imp (fun p hp => ?_) f h)
  cases p with
  | score range => cases hp
  | _ => rfl

theorem Query.Timeless.scoreless {ctx : Context} {text : String} {f : Filter}
    (h : Timeless ctx text) (hf : filterOf ctx text = .ok f) : f.Scoreless := by
  refine every_of_filterWithin (P := fun p => p.isScore = false) ctx [] rfl (fun _ => rfl) text f
    hf fun key value p hasks hp => ?_
  cases hp with
  | score hkey _ =>
      have htimeless := h _ hasks
      rw [Term.isTimeless, hkey] at htimeless
      cases htimeless
  | _ => rfl

end Triage
