/-
Computations that may use a cache.

Filtering asks for a score wherever a condition needs one, and with a cache each score may read from
it and write to it.  Whatever such a computation does one by one it does as a whole: it keeps a
property of the cache, and as long as what is found in the cache can be trusted it yields what it
would yield without one.
-/
import Triage.Engine
import Triage.Proofs.Query.Timeless
import Triage.Query.Filter
import Triage.Scorer

namespace Triage

/-- A computation keeps a property of the cache, and yields a value if the cache can be trusted. -/
def Yields {α : Type} (Keeps : Option Cache.Session → Prop) (trusted : Prop) (x : WithCache α)
    (a : α) : Prop :=
  ∀ s, Keeps s → Keeps (x.run s).run.2 ∧ (trusted → (x.run s).run.1 = a)

variable {α β : Type} {Keeps : Option Cache.Session → Prop} {trusted : Prop}

namespace Yields

theorem pure (a : α) : Yields Keeps trusted (Pure.pure a) a := fun _ hs => ⟨hs, fun _ => rfl⟩

theorem bind {x : WithCache α} {a : α} {f : α → WithCache β} {b : β}
    (hx : Yields Keeps trusted x a)
    (hf : ∀ a', (trusted → a' = a) → Yields Keeps trusted (f a') b) :
    Yields Keeps trusted (x >>= f) b := by
  intro s hs
  obtain ⟨hkeeps, ha⟩ := hx s hs
  exact hf _ ha _ hkeeps

/-- The value need only be the right one if the cache can be trusted. -/
theorem of_eq {x : WithCache α} {a a' : α} (hx : Yields Keeps trusted x a)
    (h : trusted → a = a') : Yields Keeps trusted x a' :=
  fun s hs => (hx s hs).imp_right fun ha htrusted => (ha htrusted).trans (h htrusted)

/-- Several computations one after the other yield what each of them yields. -/
theorem mapM {f : α → WithCache β} {g : α → β} {l : List α}
    (h : ∀ a ∈ l, Yields Keeps trusted (f a) (g a)) :
    Yields Keeps trusted (l.mapM f) (l.map g) := by
  induction l with
  | nil => exact .pure []
  | cons a rest ih =>
      rw [List.mapM_cons]
      refine (h a List.mem_cons_self).bind fun first hfirst => ?_
      refine (ih fun a ha => h a (List.mem_cons_of_mem _ ha)).bind fun others hothers => ?_
      exact (Yields.pure _).of_eq fun htrusted => by
        rw [hfirst htrusted, hothers htrusted, List.map_cons]

end Yields

/-! ### Formulas -/

namespace Formula

variable {test : α → WithCache Bool} {pureTest : α → Bool}

mutual

theorem yields_check : (f : Formula α) →
    f.Every (fun a => Yields Keeps trusted (test a) (pureTest a)) →
      Yields Keeps trusted (f.check test) (f.holds pureTest)
  | atom _, h => by
    rw [check, holds]
    exact h
  | all members, h => by
    rw [check, holds]
    exact yields_checkAll members h
  | any members, h => by
    rw [check, holds]
    exact yields_checkAny members h
  | not member, h => by
    rw [check, holds]
    exact (yields_check member h).bind fun b hb =>
      (Yields.pure (!b)).of_eq fun htrusted => congrArg _ (hb htrusted)

theorem yields_checkAll : (l : List (Formula α)) →
    EveryMember (fun a => Yields Keeps trusted (test a) (pureTest a)) l →
      Yields Keeps trusted (checkAll test l) (holdsAll pureTest l)
  | [], _ => .pure true
  | member :: rest, h => by
    rw [checkAll, holdsAll]
    refine (yields_check member h.1).bind fun b hb => ?_
    cases b with
    | true =>
        exact (yields_checkAll rest h.2).of_eq fun htrusted => by rw [← hb htrusted, Bool.true_and]
    | false => exact (Yields.pure false).of_eq fun htrusted => by rw [← hb htrusted, Bool.false_and]

theorem yields_checkAny : (l : List (Formula α)) →
    EveryMember (fun a => Yields Keeps trusted (test a) (pureTest a)) l →
      Yields Keeps trusted (checkAny test l) (holdsAny pureTest l)
  | [], _ => .pure false
  | member :: rest, h => by
    rw [checkAny, holdsAny]
    refine (yields_check member h.1).bind fun b hb => ?_
    cases b with
    | true => exact (Yields.pure true).of_eq fun htrusted => by rw [← hb htrusted, Bool.true_or]
    | false =>
        exact (yields_checkAny rest h.2).of_eq fun htrusted => by rw [← hb htrusted, Bool.false_or]

end

end Formula

/-! ### Collections -/

theorem yields_workThrough {stops : Nat → Bool} {work : α → WithCache (Option β)}
    {pureWork : α → Option β} {items : List α}
    (h : ∀ a ∈ items, Yields Keeps trusted (work a) (pureWork a)) (done : Nat) :
    Yields Keeps trusted (workThrough stops work done items)
      (workThrough (m := Id) stops (fun a => pure (pureWork a)) done items) := by
  induction items generalizing done with
  | nil => exact .pure _
  | cons item rest ih =>
      rw [workThrough, workThrough]
      split
      · exact .pure _
      · refine (h item List.mem_cons_self).bind fun result hresult => ?_
        refine (ih (fun a ha => h a (List.mem_cons_of_mem _ ha)) _).bind fun outcome houtcome => ?_
        refine (Yields.pure _).of_eq fun htrusted => ?_
        rw [hresult htrusted, houtcome htrusted]
        rfl

namespace Engine

theorem subset_of_candidates (settings : EngineSettings) (key : Option IndexKey)
    (list : List Notification) : candidates settings key list ⊆ list := by
  intro n hn
  unfold candidates at hn
  split at hn
  · exact hn
  · obtain ⟨position, -, hposition⟩ := List.mem_filterMap.1 hn
    exact List.mem_of_getElem? (by simpa using hposition)

theorem yields_select {settings : EngineSettings} {timing : Timing} {key : Option IndexKey}
    {accept : Notification → WithCache Bool} {pureAccept : Notification → Bool}
    {list : List Notification}
    (h : ∀ n ∈ list, Yields Keeps trusted (accept n) (pureAccept n)) :
    Yields Keeps trusted (select settings timing key accept list)
      (select (m := Id) settings timing key (fun n => pure (pureAccept n)) list) := by
  have hwork : ∀ n ∈ candidates settings key list, Yields Keeps trusted
      (do return if ← accept n then some n else none)
      (if pureAccept n then some n else none) := fun n hn =>
    (h n (subset_of_candidates settings key list hn)).bind fun b hb =>
      (Yields.pure _).of_eq fun htrusted => by rw [hb htrusted]
  exact (yields_workThrough hwork 0).bind fun outcome houtcome =>
    (Yields.pure _).of_eq fun htrusted => by
      rw [houtcome htrusted]
      rfl

end Engine

/-! ### Filters -/

namespace Filter

variable {score : Notification → WithCache UInt8} {pureScore : Notification → UInt8}
  {n : Notification}

theorem yields_check {p : Predicate}
    (h : p.isScore = true → Yields Keeps trusted (score n) (pureScore n)) :
    Yields Keeps trusted (p.check score n) (p.holds pureScore n) := by
  cases p with
  | score range =>
      exact (h rfl).bind fun total htotal =>
        (Yields.pure _).of_eq fun htrusted => by rw [htotal htrusted, Predicate.holds]
  | _ => exact .pure _

/-- A filter accepts by way of the cache what it accepts without, if scores come out right where
there is a condition on them. -/
theorem yields_acceptsM {f : Filter}
    (h : ¬f.Scoreless → Yields Keeps trusted (score n) (pureScore n)) :
    Yields Keeps trusted (f.acceptsM score n) (f.accepts pureScore n) := by
  refine Formula.yields_check f ?_
  by_cases hscoreless : f.Scoreless
  · exact Formula.Every.imp (fun p hp => yields_check fun hscore => nomatch hp.symm.trans hscore) f
      hscoreless
  · exact Formula.every_of_forall (fun p => yields_check fun _ => h hscoreless) f

end Filter

end Triage
