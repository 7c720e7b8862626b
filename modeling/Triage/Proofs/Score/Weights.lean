/-
Named weights are slots of their own.

A weight is set by its name, in the factors at hand.  A call that fails leaves these as they are,
and one that succeeds writes a single slot, which no other name reads.  So after any run of calls a
name reads the last number that was accepted for it, and all weights are finite if they were so at
the start.
-/
import Triage.Proofs.Config.Settings

namespace Triage

namespace Factors

variable {f f' : Factors} {name : String} {v : Float}

/-! ### One slot -/

theorem exists_get?_iff : (∃ x, f.get? name = some x) ↔ name ∈ names := by
  constructor
  · rintro ⟨x, hx⟩
    by_contra hname
    rw [get?_of_not_mem hname] at hx
    cases hx
  · intro hname
    obtain ⟨w, rfl⟩ := mem_names_iff.1 hname
    exact ⟨f.weight w, get?_name f w⟩

theorem set_ok_iff : f.set name v = .ok f' ↔
    name ∈ names ∧ v.isFinite = true ∧ f' = f.putNamed name v := by
  by_cases hfinite : v.isFinite = true
  · rw [set_of_isFinite hfinite]
    by_cases hname : name ∈ names
    · simp [hname, hfinite, eq_comm]
    · simp [hname]
  · simp [set, hfinite]

theorem putNamed_putNamed (f : Factors) (name : String) (v v' : Float) :
    (f.putNamed name v).putNamed name v' = f.putNamed name v' := by
  by_cases hname : name ∈ names
  · obtain ⟨w, rfl⟩ := mem_names_iff.1 hname
    rw [putNamed_name, putNamed_name, putNamed_name, put_put]
  · rw [putNamed_of_not_mem hname, putNamed_of_not_mem hname, putNamed_of_not_mem hname]

/-- A second call for a name does what it would have done without the first. -/
theorem set_putNamed (f : Factors) (name : String) (v v' : Float) :
    (f.putNamed name v).set name v' = f.set name v' := by
  by_cases hfinite : v'.isFinite = true
  · rw [set_of_isFinite hfinite, set_of_isFinite hfinite, putNamed_putNamed]
  · simp [set, hfinite]

/-! ### Factors at hand -/

/-- Sets a weight of the factors at hand: the number is checked, then the slot is looked for, and
only then is anything written. -/
def setInPlace (name : String) (v : Float) : EStateM ConfigFault Factors Unit := do
  if !v.isFinite then throw (.infiniteWeight name v)
  match (← get).replace? name v with
  | some replaced => MonadStateOf.set replaced
  | none => throw (.unknownWeight name)

/-- Factors at hand have a weight set or stay as they were. -/
theorem run_setInPlace (f : Factors) (name : String) (v : Float) :
    (setInPlace name v).run f =
      (match f.set name v with
      | .ok f' => .ok () f'
      | .error fault => .error fault f) := by
  unfold setInPlace set
  cases v.isFinite with
  | false => rfl
  | true =>
      show EStateM.run (match f.replace? name v with
        | some replaced => MonadStateOf.set replaced
        | none => throw (ConfigFault.unknownWeight name)) f = _
      cases f.replace? name v <;> rfl

/-! ### Runs of calls -/

/-- The factors after a call, whether it succeeds or not. -/
def afterCall (f : Factors) (call : String × Float) : Factors :=
  match (setInPlace call.1 call.2).run f with
  | .ok _ f' => f'
  | .error _ f' => f'

/-- The factors after several calls. -/
def afterCalls (f : Factors) (calls : List (String × Float)) : Factors := calls.foldl afterCall f

/-- The last number that calls give to a name, of those that can be accepted. -/
def lastGiven? (calls : List (String × Float)) (name : String) : Option Float :=
  (calls.reverse.find? fun call => call.1 == name && call.2.isFinite).map (·.2)

theorem afterCall_eq (f : Factors) (name : String) (v : Float) :
    f.afterCall (name, v) = if v.isFinite then f.putNamed name v else f := by
  rw [afterCall, run_setInPlace]
  by_cases hfinite : v.isFinite = true
  · rw [set_of_isFinite hfinite, if_pos hfinite]
    by_cases hname : name ∈ names
    · rw [if_pos hname]
    · rw [if_neg hname, putNamed_of_not_mem hname]
  · simp [set, hfinite]

theorem repositories_afterCall (f : Factors) (call : String × Float) :
    (f.afterCall call).repositories = f.repositories := by
  rw [afterCall_eq]
  split
  · exact repositories_putNamed f call.1 call.2
  · rfl

/-- One call decides what its own name reads, if it is accepted. -/
theorem get?_afterCall (hname : name ∈ names) (f : Factors) (call : String × Float) :
    (f.afterCall call).get? name =
      if call.1 == name && call.2.isFinite then some call.2 else f.get? name := by
  rw [afterCall_eq]
  by_cases hfinite : call.2.isFinite = true
  · simp only [hfinite, if_true, Bool.and_true, beq_iff_eq]
    by_cases hsame : call.1 = name
    · rw [if_pos hsame, hsame]
      exact get?_putNamed_self hname f call.2
    · rw [if_neg hsame]
      exact get?_putNamed_of_ne (Ne.symm hsame) f call.2
  · simp [hfinite]

theorem repositories_afterCalls (f : Factors) (calls : List (String × Float)) :
    (f.afterCalls calls).repositories = f.repositories := by
  induction calls generalizing f with
  | nil => rfl
  | cons call rest ih => exact (ih (f.afterCall call)).trans (repositories_afterCall f call)

/-- After a run of calls a name reads what was given to it last. -/
theorem get?_afterCalls (hname : name ∈ names) (f : Factors)
    (calls : List (String × Float)) :
    (f.afterCalls calls).get? name = (lastGiven? calls name).or (f.get? name) := by
  induction calls generalizing f with
  | nil => rfl
  | cons call rest ih =>
      have hrest : (f.afterCalls (call :: rest)).get? name =
          (lastGiven? rest name).or ((f.afterCall call).get? name) := ih (f.afterCall call)
      have hlast : lastGiven? (call :: rest) name =
          (lastGiven? rest name).or
            (if call.1 == name && call.2.isFinite then some call.2 else none) := by
        rw [lastGiven?, lastGiven?, List.reverse_cons, List.find?_append, Option.map_or]
        congr 1
        rw [List.find?_singleton]
        split <;> rfl
      rw [hrest, hlast, get?_afterCall hname, Option.or_assoc]
      congr 1
      split <;> rfl

/-! ### Finite weights -/

theorem validate_afterCall (h : f.validate = .ok ()) (call : String × Float) :
    (f.afterCall call).validate = .ok () := by
  rw [Config.score_ok_iff] at h ⊢
  rw [repositories_afterCall]
  refine ⟨fun name x hx => ?_, h.2⟩
  rw [get?_afterCall (exists_get?_iff.1 ⟨x, hx⟩)] at hx
  split at hx
  · rename_i haccepted
    cases hx
    exact (Bool.and_eq_true_iff.1 haccepted).2
  · exact h.1 name x hx

theorem validate_afterCalls (h : f.validate = .ok ()) (calls : List (String × Float)) :
    (f.afterCalls calls).validate = .ok () := by
  induction calls generalizing f with
  | nil => exact h
  | cons call rest ih => exact ih (validate_afterCall h call)

theorem validate_initial : Factors.initial.validate = .ok () := by rfl

/--
**Named weights are independent slots.**  A call to set one succeeds exactly for a listed name and a
finite number, and otherwise leaves the factors at hand as they were.  If it succeeds, the name
reads the number, every other name and the weights of repositories read what they did, and a second
call for the name does what it would have done without the first.  The listed names are those that
can be read, and factors are valid exactly if all that can be read from them is finite.  After a run
of calls each name reads what was given to it last, and valid factors, such as the initial ones,
are valid still.
-/
theorem set_independent (f : Factors) (name : String) (v : Float) :
    (setInPlace name v).run f =
        (match f.set name v with
        | .ok f' => .ok () f'
        | .error fault => .error fault f) ∧
      ((∃ f', f.set name v = .ok f') ↔ name ∈ names ∧ v.isFinite = true) ∧
      (∀ f', f.set name v = .ok f' →
        f'.get? name = some v ∧ (∀ other, other ≠ name → f'.get? other = f.get? other) ∧
          f'.repositories = f.repositories ∧ ∀ v', f'.set name v' = f.set name v') ∧
      ((∃ x, f.get? name = some x) ↔ name ∈ names) ∧
      (f.validate = .ok () ↔
        (∀ other x, f.get? other = some x → x.isFinite = true) ∧
          ∀ repository x, f.repositories.get? repository = some x → x.isFinite = true) ∧
      (∀ calls, (f.afterCalls calls).repositories = f.repositories ∧
        (∀ other ∈ names,
          (f.afterCalls calls).get? other = (lastGiven? calls other).or (f.get? other)) ∧
        (f.validate = .ok () → (f.afterCalls calls).validate = .ok ())) ∧
      ∀ calls, (Factors.initial.afterCalls calls).validate = .ok () := by
  refine ⟨run_setInPlace f name v, ?_, fun f' h => ?_, exists_get?_iff, Config.score_ok_iff,
    fun calls => ?_, validate_afterCalls validate_initial⟩
  · simp only [set_ok_iff]
    exact ⟨fun ⟨_, hname, hfinite, _⟩ => ⟨hname, hfinite⟩, fun ⟨hname, hfinite⟩ =>
      ⟨_, hname, hfinite, rfl⟩⟩
  · obtain ⟨hname, -, rfl⟩ := set_ok_iff.1 h
    exact ⟨get?_putNamed_self hname f v,
      fun other hother => get?_putNamed_of_ne hother f v, repositories_putNamed f name v,
      set_putNamed f name v⟩
  · exact ⟨repositories_afterCalls f calls, fun other hother => get?_afterCalls hother f calls,
      fun h => validate_afterCalls h calls⟩

end Factors

end Triage
