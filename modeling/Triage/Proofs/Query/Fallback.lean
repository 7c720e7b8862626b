/-
The reader never has to fall back.

There are places where a reader cannot go on although nothing is wrong with the query: an operator
is applied to fewer formulas than it takes, a parenthesis is applied as if it were an operator, or
when all is read there are no formulas or several.  The reader of this module is free in what it
does there, and otherwise does what the one of `Query/Expression.lean` does.  Whatever it is made
to do, it reads all tokens like that one: by the count of `Proofs/Query/Balance.lean` none of the
places is ever reached.  So the faults that tell of them are never returned.
-/
import Triage.Proofs.Query.Operands
import Triage.Proofs.Query.Reference

namespace Triage.Query

open Triage.Text

/-- What a reader does where its stacks do not hold what it needs. -/
structure Fallback (α : Type) where
  /-- An operator is applied to too few formulas. -/
  missing : Operator → List (Formula α) → Except Error (List (Formula α))
  /-- A parenthesis is applied. -/
  group : List (Formula α) → Except Error (List (Formula α))
  /-- No formula is left at the end. -/
  empty : Except Error (Formula α)
  /-- More than one formula is left at the end. -/
  dangling : List (Formula α) → Except Error (Formula α)

namespace Fallback

variable {α : Type} (fb : Fallback α)

/-! ### Reading with a fallback -/

/-- Applies what waits to the formulas that were completed last. -/
def apply : Waiting → List (Formula α) → Except Error (List (Formula α))
  | .operator op, complete =>
    if Reading.leftOperands op < complete.length then Reading.reduce op complete
    else fb.missing op complete
  | .group, complete => fb.group complete

/-- Applies what waits, the last first, until something stops it. -/
def applyUntil (stops : Waiting → Bool) (complete : List (Formula α)) :
    List Waiting → Except Error (List (Formula α) × List Waiting)
  | [] => .ok (complete, [])
  | top :: waiting =>
    if stops top then .ok (complete, top :: waiting)
    else do applyUntil stops (← fb.apply top complete) waiting

/-- A parenthesis stops a new operator, and so does an operator that binds less tightly. -/
def stopsOperator (op : Operator) : Waiting → Bool
  | .operator top => top.rank < op.rank
  | .group => true

/-- A parenthesis stops what ends a group. -/
def stopsGroup : Waiting → Bool
  | .operator _ => false
  | .group => true

/-- Puts a binary operator on the stack. -/
def pushBinary (op : Operator) (r : Reading α) : Except Error (Reading α) := do
  let (complete, waiting) ← fb.applyUntil (stopsOperator op) r.complete r.waiting
  return { complete, waiting := .operator op :: waiting, needsOperand := true }

/-- Makes room for an operand. -/
def beforeOperand (r : Reading α) : Except Error (Reading α) :=
  if r.needsOperand then .ok r else fb.pushBinary .and r

/-- Ends a group at the parenthesis that opened it. -/
def closeGroup (complete : List (Formula α)) (waiting : List Waiting) :
    Except Error (List (Formula α) × List Waiting) := do
  match ← fb.applyUntil stopsGroup complete waiting with
  | (_, []) => .error (.query ")" .unbalancedParentheses)
  | (complete, _ :: waiting) => .ok (complete, waiting)

/-- Ends the expression, in which no parenthesis may be open. -/
def closeAll (complete : List (Formula α)) (waiting : List Waiting) :
    Except Error (List (Formula α)) := do
  match ← fb.applyUntil stopsGroup complete waiting with
  | (complete, []) => .ok complete
  | (_, _ :: _) => .error (.query "(" .unbalancedParentheses)

/-- Reads one token. -/
def step (leaf : Term → Except Error α) (r : Reading α) : Token → Except Error (Reading α)
  | .term term => do
    let r ← fb.beforeOperand r
    return { r with complete := .atom (← leaf term) :: r.complete, needsOperand := false }
  | .not => do
    let r ← fb.beforeOperand r
    return { r with waiting := .operator .not :: r.waiting, needsOperand := true }
  | .openGroup => do
    let r ← fb.beforeOperand r
    return { r with waiting := .group :: r.waiting, needsOperand := true }
  | .closeGroup =>
    if r.needsOperand then
      .error (.query ")"
        (if r.waiting.head? = some .group then .emptyParentheses else .nothingBeforeClose))
    else do
      let (complete, waiting) ← fb.closeGroup r.complete r.waiting
      return { complete, waiting, needsOperand := false }
  | .and =>
    if r.needsOperand then .error (.query "AND" .missingLeftOperand) else fb.pushBinary .and r
  | .or =>
    if r.needsOperand then .error (.query "OR" .missingLeftOperand) else fb.pushBinary .or r

/-- The formula that was read. -/
def finish (r : Reading α) : Except Error (Formula α) :=
  if r.needsOperand then
    .error (.query ((r.waiting.head?.map Waiting.text).getD "(") .endsWithoutOperand)
  else do
    match ← fb.closeAll r.complete r.waiting with
    | [f] => .ok f
    | [] => fb.empty
    | complete => fb.dangling complete

/-- The formula that tokens make. -/
def formulaOf (leaf : Term → Except Error α) (tokens : List Token) : Except Error (Formula α) := do
  fb.finish (← tokens.foldlM (fb.step leaf) Reading.start)

/-! ### No fallback is used

The invariant is that of `Reading.Balanced`.  With it every operator that is applied has its
operands, and so do those that wait below it once it was applied.
-/

open Reading (owed)

variable {fb} {leaf : Term → Except Error α} {query : String} {complete : List (Formula α)}
  {waiting : List Waiting} {r : Reading α} {op : Operator} {ts : List Token}

/-- The operator on top is applied as the reader does it, and leaves enough for the others. -/
theorem applyUntil_operator (stops : Waiting → Bool)
    (h : owed (.operator op :: waiting) < complete.length) (hstops : stops (.operator op) = false) :
    ∃ next, Reading.reduce op complete = .ok next ∧ owed waiting < next.length ∧
      fb.applyUntil stops complete (.operator op :: waiting) =
        fb.applyUntil stops next waiting := by
  obtain ⟨next, hreduce, hnext⟩ := Reading.exists_reduce_of_owed h
  rw [owed] at h
  have happly : fb.apply (.operator op) complete = .ok next := by
    rw [apply, if_pos (by omega), hreduce]
  refine ⟨next, hreduce, hnext, ?_⟩
  rw [applyUntil, if_neg (by simp [hstops]), happly]
  rfl

theorem applyUntil_stopsOperator (h : owed waiting < complete.length) :
    fb.applyUntil (stopsOperator op) complete waiting =
      Reading.reduceWhile op complete waiting := by
  induction waiting generalizing complete with
  | nil => rfl
  | cons top rest ih =>
      cases top with
      | group => rfl
      | operator top =>
          rw [Reading.reduceWhile]
          split
          · rename_i hrank
            rw [applyUntil, if_pos (by simpa [stopsOperator] using hrank)]
          · rename_i hrank
            obtain ⟨next, hreduce, hnext, happly⟩ :=
              applyUntil_operator (stopsOperator op) h (by simpa [stopsOperator] using hrank)
            rw [happly, hreduce]
            exact ih hnext

theorem closeGroup_eq (h : owed waiting < complete.length) :
    fb.closeGroup complete waiting = Reading.closeGroup complete waiting := by
  induction waiting generalizing complete with
  | nil => rfl
  | cons top rest ih =>
      cases top with
      | group => rfl
      | operator op =>
          obtain ⟨next, hreduce, hnext, happly⟩ := applyUntil_operator stopsGroup h rfl
          rw [closeGroup, happly, Reading.closeGroup, hreduce]
          exact ih hnext

theorem closeAll_eq (h : owed waiting < complete.length) :
    fb.closeAll complete waiting = Reading.closeAll complete waiting := by
  induction waiting generalizing complete with
  | nil => rfl
  | cons top rest ih =>
      cases top with
      | group => rfl
      | operator op =>
          obtain ⟨next, hreduce, hnext, happly⟩ := applyUntil_operator stopsGroup h rfl
          rw [closeAll, happly, Reading.closeAll, hreduce]
          exact ih hnext

theorem pushBinary_eq (h : r.Balanced) (hr : r.needsOperand = false) (op : Operator) :
    fb.pushBinary op r = r.pushBinary op := by
  rw [pushBinary, Reading.pushBinary, applyUntil_stopsOperator (h.owed_lt hr)]

theorem beforeOperand_eq (h : r.Balanced) : fb.beforeOperand r = r.beforeOperand := by
  rw [beforeOperand, Reading.beforeOperand]
  split
  · rfl
  · rename_i hneeds
    exact pushBinary_eq h (by simpa using hneeds) .and

theorem step_eq (h : r.Balanced) (t : Token) : fb.step leaf r t = Reading.step leaf r t := by
  cases t with
  | term | not | openGroup => rw [step, Reading.step, beforeOperand_eq h]
  | closeGroup =>
      rw [step, Reading.step]
      split
      · rfl
      · rename_i hneeds
        rw [closeGroup_eq (h.owed_lt (by simpa using hneeds))]
  | and | or =>
      rw [step, Reading.step]
      split
      · rfl
      · rename_i hneeds
        exact pushBinary_eq h (by simpa using hneeds) _

theorem steps_eq (h : r.Balanced) : ts.foldlM (fb.step leaf) r = Reading.steps leaf r ts := by
  induction ts generalizing r with
  | nil => rfl
  | cons t rest ih =>
      rw [List.foldlM_cons, step_eq h, Reading.steps_cons]
      cases hstep : Reading.step leaf r t with
      | error fault => rfl
      | ok next => exact ih (h.step hstep)

theorem finish_eq (h : r.Balanced) : fb.finish r = r.finish query := by
  rw [finish, Reading.finish]
  split
  · rfl
  · rename_i hneeds
    have hneeds : r.needsOperand = false := by simpa using hneeds
    rw [closeAll_eq (h.owed_lt hneeds)]
    cases hclose : Reading.closeAll r.complete r.waiting with
    | error fault => rfl
    | ok complete =>
        obtain ⟨f, rfl⟩ := h.exists_eq_of_closeAll hneeds hclose
        rfl

/-- Any tokens are read alike, whatever the reader would fall back to. -/
theorem formulaOf_eq (fb : Fallback α) (leaf : Term → Except Error α) (query : String)
    (ts : List Token) : fb.formulaOf leaf ts = Query.formulaOf leaf query ts := by
  rw [formulaOf, steps_eq Reading.Balanced.start]
  show _ = Reading.steps leaf Reading.start ts >>= _
  cases hsteps : Reading.steps leaf Reading.start ts with
  | error fault => rfl
  | ok r => exact finish_eq (Reading.Balanced.start.steps hsteps)

/-- With stacks that are out of balance it would show. -/
example (fb : Fallback α) : fb.finish ⟨[], [], false⟩ = fb.empty := rfl

end Fallback

/-! ### No fault lies with the reader -/

/-- How the faults of the reader are worded. -/
def readerFaults : List String := ["missing operand", "empty expression", "dangling operands"]

theorem message_not_mem_readerFaults {cause : QueryFault} (h : cause.isInternal = false) :
    cause.message ∉ readerFaults := by
  -- Faults of patterns end with a text of their own, and are told by how they begin.
  have hfirst : ∀ message ∈ readerFaults, message.toList.head? ≠ some 'b' := by decide
  cases cause with
  | missingOperand | emptyExpression | danglingOperands => cases h
  | glob fault =>
      intro hmem
      exact hfirst _ hmem (by rw [QueryFault.message, String.toList_append]; rfl)
  | pattern fault =>
      intro hmem
      exact hfirst _ hmem (by rw [QueryFault.message, String.toList_append]; rfl)
  | _ => decide

/-- A run that does not end with a fault of the reader. -/
def NeverInternal {α : Type} (run : Except Error α) : Prop :=
  ∀ fault, run = .error fault → fault.isInternal = false

namespace NeverInternal

variable {α β : Type}

theorem ok (a : α) : NeverInternal (.ok a) := fun _ h => nomatch h

theorem error {fault : Error} (h : fault.isInternal = false) :
    NeverInternal (.error fault : Except Error α) :=
  fun _ hrun => by
    cases hrun
    exact h

theorem bind {run : Except Error α} {next : α → Except Error β} (hrun : NeverInternal run)
    (hnext : ∀ a, run = .ok a → NeverInternal (next a)) : NeverInternal (run >>= next) := by
  intro fault h
  rcases bind_error_iff.1 h with h | ⟨a, ha, h⟩
  · exact hrun fault h
  · exact hnext a ha fault h

end NeverInternal

theorem neverInternal_formulaOf {α : Type} {leaf : Term → Except Error α}
    (hleaf : ∀ t, NeverInternal (leaf t)) (query : String) (ts : List Token) :
    NeverInternal (formulaOf leaf query ts) := by
  intro fault h
  rcases bind_error_iff.1 h with hsteps | ⟨r, hsteps, hfinish⟩
  · rcases Reading.Balanced.start.steps_error hsteps with ⟨t, -, hterm⟩ | ⟨-, hquery⟩
    · exact hleaf t fault hterm
    · exact hquery
  · rcases (Reading.Balanced.start.steps hsteps).finish_error hfinish with ⟨-, rfl⟩ | ⟨-, rfl⟩
    · rfl
    · rfl

theorem neverInternal_filterOfTerm {now : Calendar.Instant}
    {named : String → Except Error Filter} (hnamed : ∀ name, NeverInternal (named name))
    (t : Term) : NeverInternal (filterOfTerm now named t) := by
  cases t with
  | field key value =>
      rw [filterOfTerm, ← bind_pure_comp]
      refine .bind (fun fault h => ?_) fun _ _ => .ok _
      obtain ⟨fragment, cause, rfl, hrefuses⟩ := refuses_of_fieldPredicate h
      exact hrefuses.not_internal
  | word word =>
      rw [filterOfTerm]
      split
      · split
        · exact .error rfl
        · exact hnamed _
      · split
        · exact .error rfl
        · exact .ok _

theorem neverInternal_filterWith {now : Calendar.Instant}
    {named : String → Except Error Filter} (hnamed : ∀ name, NeverInternal (named name))
    (text : String) : NeverInternal (filterWith now named text) := by
  rw [filterWith]
  split
  · exact .ok _
  · split
    · exact .error rfl
    · exact (neverInternal_formulaOf (neverInternal_filterOfTerm hnamed) _ _).bind fun _ _ => .ok _

theorem neverInternal_namedFilter {ctx : Context} {chain : List String}
    (h : ∀ name e, ctx.expand chain name = .ok e →
      NeverInternal (filterWithin ctx (chain ++ [name]) e.1)) (name : String) :
    NeverInternal (namedFilter ctx chain name) := by
  refine .bind (fun fault hexpand => ?_) fun e he => h name e he
  rcases Context.expand_error hexpand with ⟨-, rfl⟩ | ⟨-, rfl | rfl⟩
  all_goals rfl

/-- The expressions of saved filters are read by the same reader. -/
theorem neverInternal_filterWithin (ctx : Context) (chain : List String) :
    ∀ text, NeverInternal (filterWithin ctx chain text) := by
  induction chain using ctx.expansion_induction with
  | step chain ih =>
      intro text
      rw [filterWithin]
      exact neverInternal_filterWith
        (neverInternal_namedFilter fun name e he => ih name e he e.1) text

theorem neverInternal_termFilter (ctx : Context) (chain : List String) (t : Term) :
    NeverInternal (termFilter ctx chain t) :=
  neverInternal_filterOfTerm
    (neverInternal_namedFilter fun _ e _ => neverInternal_filterWithin ctx _ e.1) t

/--
**The reader never has to fall back.**  Whatever the tokens are, reading them is the same whatever
would be done where an operator lacks an operand, a parenthesis is applied, or the formulas that are
left are none or several; where the tokens are read and all that waits is applied, one formula is
left; and no error tells of any of this, neither for the tokens nor for a whole query.
-/
theorem formulaOf_never_falls_back (ctx : Context) (chain : List String) (query : String)
    (ts : List Token) :
    (∀ fb : Fallback Filter, fb.formulaOf (termFilter ctx chain) ts =
      formulaOf (termFilter ctx chain) query ts) ∧
    (∀ r complete, ts.foldlM (Reading.step (termFilter ctx chain)) Reading.start = .ok r →
      r.needsOperand = false → Reading.closeAll r.complete r.waiting = .ok complete →
      ∃ f, complete = [f]) ∧
    (∀ fragment cause, formulaOf (termFilter ctx chain) query ts = .error (.query fragment cause) →
      cause.message ∉ readerFaults) ∧
    ∀ text fragment cause, filterWithin ctx chain text = .error (.query fragment cause) →
      cause.message ∉ readerFaults := by
  refine ⟨fun fb => fb.formulaOf_eq _ query ts, fun r complete hsteps hneeds hclose => ?_,
    fun fragment cause h => ?_, fun text fragment cause h => ?_⟩
  · exact (Reading.Balanced.start.steps hsteps).exists_eq_of_closeAll hneeds hclose
  · exact message_not_mem_readerFaults
      (neverInternal_formulaOf (neverInternal_termFilter ctx chain) query ts _ h)
  · exact message_not_mem_readerFaults (neverInternal_filterWithin ctx chain text _ h)

/-- A negated group with an implicit `AND` is read to the end, and a parenthesis that was never
opened is found in the query. -/
theorem formulaOf_never_falls_back_group_and_stray_close :
    let ctx : Context := ⟨⟨0, 0⟩, none⟩
    let leaf := termFilter ctx []
    let group : List Token := [.term (.word "a"), .or, .not, .openGroup, .term (.word "b"),
      .term (.word "c"), .closeGroup]
    let stray : List Token := [.term (.word "a"), .not, .term (.word "b"), .closeGroup, .and]
    (∃ r complete f, group.foldlM (Reading.step leaf) Reading.start = .ok r ∧
      r.needsOperand = false ∧ Reading.closeAll r.complete r.waiting = .ok complete ∧
      complete = [f]) ∧
    (formulaOf leaf "" stray = .error (.query ")" .unbalancedParentheses) ∧
      QueryFault.unbalancedParentheses.message ∉ readerFaults) ∧
    filterWithin ctx [] "a OR" = .error (.query "OR" .endsWithoutOperand) ∧
      QueryFault.endsWithoutOperand.message ∉ readerFaults := by
  intro ctx leaf group stray
  obtain ⟨-, hone, -, -⟩ := formulaOf_never_falls_back ctx [] "" group
  obtain ⟨-, -, hfault, hquery⟩ := formulaOf_never_falls_back ctx [] "" stray
  have hsteps : ∃ r, group.foldlM (Reading.step leaf) Reading.start = .ok r ∧
      r.needsOperand = false ∧ ∃ complete,
        Reading.closeAll r.complete r.waiting = .ok complete := ⟨_, rfl, rfl, _, rfl⟩
  obtain ⟨r, hr, hneeds, complete, hclose⟩ := hsteps
  obtain ⟨f, hf⟩ := hone r complete hr hneeds hclose
  have hstray : formulaOf leaf "" stray = .error (.query ")" .unbalancedParentheses) := rfl
  have hopen : filterWithin ctx [] "a OR" = .error (.query "OR" .endsWithoutOperand) := by
    rw [filterWithin]
    rfl
  exact ⟨⟨r, complete, f, hr, hneeds, hclose, hf⟩, ⟨hstray, hfault _ _ hstray⟩,
    hopen, hquery _ _ _ hopen⟩

end Triage.Query
