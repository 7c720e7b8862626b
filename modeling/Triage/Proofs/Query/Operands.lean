/-
Operators find their operands, and what does not fit is a token.

`Proofs/Query/Balance.lean` counts the complete formulas.  By that count an operator that waits can
always be applied, so a reading never fails while it makes room for an operand.  What is left to go
wrong is a token that stands where it cannot stand, and the fragment that is named is its text; an
implicit `AND`, which has no text in the query, is never named.
-/
import Triage.Proofs.Query.Balance
import Triage.Proofs.Query.Fault

namespace Triage.Query

/-- The text of a token without its quotes. -/
def Token.text : Token → String
  | term t => t.text
  | and => "AND"
  | or => "OR"
  | not => "NOT"
  | openGroup => "("
  | closeGroup => ")"

/-- The token is an operator or a parenthesis. -/
def Token.isMark : Token → Bool
  | term _ => false
  | _ => true

/-- A fault that names one of the operators and parentheses among some tokens. -/
def NamesMark (ts : List Token) (fault : Error) : Prop :=
  ∃ t ∈ ts, t.isMark = true ∧ ∃ cause, fault = .query t.text cause

namespace Reading

variable {α : Type} {leaf : Term → Except Error α} {query : String}
  {complete complete' : List (Formula α)} {waiting waiting' : List Waiting} {r r' : Reading α}
  {op : Operator} {t : Token} {ts : List Token} {fault : Error}

/-! ### Operators are applied

With more complete formulas than waiting operators own, the last one is an operand for the operator
on top, and after it was applied there are still more than the others own.
-/

theorem exists_reduce (h : leftOperands op < complete.length) :
    ∃ complete', reduce op complete = .ok complete' := by
  cases op with
  | not =>
      obtain ⟨f, rest, rfl⟩ := List.exists_cons_of_length_pos h
      exact ⟨_, rfl⟩
  | and | or =>
      obtain ⟨right, rest, rfl⟩ := List.exists_cons_of_length_pos (Nat.zero_lt_of_lt h)
      obtain ⟨left, rest, rfl⟩ := List.exists_cons_of_length_pos (Nat.lt_of_succ_lt_succ h)
      exact ⟨_, rfl⟩

/-- The operator on top is applied, and the others can be as well. -/
theorem exists_reduce_of_owed (h : owed (.operator op :: waiting) < complete.length) :
    ∃ complete', reduce op complete = .ok complete' ∧ owed waiting < complete'.length := by
  rw [owed] at h
  have hown : leftOperands op < complete.length := by omega
  obtain ⟨complete', hreduce⟩ := exists_reduce hown
  have hlength := length_reduce hreduce
  exact ⟨complete', hreduce, by omega⟩

theorem exists_reduceWhile (op : Operator) (h : owed waiting < complete.length) :
    ∃ out, reduceWhile op complete waiting = .ok out := by
  induction waiting generalizing complete with
  | nil => exact ⟨_, rfl⟩
  | cons top rest ih =>
      cases top with
      | group => exact ⟨_, rfl⟩
      | operator top =>
          rw [reduceWhile]
          split
          · exact ⟨_, rfl⟩
          · obtain ⟨next, hreduce, hnext⟩ := exists_reduce_of_owed h
            rw [hreduce]
            exact ih hnext

/-- Only a parenthesis that was never opened keeps a group from being closed. -/
theorem closeGroup_error (h : owed waiting < complete.length)
    (hclose : closeGroup complete waiting = .error fault) :
    fault = .query ")" .unbalancedParentheses := by
  induction waiting generalizing complete with
  | nil =>
      cases hclose
      rfl
  | cons top rest ih =>
      cases top with
      | group => cases hclose
      | operator op =>
          obtain ⟨next, hreduce, hnext⟩ := exists_reduce_of_owed h
          rw [closeGroup, hreduce] at hclose
          exact ih hnext hclose

/-- Only a parenthesis that was never closed keeps the waiting operators from being applied. -/
theorem closeAll_error (h : owed waiting < complete.length)
    (hclose : closeAll complete waiting = .error fault) :
    .group ∈ waiting ∧ fault = .query "(" .unbalancedParentheses := by
  induction waiting generalizing complete with
  | nil => cases hclose
  | cons top rest ih =>
      cases top with
      | group =>
          cases hclose
          exact ⟨List.mem_cons_self, rfl⟩
      | operator op =>
          obtain ⟨next, hreduce, hnext⟩ := exists_reduce_of_owed h
          rw [closeAll, hreduce] at hclose
          exact (ih hnext hclose).imp_left (List.mem_cons_of_mem _)

/-- Whatever waits takes its left operands along. -/
theorem length_closeAll (h : closeAll complete waiting = .ok complete') :
    complete.length = complete'.length + owed waiting := by
  induction waiting generalizing complete with
  | nil =>
      cases h
      rfl
  | cons top rest ih =>
      cases top with
      | group => cases h
      | operator op =>
          obtain ⟨next, hreduce, h⟩ := bind_ok_iff.1 h
          have hlength := length_reduce hreduce
          have hrest := ih h
          rw [owed]
          omega

namespace Balanced

theorem owed_lt (h : r.Balanced) (hr : r.needsOperand = false) :
    owed r.waiting < r.complete.length := by
  rw [Balanced, hr] at h
  simp only [Bool.false_eq_true, if_false] at h
  omega

theorem exists_pushBinary (h : r.Balanced) (hr : r.needsOperand = false) (op : Operator) :
    ∃ r', r.pushBinary op = .ok r' := by
  obtain ⟨out, hout⟩ := exists_reduceWhile op (h.owed_lt hr)
  exact ⟨_, bind_ok_iff.2 ⟨out, hout, rfl⟩⟩

theorem exists_beforeOperand (h : r.Balanced) : ∃ r', r.beforeOperand = .ok r' := by
  rw [Reading.beforeOperand]
  split
  · exact ⟨r, rfl⟩
  · rename_i hneeds
    exact h.exists_pushBinary (by simpa using hneeds) .and

/-! ### What does not fit

A step fails with the fault of its term or names the token that it reads, and then the fault lies in
the query.  At the end the operator or parenthesis that was read last is named if it lacks its
operand, or else a parenthesis.
-/

theorem step_error (h : r.Balanced) (hstep : Reading.step leaf r t = .error fault) :
    (∃ term, t = .term term ∧ leaf term = .error fault) ∨
      NamesMark [t] fault ∧ fault.isInternal = false := by
  obtain ⟨room, hroom⟩ := h.exists_beforeOperand
  cases t with
  | term term =>
      rcases bind_error_iff.1 hstep with hbefore | ⟨r', -, hstep⟩
      · rw [hroom] at hbefore
        cases hbefore
      · rcases bind_error_iff.1 hstep with hleaf | ⟨_, -, hstep⟩
        · exact .inl ⟨term, rfl, hleaf⟩
        · cases hstep
  | not | openGroup =>
      rw [Reading.step, hroom] at hstep
      cases hstep
  | closeGroup =>
      rw [Reading.step] at hstep
      split at hstep
      · cases hstep
        refine .inr ⟨⟨_, List.mem_cons_self, rfl, _, rfl⟩, ?_⟩
        rw [Error.isInternal]
        split <;> rfl
      · rename_i hneeds
        rcases bind_error_iff.1 hstep with hclose | ⟨_, -, hstep⟩
        · obtain rfl := closeGroup_error (h.owed_lt (by simpa using hneeds)) hclose
          exact .inr ⟨⟨_, List.mem_cons_self, rfl, _, rfl⟩, rfl⟩
        · cases hstep
  | and | or =>
      rw [Reading.step] at hstep
      split at hstep
      · cases hstep
        exact .inr ⟨⟨_, List.mem_cons_self, rfl, _, rfl⟩, rfl⟩
      · rename_i hneeds
        obtain ⟨r', hpush⟩ := h.exists_pushBinary (by simpa using hneeds) _
        rw [hpush] at hstep
        cases hstep

theorem steps_error (h : r.Balanced) (hsteps : Reading.steps leaf r ts = .error fault) :
    (∃ term, .term term ∈ ts ∧ leaf term = .error fault) ∨
      NamesMark ts fault ∧ fault.isInternal = false := by
  induction ts generalizing r with
  | nil => cases hsteps
  | cons t rest ih =>
      rcases bind_error_iff.1 (steps_cons r t rest ▸ hsteps) with hstep | ⟨r', hstep, hrest⟩
      · rcases h.step_error hstep with ⟨term, rfl, hleaf⟩ | ⟨⟨u, hu, hmark⟩, hquery⟩
        · exact .inl ⟨term, List.mem_cons_self, hleaf⟩
        · exact .inr ⟨⟨u, by simp [List.mem_singleton.1 hu], hmark⟩, hquery⟩
      · rcases ih (h.step hstep) hrest with ⟨term, hterm, hleaf⟩ | ⟨⟨u, hu, hmark⟩, hquery⟩
        · exact .inl ⟨term, List.mem_cons_of_mem _ hterm, hleaf⟩
        · exact .inr ⟨⟨u, List.mem_cons_of_mem _ hu, hmark⟩, hquery⟩

/-- With all that waits applied the left operands are gone, and the last operand is all there is. -/
theorem exists_eq_of_closeAll (h : r.Balanced) (hneeds : r.needsOperand = false)
    (hclose : closeAll r.complete r.waiting = .ok complete) : ∃ f, complete = [f] := by
  have hlength := length_closeAll hclose
  rw [Balanced, hneeds] at h
  simp only [Bool.false_eq_true, if_false] at h
  exact List.length_eq_one_iff.1 (by omega)

theorem finish_error (h : r.Balanced) (hfinish : r.finish query = .error fault) :
    (r.needsOperand = true ∧
      fault = .query ((r.waiting.head?.map Waiting.text).getD "(") .endsWithoutOperand) ∨
      .group ∈ r.waiting ∧ fault = .query "(" .unbalancedParentheses := by
  rw [finish] at hfinish
  split at hfinish
  · rename_i hneeds
    cases hfinish
    exact .inl ⟨hneeds, rfl⟩
  · rename_i hneeds
    have hneeds : r.needsOperand = false := by simpa using hneeds
    rcases bind_error_iff.1 hfinish with hclose | ⟨complete, hclose, hfinish⟩
    · exact .inr (closeAll_error (h.owed_lt hneeds) hclose)
    · obtain ⟨f, rfl⟩ := h.exists_eq_of_closeAll hneeds hclose
      cases hfinish

end Balanced

/-! ### What waits was read -/

theorem suffix_of_reduceWhile (h : reduceWhile op complete waiting = .ok (complete', waiting')) :
    waiting' <:+ waiting := by
  induction waiting generalizing complete with
  | nil =>
      cases h
      exact List.suffix_rfl
  | cons top rest ih =>
      cases top with
      | group =>
          cases h
          exact List.suffix_rfl
      | operator top =>
          rw [reduceWhile] at h
          split at h
          · cases h
            exact List.suffix_rfl
          · obtain ⟨next, -, h⟩ := bind_ok_iff.1 h
            exact (ih h).trans (List.suffix_cons _ _)

theorem suffix_of_closeGroup (h : closeGroup complete waiting = .ok (complete', waiting')) :
    waiting' <:+ waiting := by
  induction waiting generalizing complete with
  | nil => cases h
  | cons top rest ih =>
      cases top with
      | group =>
          cases h
          exact List.suffix_cons _ _
      | operator op =>
          obtain ⟨next, -, h⟩ := bind_ok_iff.1 h
          exact (ih h).trans (List.suffix_cons _ _)

theorem group_mem_of_pushBinary (h : r.pushBinary op = .ok r') (hmem : .group ∈ r'.waiting) :
    .group ∈ r.waiting := by
  obtain ⟨⟨done, left⟩, hreduce, h⟩ := bind_ok_iff.1 h
  cases h
  have hleft : .group ∈ left := (List.mem_cons.1 hmem).resolve_left nofun
  exact (suffix_of_reduceWhile hreduce).mem hleft

theorem group_mem_of_beforeOperand (h : r.beforeOperand = .ok r') (hmem : .group ∈ r'.waiting) :
    .group ∈ r.waiting := by
  rw [beforeOperand] at h
  split at h
  · cases h
    exact hmem
  · exact group_mem_of_pushBinary h hmem

/-- A parenthesis that waits waited before or was opened just now. -/
theorem group_mem_of_step (h : step leaf r t = .ok r') (hmem : .group ∈ r'.waiting) :
    .group ∈ r.waiting ∨ t = .openGroup := by
  cases t with
  | openGroup => exact .inr rfl
  | term term =>
      obtain ⟨room, hroom, h⟩ := bind_ok_iff.1 h
      obtain ⟨a, -, h⟩ := bind_ok_iff.1 h
      cases h
      exact .inl (group_mem_of_beforeOperand hroom hmem)
  | not =>
      obtain ⟨room, hroom, h⟩ := bind_ok_iff.1 h
      cases h
      exact .inl (group_mem_of_beforeOperand hroom ((List.mem_cons.1 hmem).resolve_left nofun))
  | closeGroup =>
      rw [step] at h
      split at h
      · cases h
      · obtain ⟨⟨done, left⟩, hclose, h⟩ := bind_ok_iff.1 h
        cases h
        exact .inl ((suffix_of_closeGroup hclose).mem hmem)
  | and | or =>
      rw [step] at h
      split at h
      · cases h
      · exact .inl (group_mem_of_pushBinary h hmem)

theorem group_mem_of_steps (h : steps leaf r ts = .ok r') (hmem : .group ∈ r'.waiting) :
    .group ∈ r.waiting ∨ .openGroup ∈ ts := by
  induction ts generalizing r with
  | nil =>
      cases h
      exact .inl hmem
  | cons t rest ih =>
      obtain ⟨next, hstep, hrest⟩ := bind_ok_iff.1 (steps_cons r t rest ▸ h)
      rcases ih hrest with hnext | hrest
      · exact (group_mem_of_step hstep hnext).imp_right fun ht => by simp [ht]
      · exact .inr (List.mem_cons_of_mem _ hrest)

theorem waiting_of_pushBinary (h : r.pushBinary op = .ok r') :
    r'.waiting.head? = some (.operator op) := by
  obtain ⟨⟨done, left⟩, -, h⟩ := bind_ok_iff.1 h
  cases h
  rfl

/-- What needs an operand is the token that was read last. -/
theorem isMark_of_step (h : step leaf r t = .ok r') (hneeds : r'.needsOperand = true) :
    t.isMark = true ∧ r'.waiting.head?.map Waiting.text = some t.text := by
  cases t with
  | term term =>
      obtain ⟨_, -, h⟩ := bind_ok_iff.1 h
      obtain ⟨_, -, h⟩ := bind_ok_iff.1 h
      cases h
      cases hneeds
  | not | openGroup =>
      obtain ⟨_, -, h⟩ := bind_ok_iff.1 h
      cases h
      exact ⟨rfl, rfl⟩
  | closeGroup =>
      rw [step] at h
      split at h
      · cases h
      · obtain ⟨_, -, h⟩ := bind_ok_iff.1 h
        cases h
        cases hneeds
  | and | or =>
      rw [step] at h
      split at h
      · cases h
      · rw [waiting_of_pushBinary h]
        exact ⟨rfl, rfl⟩

end Reading

/--
**What does not fit is a token.**  An expression with tokens fails with the fault of one of its
terms, or else one of its operators and parentheses is named.
-/
theorem formulaOf_error_of_ne_nil {α : Type} {leaf : Term → Except Error α} {query : String}
    {ts : List Token} {fault : Error} (hne : ts ≠ [])
    (h : formulaOf leaf query ts = .error fault) :
    (∃ term, .term term ∈ ts ∧ leaf term = .error fault) ∨ NamesMark ts fault := by
  rcases bind_error_iff.1 h with hsteps | ⟨r, hsteps, hfinish⟩
  · exact (Reading.Balanced.start.steps_error hsteps).imp_right And.left
  · right
    rcases (Reading.Balanced.start.steps hsteps).finish_error hfinish with
      ⟨hneeds, rfl⟩ | ⟨hgroup, rfl⟩
    · obtain ⟨us, last, rfl⟩ := (List.eq_nil_or_concat ts).resolve_left hne
      rw [List.concat_eq_append] at hsteps ⊢
      have hsplit := (Reading.steps_append Reading.start us [last]).symm.trans hsteps
      obtain ⟨before, -, hlast⟩ := bind_ok_iff.1 hsplit
      rw [Reading.steps_cons] at hlast
      obtain ⟨_, hlast, hr⟩ := bind_ok_iff.1 hlast
      cases hr
      obtain ⟨hmark, htext⟩ := Reading.isMark_of_step hlast hneeds
      exact ⟨last, by simp, hmark, _, by rw [htext]; rfl⟩
    · have hopen := (Reading.group_mem_of_steps hsteps hgroup).resolve_left List.not_mem_nil
      exact ⟨.openGroup, hopen, rfl, _, rfl⟩

end Triage.Query
