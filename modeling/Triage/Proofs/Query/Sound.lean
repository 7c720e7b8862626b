/-
Only phrases of the grammar are read.

`Open` describes the stack of operators after a part of the tokens: a parenthesis on
it stands for one that is still open, a binary operator for a whole phrase to its
left.  An operator that is applied turns the operand on top into a phrase of the
operator's own kind, and when all are applied a disjunction is left.
-/
import Triage.Proofs.Query.Complete

namespace Triage.Query.Reading

variable {α : Type} {leaf : Term → Except Error α} {complete : List (Formula α)}
  {waiting : List Waiting} {φ ψ : Phrase} {op : Operator}

/-! ### Only phrases are read -/

/-- What was read when an operand comes next: for each operator that waits the operands on
its left, for each open parenthesis the parenthesis. -/
inductive Open : List Token → List Waiting → Prop
  | start : Open [] []
  | group {ts : List Token} {waiting : List Waiting} (h : Open ts waiting) :
      Open (ts ++ [.openGroup]) (.group :: waiting)
  | not {ts : List Token} {waiting : List Waiting} (h : Open ts waiting) :
      Open (ts ++ [.not]) (.operator .not :: waiting)
  | and {ts us : List Token} {waiting : List Waiting} {e : Tree} (h : Open ts waiting)
      (hfits : Phrase.conjunction.fits waiting) (hleft : Derives .conjunction us e) :
      Open (ts ++ us ++ [.and]) (.operator .and :: waiting)
  | implicitAnd {ts us : List Token} {waiting : List Waiting} {e : Tree} (h : Open ts waiting)
      (hfits : Phrase.conjunction.fits waiting) (hleft : Derives .conjunction us e) :
      Open (ts ++ us) (.operator .and :: waiting)
  | or {ts us : List Token} {waiting : List Waiting} {e : Tree} (h : Open ts waiting)
      (hfits : Phrase.disjunction.fits waiting) (hleft : Derives .disjunction us e) :
      Open (ts ++ us ++ [.or]) (.operator .or :: waiting)

/-- What was read ends with a phrase on top of what waits. -/
def Closed (φ : Phrase) (ts : List Token) (waiting : List Waiting) : Prop :=
  ∃ us vs e, ts = us ++ vs ∧ Open us waiting ∧ Derives φ vs e ∧ φ.fits waiting

theorem Closed.lift {ts : List Token} (h : Closed φ ts waiting) (hrank : ψ.rank ≤ φ.rank)
    (hfits : ψ.fits waiting) : Closed ψ ts waiting := by
  obtain ⟨us, vs, e, hts, hopen, hderives, -⟩ := h
  exact ⟨us, vs, e, hts, hopen, hderives.lift hrank, hfits⟩

/-- Applying an operator puts a phrase of its kind on top. -/
theorem Closed.reduce {ts : List Token} (h : Closed φ ts (.operator op :: waiting)) :
    Closed op.phrase ts waiting := by
  obtain ⟨us, vs, e, rfl, hopen, hderives, hfits⟩ := h
  cases hopen with
  | @not us _ hopen =>
      refine ⟨us, .not :: vs, _, by simp, hopen, .not (hderives.lift ?_), Phrase.fits_negation _⟩
      rcases hfits with hlt | rfl
      · exact Nat.le_of_lt hlt
      · exact Nat.le_refl _
  | @and us ls _ _ hopen hleft hls =>
      refine ⟨us, ls ++ .and :: vs, _, by simp, hopen, .and hls (hderives.lift ?_), hleft⟩
      rcases hfits with hlt | rfl
      · exact hlt
      · exact Nat.le_refl _
  | @implicitAnd us ls _ _ hopen hleft hls =>
      refine ⟨us, ls ++ vs, _, by simp, hopen, .implicitAnd hls (hderives.lift ?_), hleft⟩
      rcases hfits with hlt | rfl
      · exact hlt
      · exact Nat.le_refl _
  | @or us ls _ _ hopen hleft hls =>
      refine ⟨us, ls ++ .or :: vs, _, by simp, hopen, .or hls (hderives.lift ?_), hleft⟩
      rcases hfits with hlt | rfl
      · exact hlt
      · decide

/-- Making room for a binary operator leaves a phrase that is its left operand. -/
theorem closed_of_reduceWhile {ts : List Token} {complete' : List (Formula α)}
    {waiting' : List Waiting}
    (h : reduceWhile op complete waiting = .ok (complete', waiting'))
    (hclosed : Closed φ ts waiting) (hrank : op.rank ≤ φ.rank) :
    Closed op.phrase ts waiting' := by
  have hphrase : ∀ o : Operator, o.phrase.rank = o.rank := fun o => by cases o <;> rfl
  induction waiting generalizing φ complete with
  | nil =>
      cases h
      exact hclosed.lift (by rw [hphrase]; exact hrank) trivial
  | cons top rest ih =>
      cases top with
      | group =>
          cases h
          exact hclosed.lift (by rw [hphrase]; exact hrank) trivial
      | operator o =>
          rw [reduceWhile] at h
          split at h
          · rename_i hlt
            cases h
            exact hclosed.lift (by rw [hphrase]; exact hrank) (.inl (by rw [hphrase]; exact hlt))
          · rename_i hle
            obtain ⟨next, -, h⟩ := bind_ok_iff.1 h
            exact ih h hclosed.reduce (by rw [hphrase]; exact Nat.not_lt.1 hle)

/-- A closing parenthesis makes a primary of what stands after the opening one. -/
theorem closed_of_closeGroup {ts : List Token} {complete' : List (Formula α)}
    {waiting' : List Waiting} (h : closeGroup complete waiting = .ok (complete', waiting'))
    (hclosed : Closed φ ts waiting) : Closed .primary (ts ++ [.closeGroup]) waiting' := by
  induction waiting generalizing φ complete with
  | nil => cases h
  | cons top rest ih =>
      cases top with
      | group =>
          cases h
          obtain ⟨us, vs, e, rfl, hopen, hderives, -⟩ := hclosed
          cases hopen with
          | @group us _ hopen =>
              exact ⟨us, .openGroup :: vs ++ [.closeGroup], e, by simp, hopen,
                .group (hderives.lift (by cases φ <;> decide)), Phrase.fits_primary _⟩
      | operator o =>
          obtain ⟨next, -, h⟩ := bind_ok_iff.1 h
          exact ih h hclosed.reduce

/-- When everything was applied, all that was read is one disjunction. -/
theorem derives_of_closeAll {ts : List Token} {complete' : List (Formula α)}
    (h : closeAll complete waiting = .ok complete') (hclosed : Closed φ ts waiting) :
    ∃ e, Derives .disjunction ts e := by
  induction waiting generalizing φ complete with
  | nil =>
      obtain ⟨us, vs, e, rfl, hopen, hderives, -⟩ := hclosed
      cases hopen
      exact ⟨e, hderives.lift (by cases φ <;> decide)⟩
  | cons top rest ih =>
      cases top with
      | group => cases h
      | operator o =>
          obtain ⟨next, -, h⟩ := bind_ok_iff.1 h
          exact ih h hclosed.reduce

/-- What the stack of operators says about the tokens that were read. -/
def Accounts (ts : List Token) (r : Reading α) : Prop :=
  if r.needsOperand then Open ts r.waiting else Closed .primary ts r.waiting

theorem accounts_start : Accounts [] (start : Reading α) := Open.start

/-- Making room for an operand leaves a place where one may stand. -/
theorem open_of_beforeOperand {ts : List Token} {r r' : Reading α} (h : Accounts ts r)
    (hr : r.beforeOperand = .ok r') : Open ts r'.waiting := by
  rw [beforeOperand] at hr
  rw [Accounts] at h
  split at hr
  · rename_i hneeds
    cases hr
    rwa [if_pos hneeds] at h
  · rename_i hneeds
    rw [if_neg hneeds] at h
    obtain ⟨⟨complete, waiting⟩, hreduce, hr⟩ := bind_ok_iff.1 hr
    cases hr
    obtain ⟨us, vs, e, rfl, hopen, hderives, hfits⟩ :=
      closed_of_reduceWhile hreduce h (by decide)
    exact .implicitAnd hopen hfits hderives

theorem accounts_step {ts : List Token} {t : Token} {r r' : Reading α} (h : Accounts ts r)
    (hstep : step leaf r t = .ok r') : Accounts (ts ++ [t]) r' := by
  cases t with
  | term term =>
      obtain ⟨r₁, hbefore, hstep⟩ := bind_ok_iff.1 hstep
      have hopen := open_of_beforeOperand h hbefore
      obtain ⟨a, -, hstep⟩ := bind_ok_iff.1 hstep
      cases hstep
      exact ⟨ts, [.term term], _, rfl, hopen, .term term, Phrase.fits_primary _⟩
  | not =>
      obtain ⟨r₁, hbefore, hstep⟩ := bind_ok_iff.1 hstep
      cases hstep
      exact (open_of_beforeOperand h hbefore).not
  | openGroup =>
      obtain ⟨r₁, hbefore, hstep⟩ := bind_ok_iff.1 hstep
      cases hstep
      exact (open_of_beforeOperand h hbefore).group
  | closeGroup =>
      rw [step] at hstep
      split at hstep
      · cases hstep
      · rename_i hneeds
        rw [Accounts, if_neg hneeds] at h
        obtain ⟨⟨complete, waiting⟩, hclose, hstep⟩ := bind_ok_iff.1 hstep
        cases hstep
        exact closed_of_closeGroup hclose h
  | and =>
      rw [step] at hstep
      split at hstep
      · cases hstep
      · rename_i hneeds
        rw [Accounts, if_neg hneeds] at h
        obtain ⟨⟨complete, waiting⟩, hreduce, hstep⟩ := bind_ok_iff.1 hstep
        cases hstep
        obtain ⟨us, vs, e, rfl, hopen, hderives, hfits⟩ :=
          closed_of_reduceWhile hreduce h (by decide)
        exact .and hopen hfits hderives
  | or =>
      rw [step] at hstep
      split at hstep
      · cases hstep
      · rename_i hneeds
        rw [Accounts, if_neg hneeds] at h
        obtain ⟨⟨complete, waiting⟩, hreduce, hstep⟩ := bind_ok_iff.1 hstep
        cases hstep
        obtain ⟨us, vs, e, rfl, hopen, hderives, hfits⟩ :=
          closed_of_reduceWhile hreduce h (by decide)
        exact .or hopen hfits hderives

theorem accounts_steps {ts us : List Token} {r r' : Reading α} (h : Accounts ts r)
    (hsteps : steps leaf r us = .ok r') : Accounts (ts ++ us) r' := by
  induction us generalizing ts r with
  | nil =>
      cases hsteps
      rwa [List.append_nil]
  | cons u rest ih =>
      obtain ⟨r₁, hstep, hsteps⟩ := bind_ok_iff.1 (steps_cons r u rest ▸ hsteps)
      have := ih (accounts_step h hstep) hsteps
      rwa [List.append_assoc] at this

end Triage.Query.Reading
