/-
Every phrase of the grammar is read.

The reader keeps two stacks and looks at each token once; the grammar of
`Proofs/Query/Grammar.lean` knows of neither.  What joins them here is `Settles`:
after a phrase was read, whatever lay on the stacks before is still there, and above
it lie only operators of the phrase itself, which yield the phrase's formula once
they are applied.  The next operator, a closing parenthesis or the end of the text
applies them, so phrases put together to a larger one settle again.
-/
import Triage.Proofs.Except
import Triage.Proofs.Query.Grammar
import Triage.Query.Expression

namespace Triage.Query

/-- The kind of phrase that an operator makes of its operands. -/
def Operator.phrase : Operator → Phrase
  | not => .negation
  | and => .conjunction
  | or => .disjunction

/-- The operator that waits last leaves a phrase of this kind alone until it is complete. -/
def Phrase.fits (φ : Phrase) : List Waiting → Prop
  | .operator op :: _ => op.rank < φ.rank ∨ φ = .negation
  | _ => True

theorem Phrase.fits_negation (waiting : List Waiting) : Phrase.negation.fits waiting := by
  match waiting with
  | [] | .group :: _ => trivial
  | .operator _ :: _ => exact .inr rfl

theorem Phrase.fits_primary (waiting : List Waiting) : Phrase.primary.fits waiting := by
  match waiting with
  | [] | .group :: _ => trivial
  | .operator op :: _ => cases op <;> exact .inl (by decide)

theorem Phrase.fits.of_rank_le {φ ψ : Phrase} {waiting : List Waiting} (h : φ.fits waiting)
    (hrank : φ.rank ≤ ψ.rank) : ψ.fits waiting := by
  match waiting with
  | [] | .group :: _ => trivial
  | .operator op :: rest =>
      rcases h with hlt | rfl
      · exact .inl (Nat.lt_of_lt_of_le hlt hrank)
      · cases ψ with
        | negation => exact .inr rfl
        | primary => cases op <;> exact .inl (by decide)
        | conjunction | disjunction => exact absurd hrank (by decide)

namespace Reading

variable {α : Type} {leaf : Term → Except Error α} {g : Term → α}

/-- Reads several tokens. -/
def steps (leaf : Term → Except Error α) (r : Reading α) (ts : List Token) :
    Except Error (Reading α) :=
  ts.foldlM (step leaf) r

@[simp] theorem steps_nil (r : Reading α) : steps leaf r [] = .ok r := rfl

theorem steps_cons (r : Reading α) (t : Token) (ts : List Token) :
    steps leaf r (t :: ts) = step leaf r t >>= (steps leaf · ts) := by
  rw [steps, List.foldlM_cons]
  rfl

theorem steps_append (r : Reading α) (ts us : List Token) :
    steps leaf r (ts ++ us) = steps leaf r ts >>= (steps leaf · us) := by
  rw [steps, List.foldlM_append]
  rfl

theorem steps_append_of_ok {r r' : Reading α} {ts : List Token} (h : steps leaf r ts = .ok r')
    (us : List Token) : steps leaf r (ts ++ us) = steps leaf r' us := by
  rw [steps_append, h]
  rfl

theorem steps_cons_of_ok {r r' : Reading α} {t : Token} (h : step leaf r t = .ok r')
    (us : List Token) : steps leaf r (t :: us) = steps leaf r' us := by
  rw [steps_cons, h]
  rfl

/-! ### Implicit operators

After an operand, a token that begins another one acts as if an `AND` had come before
it.  So an implicit `AND` may be written out.
-/

theorem step_of_startsOperand {r : Reading α} {t : Token} (hr : r.needsOperand = false)
    (ht : t.startsOperand = true) :
    step leaf r t = step leaf r .and >>= (step leaf · t) := by
  have hbefore : r.beforeOperand = r.pushBinary .and := by
    rw [beforeOperand, if_neg (by simp [hr])]
  have hand : step leaf r .and = r.pushBinary .and := by
    rw [step, if_neg (by simp [hr])]
  have hroom (r' : Reading α) (h : r.pushBinary .and = .ok r') : r'.beforeOperand = .ok r' := by
    obtain ⟨⟨complete, waiting⟩, -, h⟩ := bind_ok_iff.1 h
    cases h
    rfl
  rw [hand]
  cases hpush : r.pushBinary .and with
  | error fault => cases t <;> simp_all [step, Token.startsOperand, bind, Except.bind]
  | ok r' =>
      have := hroom r' hpush
      cases t <;> simp_all [step, Token.startsOperand, bind, Except.bind]

theorem needsOperand_of_step {r r' : Reading α} {t : Token} (h : step leaf r t = .ok r') :
    r'.needsOperand = !t.endsOperand := by
  cases t with
  | term term =>
      obtain ⟨_, -, h⟩ := bind_ok_iff.1 h
      obtain ⟨_, -, h⟩ := bind_ok_iff.1 h
      cases h
      rfl
  | not | openGroup =>
      obtain ⟨_, -, h⟩ := bind_ok_iff.1 h
      cases h
      rfl
  | closeGroup =>
      rw [step] at h
      split at h
      · cases h
      · obtain ⟨_, -, h⟩ := bind_ok_iff.1 h
        cases h
        rfl
  | and | or =>
      rw [step] at h
      split at h
      · cases h
      · obtain ⟨_, -, h⟩ := bind_ok_iff.1 h
        cases h
        rfl

/-- **Writing an implicit `AND` out changes nothing.** -/
theorem steps_insert_and (r : Reading α) {ts us : List Token} {t u : Token}
    (ht : t.endsOperand = true) (hu : u.startsOperand = true) :
    steps leaf r (ts ++ t :: .and :: u :: us) = steps leaf r (ts ++ t :: u :: us) := by
  rw [steps_append, steps_append]
  cases hts : steps leaf r ts with
  | error fault => rfl
  | ok r₁ =>
      show steps leaf r₁ (t :: .and :: u :: us) = steps leaf r₁ (t :: u :: us)
      rw [steps_cons, steps_cons]
      cases hstep : step leaf r₁ t with
      | error fault => rfl
      | ok r₂ =>
          have hr₂ : r₂.needsOperand = false := by rw [needsOperand_of_step hstep, ht]; rfl
          show steps leaf r₂ (.and :: u :: us) = steps leaf r₂ (u :: us)
          rw [steps_cons r₂ u, step_of_startsOperand hr₂ hu, steps_cons, bind_assoc]
          congr 1

/-! ### Every phrase is read

`unwind` applies operators in the order in which they lie on the stack.  A phrase
settles when unwinding what it left there yields its formula.
-/

/-- Applies several operators, the first one first. -/
def unwind (ops : List Operator) (complete : List (Formula α)) : Except Error (List (Formula α)) :=
  ops.foldlM (fun complete op => reduce op complete) complete

theorem unwind_cons (op : Operator) (ops : List Operator) (complete : List (Formula α)) :
    unwind (op :: ops) complete = reduce op complete >>= unwind ops := by
  rw [unwind, List.foldlM_cons]
  rfl

theorem unwind_append (ops ops' : List Operator) (complete : List (Formula α)) :
    unwind (ops ++ ops') complete = unwind ops complete >>= unwind ops' := by
  rw [unwind, List.foldlM_append]
  rfl

/-- A phrase with a formula was read on top of two stacks. -/
def Settles (φ : Phrase) (f : Formula α) (complete : List (Formula α)) (waiting : List Waiting)
    (r : Reading α) : Prop :=
  ∃ above ops, r = ⟨above, ops.map Waiting.operator ++ waiting, false⟩ ∧
    (∀ op ∈ ops, φ.rank ≤ op.rank) ∧ unwind ops above = .ok (f :: complete)

variable {complete above : List (Formula α)} {waiting : List Waiting} {f f' : Formula α}
  {φ ψ : Phrase} {r : Reading α} {op : Operator} {ops : List Operator}

theorem Settles.lift (h : Settles φ f complete waiting r) (hrank : ψ.rank ≤ φ.rank) :
    Settles ψ f complete waiting r := by
  obtain ⟨above, ops, hr, hops, hunwind⟩ := h
  exact ⟨above, ops, hr, fun op hop => Nat.le_trans hrank (hops op hop), hunwind⟩

/-- An operator that waits for a phrase makes a phrase of its own kind. -/
theorem Settles.reduce {complete' : List (Formula α)}
    (h : Settles φ f complete (.operator op :: waiting) r) (hrank : op.rank ≤ φ.rank)
    (hred : Reading.reduce op (f :: complete) = .ok (f' :: complete')) :
    Settles op.phrase f' complete' waiting r := by
  obtain ⟨above, ops, hr, hops, hunwind⟩ := h
  have hphrase : op.phrase.rank = op.rank := by cases op <;> rfl
  refine ⟨above, ops ++ [op], by simpa using hr, ?_, ?_⟩
  · intro o ho
    rw [hphrase]
    rcases List.mem_append.1 ho with ho | ho
    · exact Nat.le_trans hrank (hops o ho)
    · exact Nat.le_of_eq (by rw [List.mem_singleton.1 ho])
  · rw [unwind_append, hunwind]
    show unwind [op] (f :: complete) = _
    rw [unwind_cons, hred]
    rfl

theorem reduceWhile_of_fits (hop : op ≠ .not) (h : op.phrase.fits waiting) :
    reduceWhile op complete waiting = .ok (complete, waiting) := by
  match waiting with
  | [] | .group :: _ => rfl
  | .operator top :: rest =>
      have hlt : top.rank < op.rank := by
        cases op with
        | not => exact absurd rfl hop
        | and | or => exact h.resolve_right (by simp [Operator.phrase])
      rw [reduceWhile, if_pos hlt]

theorem reduceWhile_unwind (hrank : ∀ o ∈ ops, op.rank ≤ o.rank)
    (h : unwind ops above = .ok complete) :
    reduceWhile op above (ops.map Waiting.operator ++ waiting) =
      reduceWhile op complete waiting := by
  induction ops generalizing above with
  | nil =>
      cases h
      rfl
  | cons o rest ih =>
      obtain ⟨next, hred, hrest⟩ := bind_ok_iff.1 (unwind_cons o rest above ▸ h)
      have hle : ¬o.rank < op.rank := Nat.not_lt.2 (hrank o List.mem_cons_self)
      show reduceWhile op above (.operator o :: (rest.map Waiting.operator ++ waiting)) = _
      rw [reduceWhile, if_neg hle, hred]
      exact ih (fun o' ho' => hrank o' (List.mem_cons_of_mem _ ho')) hrest

theorem closeGroup_unwind (h : unwind ops above = .ok complete) :
    closeGroup above (ops.map Waiting.operator ++ waiting) = closeGroup complete waiting := by
  induction ops generalizing above with
  | nil =>
      cases h
      rfl
  | cons o rest ih =>
      obtain ⟨next, hred, hrest⟩ := bind_ok_iff.1 (unwind_cons o rest above ▸ h)
      show closeGroup above (.operator o :: (rest.map Waiting.operator ++ waiting)) = _
      rw [closeGroup, hred]
      exact ih hrest

theorem closeAll_unwind (h : unwind ops above = .ok complete) :
    closeAll above (ops.map Waiting.operator ++ waiting) = closeAll complete waiting := by
  induction ops generalizing above with
  | nil =>
      cases h
      rfl
  | cons o rest ih =>
      obtain ⟨next, hred, hrest⟩ := bind_ok_iff.1 (unwind_cons o rest above ▸ h)
      show closeAll above (.operator o :: (rest.map Waiting.operator ++ waiting)) = _
      rw [closeAll, hred]
      exact ih hrest

/-- A binary operator after a phrase makes the phrase its left operand. -/
theorem Settles.pushBinary (h : Settles φ f complete waiting r) (hop : op ≠ .not)
    (hrank : op.rank ≤ φ.rank) (hfits : op.phrase.fits waiting) :
    r.pushBinary op = .ok ⟨f :: complete, .operator op :: waiting, true⟩ := by
  obtain ⟨above, ops, rfl, hops, hunwind⟩ := h
  rw [Reading.pushBinary,
    reduceWhile_unwind (fun o ho => Nat.le_trans hrank (hops o ho)) hunwind,
    reduceWhile_of_fits hop hfits]
  rfl

theorem Settles.step_and (h : Settles .conjunction f complete waiting r)
    (hfits : Phrase.conjunction.fits waiting) :
    step leaf r .and = .ok ⟨f :: complete, .operator .and :: waiting, true⟩ := by
  have hneeds : r.needsOperand = false := by
    obtain ⟨_, _, rfl, -⟩ := h
    rfl
  rw [step, if_neg (by simp [hneeds])]
  exact h.pushBinary (by decide) (Nat.le_refl _) hfits

theorem Settles.step_or (h : Settles .disjunction f complete waiting r)
    (hfits : Phrase.disjunction.fits waiting) :
    step leaf r .or = .ok ⟨f :: complete, .operator .or :: waiting, true⟩ := by
  have hneeds : r.needsOperand = false := by
    obtain ⟨_, _, rfl, -⟩ := h
    rfl
  rw [step, if_neg (by simp [hneeds])]
  exact h.pushBinary (by decide) (Nat.le_refl _) hfits

theorem Settles.step_closeGroup (h : Settles .disjunction f complete (.group :: waiting) r) :
    step leaf r .closeGroup = .ok ⟨f :: complete, waiting, false⟩ := by
  obtain ⟨above, ops, rfl, -, hunwind⟩ := h
  rw [step, if_neg (by simp), closeGroup_unwind hunwind]
  rfl

theorem settles_top (φ : Phrase) (f : Formula α) (complete : List (Formula α))
    (waiting : List Waiting) : Settles φ f complete waiting ⟨f :: complete, waiting, false⟩ :=
  ⟨f :: complete, [], rfl, by simp, rfl⟩

/-- **Every phrase of the grammar is read, and settles as its formula.** -/
theorem steps_of_derives {ts : List Token} {e : Tree} (h : Derives φ ts e) :
    ∀ (complete : List (Formula α)) (waiting : List Waiting), φ.fits waiting →
      (∀ t, .term t ∈ ts → leaf t = .ok (g t)) →
      ∃ r, steps leaf ⟨complete, waiting, true⟩ ts = .ok r ∧
        Settles φ (e.formula g) complete waiting r := by
  induction h with
  | term t =>
      intro complete waiting _ hleaf
      refine ⟨_, ?_, settles_top _ _ complete waiting⟩
      rw [steps_cons, step, hleaf t List.mem_cons_self]
      rfl
  | @group ts e _ ih =>
      intro complete waiting _ hleaf
      obtain ⟨r, hr, hsettles⟩ := ih complete (.group :: waiting) trivial
        fun t ht => hleaf t (by simp [ht])
      refine ⟨_, ?_, settles_top _ _ complete waiting⟩
      show steps leaf _ (.openGroup :: (ts ++ [.closeGroup])) = _
      rw [steps_cons]
      show steps leaf ⟨complete, .group :: waiting, true⟩ (ts ++ [.closeGroup]) = _
      rw [steps_append_of_ok hr, steps_cons_of_ok hsettles.step_closeGroup]
      rfl
  | primary _ ih =>
      intro complete waiting _ hleaf
      obtain ⟨r, hr, hsettles⟩ := ih complete waiting
        (Phrase.fits_primary waiting) hleaf
      exact ⟨r, hr, hsettles.lift (by decide)⟩
  | @not ts e _ ih =>
      intro complete waiting _ hleaf
      obtain ⟨r, hr, hsettles⟩ := ih complete (.operator .not :: waiting) (.inr rfl)
        fun t ht => hleaf t (List.mem_cons_of_mem _ ht)
      refine ⟨r, ?_, hsettles.reduce (by decide) rfl⟩
      rw [steps_cons]
      exact hr
  | negation _ ih =>
      intro complete waiting hfits hleaf
      obtain ⟨r, hr, hsettles⟩ := ih complete waiting (hfits.of_rank_le (by decide)) hleaf
      exact ⟨r, hr, hsettles.lift (by decide)⟩
  | @and ts us a b _ _ ihl ihr =>
      intro complete waiting hfits hleaf
      obtain ⟨r₁, hr₁, hleft⟩ := ihl complete waiting hfits fun t ht => hleaf t (by simp [ht])
      obtain ⟨r₂, hr₂, hright⟩ := ihr (a.formula g :: complete) (.operator .and :: waiting)
        (.inr rfl) fun t ht => hleaf t (by simp [ht])
      refine ⟨r₂, ?_, hright.reduce (by decide) rfl⟩
      rw [steps_append_of_ok hr₁, steps_cons_of_ok (hleft.step_and hfits)]
      exact hr₂
  | @implicitAnd ts us a b _ hb ihl ihr =>
      intro complete waiting hfits hleaf
      obtain ⟨r₁, hr₁, hleft⟩ := ihl complete waiting hfits fun t ht => hleaf t (by simp [ht])
      obtain ⟨r₂, hr₂, hright⟩ := ihr (a.formula g :: complete) (.operator .and :: waiting)
        (.inr rfl) fun t ht => hleaf t (by simp [ht])
      refine ⟨r₂, ?_, hright.reduce (by decide) rfl⟩
      obtain ⟨u, rest, rfl, hu⟩ := hb.startsOperand
      have hneeds : r₁.needsOperand = false := by
        obtain ⟨_, _, rfl, -⟩ := hleft
        rfl
      rw [steps_append_of_ok hr₁, steps_cons, step_of_startsOperand hneeds hu,
        hleft.step_and hfits]
      rw [steps_cons] at hr₂
      exact hr₂
  | conjunction _ ih =>
      intro complete waiting hfits hleaf
      obtain ⟨r, hr, hsettles⟩ := ih complete waiting (hfits.of_rank_le (by decide)) hleaf
      exact ⟨r, hr, hsettles.lift (by decide)⟩
  | @or ts us a b _ _ ihl ihr =>
      intro complete waiting hfits hleaf
      obtain ⟨r₁, hr₁, hleft⟩ := ihl complete waiting hfits fun t ht => hleaf t (by simp [ht])
      obtain ⟨r₂, hr₂, hright⟩ := ihr (a.formula g :: complete) (.operator .or :: waiting)
        (.inl (by decide)) fun t ht => hleaf t (by simp [ht])
      refine ⟨r₂, ?_, hright.reduce (by decide) rfl⟩
      rw [steps_append_of_ok hr₁, steps_cons_of_ok (hleft.step_or hfits)]
      exact hr₂

end Reading
end Triage.Query
