/-
What joined formulas mean.

Joining two formulas flattens: a side that is already a node of the same kind gives
up its members to the new node.  That changes the tree but not what it says, and
this file is the reason: the members of a side hold together exactly when the side
does.  Putting formulas in the place of conditions is as harmless, which is what
lets a formula over filters be read as one filter.
-/
import Triage.Query.Formula

namespace Triage.Formula

variable {α β : Type} {test : α → Bool}

instance : Inhabited (Formula α) := ⟨.all []⟩

/-! ### Members of a node -/

theorem holdsAll_append (l l' : List (Formula α)) :
    holdsAll test (l ++ l') = (holdsAll test l && holdsAll test l') := by
  induction l with
  | nil => simp [holdsAll]
  | cons member rest ih => simp [holdsAll, ih, Bool.and_assoc]

theorem holdsAny_append (l l' : List (Formula α)) :
    holdsAny test (l ++ l') = (holdsAny test l || holdsAny test l') := by
  induction l with
  | nil => simp [holdsAny]
  | cons member rest ih => simp [holdsAny, ih, Bool.or_assoc]

theorem holdsAll_conjuncts (f : Formula α) : holdsAll test f.conjuncts = f.holds test := by
  cases f <;> simp [conjuncts, holdsAll, holds]

theorem holdsAny_disjuncts (f : Formula α) : holdsAny test f.disjuncts = f.holds test := by
  cases f <;> simp [disjuncts, holdsAny, holds]

/-! ### Joining -/

@[simp] theorem holds_both (a b : Formula α) :
    (a.both b).holds test = (a.holds test && b.holds test) := by
  rw [both, holds, holdsAll_append, holdsAll_conjuncts, holdsAll_conjuncts]

@[simp] theorem holds_either (a b : Formula α) :
    (a.either b).holds test = (a.holds test || b.holds test) := by
  rw [either, holds, holdsAny_append, holdsAny_disjuncts, holdsAny_disjuncts]

/-! ### Putting formulas in the place of conditions -/

mutual

theorem holds_bind (test : β → Bool) (g : α → Formula β) :
    (f : Formula α) → (f.bind g).holds test = f.holds fun a => (g a).holds test
  | atom a => by rw [bind, holds]
  | all members => by rw [bind, holds, holds, holdsAll_bindEach]
  | any members => by rw [bind, holds, holds, holdsAny_bindEach]
  | not member => by rw [bind, holds, holds, holds_bind test g member]

theorem holdsAll_bindEach (test : β → Bool) (g : α → Formula β) :
    (l : List (Formula α)) →
      holdsAll test (bindEach g l) = holdsAll (fun a => (g a).holds test) l
  | [] => rfl
  | member :: rest => by
    rw [bindEach, holdsAll, holdsAll, holds_bind test g member, holdsAll_bindEach test g rest]

theorem holdsAny_bindEach (test : β → Bool) (g : α → Formula β) :
    (l : List (Formula α)) →
      holdsAny test (bindEach g l) = holdsAny (fun a => (g a).holds test) l
  | [] => rfl
  | member :: rest => by
    rw [bindEach, holdsAny, holdsAny, holds_bind test g member, holdsAny_bindEach test g rest]

end

theorem holds_flatten (test : α → Bool) (f : Formula (Formula α)) :
    f.flatten.holds test = f.holds fun a => a.holds test := by
  rw [flatten, holds_bind]
  rfl

end Triage.Formula
