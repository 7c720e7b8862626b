/-
Formulas: conditions joined by and, or and not.

A formula is a tree over conditions of any kind. It is shown with parentheses around every node
that joins two or more formulas; a node that joins one is shown as that one. Joining two formulas
flattens: where a side is already a node of the same kind, its members are taken over.
-/
namespace Triage

/-- A tree of conditions. -/
inductive Formula (α : Type)
  | atom (a : α)
  | all (members : List (Formula α))
  | any (members : List (Formula α))
  | not (member : Formula α)
  deriving Repr

namespace Formula

variable {α β : Type}

/-! ### Meaning -/

mutual

/-- Whether the formula holds, given which conditions do. Joining nothing by and holds, joining
nothing by or does not. -/
def holds (test : α → Bool) : Formula α → Bool
  | atom a => test a
  | all members => holdsAll test members
  | any members => holdsAny test members
  | not member => !member.holds test

/-- Whether all of several formulas hold. -/
def holdsAll (test : α → Bool) : List (Formula α) → Bool
  | [] => true
  | member :: rest => member.holds test && holdsAll test rest

/-- Whether one of several formulas holds. -/
def holdsAny (test : α → Bool) : List (Formula α) → Bool
  | [] => false
  | member :: rest => member.holds test || holdsAny test rest

end

mutual

/-- Whether the formula holds, by tests that may have effects. Members are tested in order until
the result is known. -/
def check {m : Type → Type} [Monad m] (test : α → m Bool) : Formula α → m Bool
  | atom a => test a
  | all members => checkAll test members
  | any members => checkAny test members
  | not member => do return !(← member.check test)

/-- Tests several formulas up to the first that does not hold. -/
def checkAll {m : Type → Type} [Monad m] (test : α → m Bool) : List (Formula α) → m Bool
  | [] => pure true
  | member :: rest => do if ← member.check test then checkAll test rest else pure false

/-- Tests several formulas up to the first that holds. -/
def checkAny {m : Type → Type} [Monad m] (test : α → m Bool) : List (Formula α) → m Bool
  | [] => pure false
  | member :: rest => do if ← member.check test then pure true else checkAny test rest

end

mutual

theorem check_pure {m : Type → Type} [Monad m] [LawfulMonad m] (test : α → Bool) :
    (f : Formula α) → f.check (fun a => (pure (test a) : m Bool)) = pure (f.holds test)
  | atom a => by rw [check, holds]
  | all members => by rw [check, holds, checkAll_pure]
  | any members => by rw [check, holds, checkAny_pure]
  | not member => by rw [check, holds, check_pure test member]; simp

theorem checkAll_pure {m : Type → Type} [Monad m] [LawfulMonad m] (test : α → Bool) :
    (l : List (Formula α)) →
      checkAll (fun a => (pure (test a) : m Bool)) l = pure (holdsAll test l)
  | [] => rfl
  | member :: rest => by
    rw [checkAll, holdsAll, check_pure test member, checkAll_pure test rest]
    cases member.holds test <;> simp

theorem checkAny_pure {m : Type → Type} [Monad m] [LawfulMonad m] (test : α → Bool) :
    (l : List (Formula α)) →
      checkAny (fun a => (pure (test a) : m Bool)) l = pure (holdsAny test l)
  | [] => rfl
  | member :: rest => by
    rw [checkAny, holdsAny, check_pure test member, checkAny_pure test rest]
    cases member.holds test <;> simp

end

/-! ### Text -/

/-- Several texts joined by an operator. -/
def joined (operator nothing : String) : List String → String
  | [] => nothing
  | [text] => text
  | texts => "(" ++ String.intercalate (" " ++ operator ++ " ") texts ++ ")"

mutual

/-- The formula as text, given the text of its conditions. -/
def describe (text : α → String) : Formula α → String
  | atom a => text a
  | all members => joined "AND" "all" (describeEach text members)
  | any members => joined "OR" "none" (describeEach text members)
  | not member => "NOT " ++ member.describe text

/-- The text of each of several formulas. -/
def describeEach (text : α → String) : List (Formula α) → List String
  | [] => []
  | member :: rest => member.describe text :: describeEach text rest

end

/-! ### Building -/

mutual

/-- Puts formulas in the place of conditions. -/
def bind (f : α → Formula β) : Formula α → Formula β
  | atom a => f a
  | all members => all (bindEach f members)
  | any members => any (bindEach f members)
  | not member => not (member.bind f)

/-- Puts formulas in the place of the conditions of several formulas. -/
def bindEach (f : α → Formula β) : List (Formula α) → List (Formula β)
  | [] => []
  | member :: rest => member.bind f :: bindEach f rest

end

/-- A formula over formulas as one formula. -/
def flatten (f : Formula (Formula α)) : Formula α := f.bind id

/-- The members of a conjunction; any other formula is its own only member. -/
def conjuncts : Formula α → List (Formula α)
  | all members => members
  | f => [f]

/-- The members of a disjunction; any other formula is its own only member. -/
def disjuncts : Formula α → List (Formula α)
  | any members => members
  | f => [f]

/-- Both formulas, as one conjunction. -/
def both (a b : Formula α) : Formula α := all (a.conjuncts ++ b.conjuncts)

/-- Either formula, as one disjunction. -/
def either (a b : Formula α) : Formula α := any (a.disjuncts ++ b.disjuncts)

/-! ### Narrowing -/

mutual

/-- A key under which everything that the formula holds of can be found: that of a condition, or of
the first member of a conjunction that has one. Other formulas have none. -/
def key? {κ : Type} (key : α → Option κ) : Formula α → Option κ
  | atom a => key a
  | all members => firstKey? key members
  | any _ => none
  | not _ => none

/-- The first key that one of several formulas has. -/
def firstKey? {κ : Type} (key : α → Option κ) : List (Formula α) → Option κ
  | [] => none
  | member :: rest => (member.key? key).or (firstKey? key rest)

end

end Formula
end Triage
