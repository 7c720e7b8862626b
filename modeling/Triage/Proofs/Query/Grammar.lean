/-
The grammar of expressions.

    disjunction ::= conjunction {'OR' conjunction}
    conjunction ::= negation {['AND'] negation}
    negation    ::= 'NOT' negation | primary
    primary     ::= term | '(' disjunction ')'

Nothing here knows how an expression is read.  `Derives` is the grammar as a
relation between a kind of phrase, the tokens of one such phrase and its parse
tree, and `Tree.value` says what a tree means once it is known which terms hold.
A repetition is taken from the left, so that the tree of a chain leans to the left.
-/
import Triage.Proofs.Query.Formula
import Triage.Query.Token

namespace Triage.Query

/-- A parse tree: terms joined by operators. -/
inductive Tree
  | term (t : Term)
  | not (member : Tree)
  | and (left right : Tree)
  | or (left right : Tree)

namespace Tree

/-- Whether a tree holds, given which terms do. -/
def value (test : Term → Bool) : Tree → Bool
  | term t => test t
  | not member => !member.value test
  | and left right => left.value test && right.value test
  | or left right => left.value test || right.value test

/-- The formula that joins what the terms of a tree stand for. -/
def formula {α : Type} (leaf : Term → α) : Tree → Formula α
  | term t => .atom (leaf t)
  | not member => .not (member.formula leaf)
  | and left right => (left.formula leaf).both (right.formula leaf)
  | or left right => (left.formula leaf).either (right.formula leaf)

theorem holds_formula {α : Type} (test : α → Bool) (leaf : Term → α) (e : Tree) :
    (e.formula leaf).holds test = e.value fun t => test (leaf t) := by
  induction e with
  | term t => rw [formula, value, Formula.holds]
  | not member ih => rw [formula, value, Formula.holds, ih]
  | and left right ihl ihr => rw [formula, value, Formula.holds_both, ihl, ihr]
  | or left right ihl ihr => rw [formula, value, Formula.holds_either, ihl, ihr]

end Tree

/-- The kinds of phrase. -/
inductive Phrase
  | primary
  | negation
  | conjunction
  | disjunction

/-- Phrases of higher rank bind tighter. -/
def Phrase.rank : Phrase → Nat
  | primary => 4
  | negation => 3
  | conjunction => 2
  | disjunction => 1

/-- The tokens of a phrase and its parse tree. -/
inductive Derives : Phrase → List Token → Tree → Prop
  | term (t : Term) : Derives .primary [.term t] (.term t)
  | group {ts : List Token} {e : Tree} (h : Derives .disjunction ts e) :
      Derives .primary (.openGroup :: ts ++ [.closeGroup]) e
  | primary {ts : List Token} {e : Tree} (h : Derives .primary ts e) : Derives .negation ts e
  | not {ts : List Token} {e : Tree} (h : Derives .negation ts e) :
      Derives .negation (.not :: ts) (.not e)
  | negation {ts : List Token} {e : Tree} (h : Derives .negation ts e) :
      Derives .conjunction ts e
  | and {ts us : List Token} {a b : Tree} (hl : Derives .conjunction ts a)
      (hr : Derives .negation us b) : Derives .conjunction (ts ++ .and :: us) (.and a b)
  | implicitAnd {ts us : List Token} {a b : Tree} (hl : Derives .conjunction ts a)
      (hr : Derives .negation us b) : Derives .conjunction (ts ++ us) (.and a b)
  | conjunction {ts : List Token} {e : Tree} (h : Derives .conjunction ts e) :
      Derives .disjunction ts e
  | or {ts us : List Token} {a b : Tree} (hl : Derives .disjunction ts a)
      (hr : Derives .conjunction us b) : Derives .disjunction (ts ++ .or :: us) (.or a b)

/-- A phrase that binds tighter is also one of any looser kind. -/
theorem Derives.lift {φ ψ : Phrase} {ts : List Token} {e : Tree} (h : Derives φ ts e)
    (hrank : ψ.rank ≤ φ.rank) : Derives ψ ts e := by
  cases φ <;> cases ψ <;> first
    | exact h
    | exact absurd hrank (by decide)
    | exact h.primary
    | exact h.negation
    | exact h.conjunction
    | exact h.primary.negation
    | exact h.negation.conjunction
    | exact h.primary.negation.conjunction

/-! ### Where a phrase may begin and end -/

/-- Whether an operand can begin with a token. -/
def Token.startsOperand : Token → Bool
  | .term _ | .not | .openGroup => true
  | .and | .or | .closeGroup => false

/-- Whether an operand can end with a token. -/
def Token.endsOperand : Token → Bool
  | .term _ | .closeGroup => true
  | .not | .and | .or | .openGroup => false

theorem Derives.startsOperand {φ : Phrase} {ts : List Token} {e : Tree} (h : Derives φ ts e) :
    ∃ t rest, ts = t :: rest ∧ t.startsOperand = true := by
  induction h with
  | term t => exact ⟨_, _, rfl, rfl⟩
  | group _ => exact ⟨_, _, rfl, rfl⟩
  | not _ => exact ⟨_, _, rfl, rfl⟩
  | primary _ ih | negation _ ih | conjunction _ ih => exact ih
  | and _ _ ih | implicitAnd _ _ ih | or _ _ ih =>
      obtain ⟨t, rest, rfl, ht⟩ := ih
      exact ⟨t, _, rfl, ht⟩

theorem Derives.endsOperand {φ : Phrase} {ts : List Token} {e : Tree} (h : Derives φ ts e) :
    ∃ rest t, ts = rest ++ [t] ∧ t.endsOperand = true := by
  induction h with
  | term t => exact ⟨[], _, rfl, rfl⟩
  | group _ => exact ⟨_, _, rfl, rfl⟩
  | primary _ ih | negation _ ih | conjunction _ ih => exact ih
  | @not ts _ _ ih =>
      obtain ⟨rest, t, rfl, ht⟩ := ih
      exact ⟨.not :: rest, t, rfl, ht⟩
  | @and ts _ _ _ _ _ _ ih | @or ts _ _ _ _ _ _ ih =>
      obtain ⟨rest, t, rfl, ht⟩ := ih
      exact ⟨ts ++ _ :: rest, t, (List.append_assoc ts (_ :: rest) [t]).symm, ht⟩
  | @implicitAnd ts _ _ _ _ _ _ ih =>
      obtain ⟨rest, t, rfl, ht⟩ := ih
      exact ⟨ts ++ rest, t, (List.append_assoc ..).symm, ht⟩

end Triage.Query
