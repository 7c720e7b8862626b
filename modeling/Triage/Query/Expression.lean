/-
Expressions of the query language.

Terms are joined by `NOT`, `AND` and `OR`, of which the first binds tightest and the last loosest;
two operands next to each other are joined by an implicit `AND`, and parentheses group. An
expression is read in one pass with a stack of the formulas that are complete and a stack of the
operators that wait for their right operand. What a term means is up to the caller; terms are
looked at in the order in which they stand, and the first fault ends the reading.
-/
import Triage.Error
import Triage.Query.Formula
import Triage.Query.Token
namespace Triage.Query

/-- The operators of the language. -/
inductive Operator
  | not
  | and
  | or
  deriving Repr, DecidableEq

/-- Operators of higher rank bind tighter. -/
def Operator.rank : Operator → Nat
  | not => 3
  | and => 2
  | or => 1

/-- How an operator is written. -/
def Operator.text : Operator → String
  | not => "NOT"
  | and => "AND"
  | or => "OR"

/-- What waits on the stack of operators: an operator, or a parenthesis that is still open. -/
inductive Waiting
  | operator (op : Operator)
  | group
  deriving Repr, DecidableEq

/-- How a waiting entry is written. -/
def Waiting.text : Waiting → String
  | operator op => op.text
  | group => "("

/-- An expression under way: the complete formulas and the waiting operators, both the last one
first, and whether an operand has to come next. -/
structure Reading (α : Type) where
  complete : List (Formula α)
  waiting : List Waiting
  needsOperand : Bool

namespace Reading

variable {α : Type}

/-- Nothing has been read. -/
def start : Reading α := ⟨[], [], true⟩

/-- Applies an operator to the formulas that were completed last. -/
def reduce (op : Operator) (complete : List (Formula α)) : Except Error (List (Formula α)) :=
  match op, complete with
  | .not, f :: rest => .ok (.not f :: rest)
  | .and, right :: left :: rest => .ok (left.both right :: rest)
  | .or, right :: left :: rest => .ok (left.either right :: rest)
  | op, _ => .error (.query op.text .missingOperand)

/-- Applies the waiting operators that bind at least as tightly as a new one, back to the last
open parenthesis. -/
def reduceWhile (op : Operator) (complete : List (Formula α)) :
    List Waiting → Except Error (List (Formula α) × List Waiting)
  | .operator top :: waiting =>
    if top.rank < op.rank then .ok (complete, .operator top :: waiting)
    else do reduceWhile op (← reduce top complete) waiting
  | waiting => .ok (complete, waiting)

/-- Puts a binary operator on the stack. -/
def pushBinary (op : Operator) (r : Reading α) : Except Error (Reading α) := do
  let (complete, waiting) ← reduceWhile op r.complete r.waiting
  return { complete, waiting := .operator op :: waiting, needsOperand := true }

/-- Makes room for an operand: after another one, by an implicit `AND`. -/
def beforeOperand (r : Reading α) : Except Error (Reading α) :=
  if r.needsOperand then .ok r else r.pushBinary .and

/-- Applies the waiting operators back to the last open parenthesis, which is taken off. -/
def closeGroup (complete : List (Formula α)) :
    List Waiting → Except Error (List (Formula α) × List Waiting)
  | [] => .error (.query ")" .unbalancedParentheses)
  | .group :: waiting => .ok (complete, waiting)
  | .operator op :: waiting => do closeGroup (← reduce op complete) waiting

/-- Applies all waiting operators; a parenthesis among them was never closed. -/
def closeAll (complete : List (Formula α)) : List Waiting → Except Error (List (Formula α))
  | [] => .ok complete
  | .group :: _ => .error (.query "(" .unbalancedParentheses)
  | .operator op :: waiting => do closeAll (← reduce op complete) waiting

/-- Reads one token. -/
def step (leaf : Term → Except Error α) (r : Reading α) : Token → Except Error (Reading α)
  | .term term => do
    let r ← r.beforeOperand
    return { r with complete := .atom (← leaf term) :: r.complete, needsOperand := false }
  | .not => do
    let r ← r.beforeOperand
    return { r with waiting := .operator .not :: r.waiting, needsOperand := true }
  | .openGroup => do
    let r ← r.beforeOperand
    return { r with waiting := .group :: r.waiting, needsOperand := true }
  | .closeGroup =>
    if r.needsOperand then
      .error (.query ")"
        (if r.waiting.head? = some .group then .emptyParentheses else .nothingBeforeClose))
    else do
      let (complete, waiting) ← closeGroup r.complete r.waiting
      return { complete, waiting, needsOperand := false }
  | .and =>
    if r.needsOperand then .error (.query "AND" .missingLeftOperand) else r.pushBinary .and
  | .or =>
    if r.needsOperand then .error (.query "OR" .missingLeftOperand) else r.pushBinary .or

/-- The formula that was read, when all tokens of the query are. -/
def finish (query : String) (r : Reading α) : Except Error (Formula α) :=
  if r.needsOperand then
    .error (.query ((r.waiting.head?.map Waiting.text).getD "(") .endsWithoutOperand)
  else do
    match ← closeAll r.complete r.waiting with
    | [f] => .ok f
    | [] => .error (.query query .emptyExpression)
    | _ => .error (.query query .danglingOperands)

end Reading

/-- The formula that the tokens of a query make, given what its terms mean. -/
def formulaOf {α : Type} (leaf : Term → Except Error α) (query : String) (tokens : List Token) :
    Except Error (Formula α) := do
  (← tokens.foldlM (Reading.step leaf) Reading.start).finish query

end Triage.Query
