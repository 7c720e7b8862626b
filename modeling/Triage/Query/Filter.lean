/-
From the text of a query to a filter.

A word that starts with `@` stands for a saved filter: its expression is read as a query of its own
and takes the place of the word as a whole. Names may lead to further names, but not back to one
that is being expanded. Each expansion leaves fewer saved names to expand, so that reading ends.
A blank query accepts everything.
-/
import Triage.Query.Expression
import Triage.Query.Term
import Triage.SortedMap
namespace Triage.Query

open Triage.Calendar Triage.Text

/-- What the meaning of a query depends on: the time, and the expressions of the saved filters if
there are any to refer to. -/
structure Context where
  now : Instant
  saved : Option (SortedMap String)

namespace Context

/-- The names of the saved filters. -/
def names (ctx : Context) : List String := (ctx.saved.map SortedMap.keys).getD []

/-- How many saved filters are not being expanded. -/
def unexpanded (ctx : Context) (chain : List String) : Nat :=
  ctx.names.countP fun name => !chain.contains name

theorem countP_lt_countP {l chain : List String} {name : String} (hmem : name ∈ l)
    (hnew : name ∉ chain) :
    l.countP (fun n => !(chain ++ [name]).contains n) < l.countP fun n => !chain.contains n := by
  have hle (l : List String) : l.countP (fun n => !(chain ++ [name]).contains n) ≤
      l.countP fun n => !chain.contains n :=
    List.countP_mono_left fun n _ hn => by
      simp only [Bool.not_eq_true', List.contains_eq_mem, decide_eq_false_iff_not,
        List.mem_append, not_or] at hn ⊢
      exact hn.1
  induction l with
  | nil => simp at hmem
  | cons first rest ih =>
    by_cases heq : first = name
    · subst heq
      have hrest := hle rest
      rw [List.countP_cons_of_neg (by simp), List.countP_cons_of_pos (by simpa using hnew)]
      omega
    · have hstep := ih ((List.mem_cons.1 hmem).resolve_left fun h => heq h.symm)
      by_cases hfirst : first ∈ chain
      · rw [List.countP_cons_of_neg (by simp [hfirst]), List.countP_cons_of_neg (by simpa using hfirst)]
        exact hstep
      · rw [List.countP_cons_of_pos (by simp [hfirst, heq]),
          List.countP_cons_of_pos (by simpa using hfirst)]
        omega

theorem mem_keys_of_get? {α : Type} {m : SortedMap α} {name : String} {value : α}
    (h : m.get? name = some value) : name ∈ m.keys := by
  rw [SortedMap.keys]
  unfold SortedMap.get? at h
  revert h
  generalize m.entries = l
  intro h
  induction l with
  | nil => simp at h
  | cons entry rest ih =>
    rw [List.lookup_cons] at h
    split at h
    · rename_i heq
      exact List.mem_map.2 ⟨entry, List.mem_cons_self, (beq_iff_eq.1 heq).symm⟩
    · exact List.mem_cons_of_mem _ (ih h)

/-- The expression of a saved filter that is reached through a chain of others. -/
def expand (ctx : Context) (chain : List String) (name : String) :
    Except Error { _expression : String //
      ctx.unexpanded (chain ++ [name]) < ctx.unexpanded chain } :=
  match hsaved : ctx.saved with
  | none => .error (.reference (.noStore name))
  | some saved =>
    if hchain : name ∈ chain then .error (.reference (.cycle name chain))
    else
      match hname : saved.get? name with
      | none => .error (.reference (.unknown name))
      | some expression =>
        .ok ⟨expression, countP_lt_countP
          (by rw [names, hsaved]; exact mem_keys_of_get? hname) hchain⟩

end Context

/-- The name that a word refers to. -/
def reference? (word : String) : Option String :=
  match word.toList with
  | '@' :: name => some (String.ofList name)
  | _ => none

/-- The filter that a term stands for, given those that names stand for. -/
def filterOfTerm (now : Instant) (named : String → Except Error Filter) :
    Term → Except Error Filter
  | .field key value => .atom <$> fieldPredicate now key value
  | .word word =>
    match reference? word with
    | some name => if name = "" then .error (.query "@" .missingFilterName) else named name
    | none => if word = "" then .error (.query word .emptyTerm) else .ok (.atom (.ofText word))

/-- The filter that a query stands for, given those that names stand for. -/
def filterWith (now : Instant) (named : String → Except Error Filter) (text : String) :
    Except Error Filter :=
  let query := trim text
  if query = "" then .ok (.atom .anything)
  else
    match tokens query with
    | .error fragment => .error (.query fragment .unterminatedQuote)
    | .ok tokens => do
      let formula ← formulaOf (filterOfTerm now named) query tokens
      return formula.flatten

/-- The filter that a query stands for within the expansion of a chain of saved filters. -/
def filterWithin (ctx : Context) (chain : List String) (text : String) : Except Error Filter :=
  filterWith ctx.now
    (fun name => do
      let expression ← ctx.expand chain name
      filterWithin ctx (chain ++ [name]) expression.1)
    text
termination_by ctx.unexpanded chain
decreasing_by exact expression.2

/-- The filter that a query stands for. -/
def filterOf (ctx : Context) (text : String) : Except Error Filter := filterWithin ctx [] text

end Triage.Query
