/-
Fetch parameters and terms of a query.

What is fetched may be limited to unread notifications, to one repository or to those in which the
reader takes part, and a query has terms for all three.  It makes no difference which of the two is
used: a query over what was fetched with parameters gives the same list as the query, in
parentheses and followed by the terms, over all notifications.  Parameters look at plain fields; the
terms come by way of the reader, of patterns and of the index.
-/
import Triage.Proofs.Pipeline.Kept
import Triage.Proofs.Query.Meaning

namespace Triage

open Calendar Text Query

namespace FetchParameters

/-- The query followed by terms for what the parameters ask for. -/
def restrict (p : FetchParameters) (query : String) : String :=
  "(" ++ query ++ ")" ++ (if p.unreadOnly then " is:unread" else "") ++
    (p.repository.elim "" fun name => " repo:\"" ++ name ++ "\"") ++
    if p.participating then " NOT reason:subscribed" else ""

/-- The name of a repository that a term in quotes can ask for. -/
def IsQuotable (name : String) : Prop := name ≠ "" ∧ '"' ∉ name.toList ∧ Glob.isLiteral name = true

instance (name : String) : Decidable (IsQuotable name) :=
  inferInstanceAs (Decidable (name ≠ "" ∧ '"' ∉ name.toList ∧ Glob.isLiteral name = true))

variable {ctx : Context} {chain : List String} {leaf : Term → Except Error Filter}
  {text other query : String} {f g : Filter} {p : FetchParameters}

/-! ### What the terms say -/

theorem accepts_both (score : Notification → UInt8) (n : Notification) :
    Filter.accepts (f.both g) score n = (f.accepts score n && g.accepts score n) :=
  Formula.holds_both f g

/-- A query that may be followed by a further term. -/
theorem exists_tells_followed (asked : Bool) (h : Tells leaf .conjunction text f)
    (hother : Tells leaf .negation other g) :
    ∃ f', Tells leaf .conjunction (text ++ if asked then " " ++ other else "") f' ∧
      ∀ score n, f'.accepts score n = (f.accepts score n && (!asked || g.accepts score n)) := by
  cases asked with
  | false => exact ⟨f, by simpa using h, fun score n => by simp⟩
  | true =>
      refine ⟨f.both g, ?_, accepts_both⟩
      rw [if_pos rfl, ← String.append_assoc]
      exact h.implicitAnd hother

theorem tells_unreadTerm :
    Tells (termFilter ctx chain) .negation "is:unread" (.atom (.unread true)) :=
  (tells_of_field "is" "unread" (by decide) (by decide) rfl).lift (by decide)

theorem tells_notSubscribedTerm : Tells (termFilter ctx chain) .negation "NOT reason:subscribed"
    (.not (.atom (.reason "subscribed"))) :=
  have hreason := tells_of_field "reason" "subscribed" (by decide) (by decide) rfl
  (hreason.lift (by decide)).not

/-- The term for a repository says what the parameter does. -/
theorem exists_tells_repository {name : String} (h : IsQuotable name) :
    ∃ p : Predicate, Tells (termFilter ctx chain) .negation ("repo:\"" ++ name ++ "\"") (.atom p) ∧
      ∀ score n, p.holds score n = eqIgnoreCase n.repo name := by
  obtain ⟨hne, hquote, hliteral⟩ := h
  have hglob : Glob.ofText name = .ok ⟨name, name.toList.map .char⟩ := by
    rw [Glob.ofText, Glob.readItems_of_isPlain (Glob.isPlain_of_isLiteral hliteral)]
    rfl
  have hfield : fieldPredicate ctx.now "repo" name =
      .ok (.repository ⟨name, name.toList.map .char⟩) := by
    rw [fieldPredicate, if_neg hne]
    exact Predicate.ofRepository_ok_iff.2 ⟨_, hglob, rfl⟩
  refine ⟨_, (tells_of_quotedField "repo" name (by decide) hquote hfield).lift (by decide), ?_⟩
  intro score n
  rw [Bool.eq_iff_iff, eqIgnoreCase_iff]
  exact Glob.isMatch_iff hglob hliteral n.repo

theorem exists_tells_named (repository : Option String)
    (hname : ∀ name ∈ repository, IsQuotable name)
    (h : Tells (termFilter ctx chain) .conjunction text f) :
    ∃ f', Tells (termFilter ctx chain) .conjunction
        (text ++ repository.elim "" fun name => " repo:\"" ++ name ++ "\"") f' ∧
      ∀ score n, f'.accepts score n =
        (f.accepts score n && repository.all (eqIgnoreCase n.repo ·)) := by
  cases repository with
  | none => exact ⟨f, by simpa using h, fun score n => by simp⟩
  | some name =>
      obtain ⟨p, hp, hholds⟩ := exists_tells_repository (hname name rfl)
      refine ⟨f.both (.atom p), ?_, fun score n => ?_⟩
      · have htext : text ++ (" repo:\"" ++ name ++ "\"") =
            text ++ " " ++ ("repo:\"" ++ name ++ "\"") := String.toList_inj.1 (by simp)
        rw [Option.elim_some, htext]
        exact h.implicitAnd hp
      · rw [accepts_both]
        exact congrArg _ (hholds score n)

theorem name_beq_subscribed (r : Reason) : (r.name == "subscribed") = (r == .subscribed) := by
  cases r <;> decide

/-- A query that says something says, followed by the terms, that and what the parameters ask
for. -/
theorem exists_tells_restrict (hname : ∀ name ∈ p.repository, IsQuotable name)
    (h : Tells (termFilter ctx chain) .disjunction query f) :
    ∃ f', Tells (termFilter ctx chain) .conjunction (p.restrict query) f' ∧
      ∀ score n, f'.accepts score n = (f.accepts score n && p.accepts n) := by
  obtain ⟨f₁, h₁, hunread⟩ :=
    exists_tells_followed p.unreadOnly (h.group.lift (by decide)) tells_unreadTerm
  obtain ⟨f₂, h₂, hrepository⟩ := exists_tells_named p.repository hname h₁
  obtain ⟨f₃, h₃, hreason⟩ := exists_tells_followed p.participating h₂ tells_notSubscribedTerm
  refine ⟨f₃, h₃, fun score n => ?_⟩
  have hsubscribed : Filter.accepts (.not (.atom (.reason "subscribed"))) score n =
      !(n.reason == .subscribed) := by rw [← name_beq_subscribed]; rfl
  have hstate : Filter.accepts (.atom (.unread true)) score n = n.unread := by
    show (n.unread == true) = n.unread
    rw [beq_true]
  rw [hreason, hrepository, hunread, hsubscribed, hstate, accepts, Bool.not_and]
  simp only [Bool.and_assoc]

end FetchParameters

namespace Pipeline

variable {p : Pipeline} {timing : Timing} {now : Instant} {query : String} {filter : Filter}
  {list : List Notification}

/-- Without a cache, a run in time gives what its filter accepts. -/
theorem run_none_of_ok (h : p.filterOf now query = .ok filter)
    (htime : p.InTime timing now query list) :
    ((p.run timing now query list).run none).1 =
      .ok (p.sorter.sort (list.filter (filter.accepts (p.totalOf now)))) := by
  rw [run_none, plainResult_eq_answer htime, answer_of_ok h]

/-- **Parameters and terms agree.**  Without a cache and in time, a query over what is fetched with
parameters gives the same list as the query with the terms for them over all notifications: what the
parameters and the query both accept, sorted. -/
theorem fetch_agrees_with_terms (p : Pipeline) (timing timing' : Timing) (now : Instant)
    (query : String) (filter : Filter) (parameters : FetchParameters) (list : List Notification)
    (hblank : trim query ≠ "") (hquery : p.filterOf now query = .ok filter)
    (hname : ∀ name ∈ parameters.repository, FetchParameters.IsQuotable name)
    (htime : p.InTime timing now query (list.filter parameters.accepts))
    (htime' : p.InTime timing' now (parameters.restrict query) list) :
    let result := p.sorter.sort
      ((list.filter parameters.accepts).filter (filter.accepts (p.totalOf now)))
    ((p.fetchAndRun timing now query (.list list) parameters).run none).1 = .ok result ∧
      ((p.run timing' now (parameters.restrict query) list).run none).1 = .ok result := by
  intro result
  obtain ⟨g, htells, hg⟩ :=
    FetchParameters.exists_tells_restrict hname (tells_of_filterWithin hblank hquery)
  obtain ⟨filter', hfilter', haccepts⟩ := (htells.lift (by decide)).exists_filter
  have hsame : list.filter (filter'.accepts (p.totalOf now)) =
      (list.filter parameters.accepts).filter (filter.accepts (p.totalOf now)) := by
    rw [List.filter_filter]
    refine List.filter_congr fun n _ => ?_
    rw [haccepts, hg]
  refine ⟨run_none_of_ok hquery htime, ?_⟩
  rw [run_none_of_ok hfilter' htime', hsame]

/-- Alternatives stay together in front of the terms, so that what is read stays out and what has the
word stays in. -/
theorem fetch_agrees_with_terms_alternatives :
    let p := Pipeline.initial none
    let query := "is:read OR hello"
    let parameters : FetchParameters := ⟨true, some "Octo/Hello", true⟩
    let record (id repo : String) (unread : Bool) : Notification :=
      .build id repo (.ofText "Issue") "" .mention unread ⟨0, 0⟩
    let list := [record "1" "octo/hello" true, record "2" "octo/world" true,
      record "3" "octo/hello" false]
    parameters.restrict query =
        "(is:read OR hello) is:unread repo:\"Octo/Hello\" NOT reason:subscribed" ∧
      trim query ≠ "" ∧
      p.filterOf ⟨0, 0⟩ query = .ok (.any [.atom (.unread false), .atom (.ofText "hello")]) ∧
      (∀ name ∈ parameters.repository, FetchParameters.IsQuotable name) ∧
      p.InTime .still ⟨0, 0⟩ query (list.filter parameters.accepts) ∧
      p.InTime .still ⟨0, 0⟩ (parameters.restrict query) list ∧
      ((p.fetchAndRun .still ⟨0, 0⟩ query (.list list) parameters).run none).1 =
        .ok [record "1" "octo/hello" true] ∧
      ((p.run .still ⟨0, 0⟩ (parameters.restrict query) list).run none).1 =
        .ok [record "1" "octo/hello" true] := by
  intro p query parameters record list
  have hblank : trim query ≠ "" := by decide
  have hquery : p.filterOf ⟨0, 0⟩ query =
      .ok (.any [.atom (.unread false), .atom (.ofText "hello")]) := by
    have htokens : tokens (trim "is:read OR hello") =
        .ok [.term (.field "is" "read"), .or, .term (.word "hello")] := by rfl
    rw [filterOf, Query.filterOf, filterWithin_of_tokens hblank htokens]
    rfl
  have hname : ∀ name ∈ parameters.repository, FetchParameters.IsQuotable name := by
    rintro _ ⟨⟩
    decide
  have htime := inTime_still (p := p) (by decide) ⟨0, 0⟩ query (list.filter parameters.accepts)
  have htime' := inTime_still (p := p) (by decide) ⟨0, 0⟩ (parameters.restrict query) list
  obtain ⟨hfetched, hrun⟩ := fetch_agrees_with_terms p .still .still _ query _ parameters list hblank
    hquery hname htime htime'
  have hkept : (list.filter parameters.accepts).filter
      (Filter.accepts (.any [.atom (.unread false), .atom (.ofText "hello")]) (p.totalOf ⟨0, 0⟩)) =
        [record "1" "octo/hello" true] := by decide +kernel
  rw [hkept] at hfetched hrun
  exact ⟨by decide +kernel, hblank, hquery, hname, htime, htime', hfetched, hrun⟩

end Pipeline

end Triage
