/-
Which runs agree on their keys.

The key of a result tells notifications by the millisecond of their last change, that of a score by
the second.  Where either tells which notification is meant, the hashes tell apart what is hashed,
and a query has one meaning in all runs that ask it, at the one time of these runs or at all times,
runs with one key have one answer.
-/
import Triage.Proofs.Pipeline.Calls

namespace Triage

open Calendar Text

/-- In all runs a notification is told by its identifier and a mark of its last change. -/
def IdentifiedBy (mark : Instant → Int) (calls : List Call) : Prop :=
  ∀ c ∈ calls, ∀ c' ∈ calls, ∀ n ∈ c.list, ∀ n' ∈ c'.list,
    n.id = n'.id → mark n.updatedAt = mark n'.updatedAt → n = n'

/-- Runs over one list tell its notifications apart if their identifiers do. -/
theorem identifiedBy_of_list_eq {calls : List Call} {list : List Notification}
    (hlist : ∀ c ∈ calls, c.list = list)
    (hids : ∀ n ∈ list, ∀ n' ∈ list, n.id = n'.id → n = n') (mark : Instant → Int) :
    IdentifiedBy mark calls := by
  intro c hc c' hc' n hn n' hn' hid _
  exact hids n (hlist c hc ▸ hn) n' (hlist c' hc' ▸ hn') hid

theorem IdentifiedBy.of_subset {mark : Instant → Int} {calls some : List Call}
    (h : IdentifiedBy mark calls) (hsub : some ⊆ calls) : IdentifiedBy mark some :=
  fun c hc c' hc' => h c (hsub hc) c' (hsub hc')

/-- The hash tells the runs apart: it makes the same of two of them only if the same is hashed. -/
def HashedApart (calls : List Call) : Prop :=
  ∀ c ∈ calls, ∀ c' ∈ calls, c.fingerprint = c'.fingerprint → c.hashedBytes = c'.hashedBytes

instance (calls : List Call) : Decidable (HashedApart calls) :=
  inferInstanceAs (Decidable (∀ c ∈ calls, ∀ c' ∈ calls,
    c.fingerprint = c'.fingerprint → c.hashedBytes = c'.hashedBytes))

/-- Runs that do not sort by the same criteria are over notifications that are not mistaken for
criteria. -/
def CriteriaTold (calls : List Call) : Prop :=
  ∀ c ∈ calls, ∀ c' ∈ calls, c.pipeline.sorter.criteria = c'.pipeline.sorter.criteria ∨
    Pipeline.Delimited c.list ∧ Pipeline.Delimited c'.list

/-- A query stands for the same filter in another pipeline, and if it asks for scores they are
weighted alike. -/
structure Call.MeansAlike (c c' : Call) : Prop where
  filter : ∀ now, c.pipeline.filterOf now c.query = c'.pipeline.filterOf now c.query
  factors : c.AsksScores → c.pipeline.scorer.factors = c'.pipeline.scorer.factors

namespace Call

variable {c c' : Call} {start : Instant}

theorem filterOf_of_trim_eq (h : trim c.query = trim c'.query) (p : Pipeline) (now : Instant) :
    p.filterOf now c.query = p.filterOf now c'.query :=
  Query.filterOf_of_trim_eq h _

theorem Timeless.filterOf_eq (h : c.Timeless) (now : Instant) :
    c.pipeline.filterOf c.now c.query = c.pipeline.filterOf now c.query :=
  Query.Timeless.filterOf_eq h now

theorem Timeless.not_asksScores (h : c.Timeless) : ¬c.AsksScores :=
  fun ⟨_, hfilter, hscores⟩ => hscores (Query.Timeless.scoreless h hfilter)

/-- Runs of one query that means the same in both have one filter. -/
theorem filter_eq (hmeans : c.MeansAlike c') (hquery : trim c.query = trim c'.query)
    (hclock : c.now = start ∨ c.Timeless) (hclock' : c'.now = start ∨ c'.Timeless) :
    c.pipeline.filterOf c.now c.query = c'.pipeline.filterOf c'.now c'.query := by
  rw [← filterOf_of_trim_eq hquery]
  rcases hclock with hnow | htimeless
  · rcases hclock' with hnow' | htimeless'
    · rw [hnow, hnow', hmeans.filter]
    · calc
        c.pipeline.filterOf c.now c.query
          = c'.pipeline.filterOf c.now c.query := hmeans.filter c.now
        _ = c'.pipeline.filterOf c.now c'.query := filterOf_of_trim_eq hquery _ _
        _ = c'.pipeline.filterOf c'.now c'.query := (htimeless'.filterOf_eq c.now).symm
        _ = c'.pipeline.filterOf c'.now c.query := (filterOf_of_trim_eq hquery _ _).symm
  · rw [htimeless.filterOf_eq c'.now, hmeans.filter]

/-- Equal weights score a notification alike. -/
theorem totalOf_eq (hfactors : c.pipeline.scorer.factors = c'.pipeline.scorer.factors)
    (hnow : c.now = c'.now) (n : Notification) :
    c.pipeline.totalOf c.now n = c'.pipeline.totalOf c'.now n := by
  rw [Pipeline.totalOf, Pipeline.totalOf, Scorer.compute, Scorer.compute, hfactors, hnow]

end Call

/-- Notifications that are told by their marks are the same if the marks are. -/
theorem Pipeline.eq_of_marks_eq {list list' : List Notification}
    (h : ∀ n ∈ list, ∀ n' ∈ list', n.id = n'.id →
      n.updatedAt.toMillis = n'.updatedAt.toMillis → n = n')
    (hmarks : marks list = marks list') : list = list' := by
  induction list generalizing list' with
  | nil => exact (List.map_eq_nil_iff.1 hmarks.symm).symm
  | cons n rest ih =>
      cases list' with
      | nil => cases hmarks
      | cons n' rest' =>
          obtain ⟨hmark, hrest⟩ := List.cons.inj hmarks
          obtain ⟨hid, hmillis⟩ := Prod.mk.inj hmark
          rw [h n List.mem_cons_self n' List.mem_cons_self hid hmillis,
            ih (fun a ha a' ha' => h a (List.mem_cons_of_mem _ ha) a' (List.mem_cons_of_mem _ ha'))
              hrest]

/-- A single run agrees with itself. -/
theorem agree_singleton {c : Call} (htime : c.InTime) (hproper : ∀ n ∈ c.list, n.Proper)
    (hseconds : IdentifiedBy Instant.seconds [c]) : Agree [c] where
  inTime := by simpa using htime
  proper := by simpa using hproper
  results c₁ h₁ c₂ h₂ _ := by rw [List.mem_singleton.1 h₁, List.mem_singleton.1 h₂]
  scores c₁ h₁ c₂ h₂ _ _ n hn n' hn' hkey := by
    obtain ⟨-, hid, hsecond⟩ := Scorer.cacheKey_inj hkey
    rw [hseconds c₁ h₁ c₂ h₂ n hn n' hn' hid hsecond, List.mem_singleton.1 h₁,
      List.mem_singleton.1 h₂]

variable {calls : List Call} {start : Instant}

/-- **Runs agree on their keys** where notifications are told apart and queries have one meaning. -/
theorem agree_of_meansAlike (hproper : ∀ c ∈ calls, ∀ n ∈ c.list, n.Proper)
    (htime : ∀ c ∈ calls, c.InTime) (hseconds : IdentifiedBy Instant.seconds calls)
    (hmillis : IdentifiedBy Instant.toMillis calls)
    (hclock : ∀ c ∈ calls, c.now = start ∨ c.Timeless)
    (happart : HashedApart calls) (hcriteria : CriteriaTold calls)
    (hmeans : ∀ c ∈ calls, ∀ c' ∈ calls, trim c.query = trim c'.query → c.MeansAlike c')
    (hweights : ∀ c ∈ calls, ∀ c' ∈ calls,
      c.pipeline.scorer.fingerprint = c'.pipeline.scorer.fingerprint →
        c.pipeline.scorer.factors = c'.pipeline.scorer.factors) : Agree calls where
  inTime := htime
  proper := hproper
  results c hc c' hc' hkey := by
    have hbytes := happart c hc c' hc' (Pipeline.hash_eq_of_cacheKey_eq hkey)
    obtain ⟨hquery, hcriteria, hmarks⟩ := Pipeline.hashedBytes_inj (hproper c hc) (hproper c' hc')
      (hcriteria c hc c' hc') hbytes
    have hlist : c.list = c'.list := Pipeline.eq_of_marks_eq (hmillis c hc c' hc') hmarks
    have hfilter := Call.filter_eq (hmeans c hc c' hc' hquery) hquery (hclock c hc) (hclock c' hc')
    cases hok : c.pipeline.filterOf c.now c.query with
    | error fault =>
        rw [Call.answer, Call.answer, Pipeline.answer_of_error hok,
          Pipeline.answer_of_error (hfilter ▸ hok)]
    | ok filter =>
        have haccepts : filter.accepts (c.pipeline.totalOf c.now) =
            filter.accepts (c'.pipeline.totalOf c'.now) := by
          funext n
          by_cases hscoreless : filter.Scoreless
          · exact hscoreless.accepts_eq _ _ n
          · -- a query with a condition on scores is not timeless, so both runs are at the one time
            have hasks : c.AsksScores := ⟨filter, hok, hscoreless⟩
            have hasks' : c'.AsksScores := ⟨filter, hfilter ▸ hok, hscoreless⟩
            have hnow := (hclock c hc).resolve_right fun h => h.not_asksScores hasks
            have hnow' := (hclock c' hc').resolve_right fun h => h.not_asksScores hasks'
            have htotal := Call.totalOf_eq ((hmeans c hc c' hc' hquery).factors hasks)
              (hnow.trans hnow'.symm)
            rw [funext htotal]
        rw [Call.answer, Call.answer, Pipeline.answer_of_ok hok,
          Pipeline.answer_of_ok (hfilter ▸ hok), haccepts, hlist, Sorter.sort_congr hcriteria]
  scores c hc c' hc' hasks hasks' n hn n' hn' hkey := by
    obtain ⟨hweight, hid, hsecond⟩ := Scorer.cacheKey_inj hkey
    have hnow := (hclock c hc).resolve_right fun h => h.not_asksScores hasks
    have hnow' := (hclock c' hc').resolve_right fun h => h.not_asksScores hasks'
    rw [hseconds c hc c' hc' n hn n' hn' hid hsecond]
    exact Call.totalOf_eq (hweights c hc c' hc' hweight) (hnow.trans hnow'.symm) n'

end Triage
