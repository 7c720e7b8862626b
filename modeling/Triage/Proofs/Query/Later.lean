/-
What can be read once can be read later.

The clock bears on reading only where a term asks for a span of time before now: the span must not
reach back beyond the calendar.  As time goes on it does so less and less.
-/
import Triage.Proofs.Calendar.Clock
import Triage.Proofs.Query.Reference

namespace Triage.Query

open Calendar

variable {now now' : Instant} {text : String} {f : Filter}

theorem cutoff_later (hclock : now.Forward now') {cs : List Char} {t : Instant}
    (h : cutoff now cs = .ok t) : ∃ t', cutoff now' cs = .ok t' := by
  unfold cutoff at h ⊢
  split at h
  · rename_i n _
    split at h
    · rename_i hbefore
      obtain ⟨t', ht'⟩ := hclock.minusSeconds? hbefore
      exact ⟨t', by simp [ht']⟩
    · cases h
  · cases h
  · exact ⟨t, h⟩

theorem window_later (hclock : now.Forward now') {value : String} {w : Window}
    (h : window now value = .ok w) : ∃ w', window now' value = .ok w' := by
  unfold window at h ⊢
  split at h
  all_goals
    obtain ⟨t, ht, -⟩ := bind_ok_iff.1 h
    obtain ⟨t', ht'⟩ := cutoff_later hclock ht
    exact ⟨_, by rw [ht']; rfl⟩

theorem fieldPredicate_later (hclock : now.Forward now') {key value : String} {p : Predicate}
    (h : fieldPredicate now key value = .ok p) : ∃ p', fieldPredicate now' key value = .ok p' := by
  unfold fieldPredicate at h ⊢
  split at h
  · cases h
  · rename_i hvalue
    rw [if_neg hvalue]
    cases hkey : Key.ofText key with
    | updated =>
        simp only [hkey] at h ⊢
        split at h
        · rename_i hwindow
          obtain ⟨w', hw'⟩ := window_later hclock hwindow
          exact ⟨_, by rw [hw']⟩
        · cases h
    | status | repository | organization | type | reason | score | field =>
        simp only [hkey] at h ⊢
        exact ⟨p, h⟩

theorem filterOfTerm_later (hclock : now.Forward now') {named named' : String → Except Error Filter}
    (hnamed : ∀ name g, named name = .ok g → ∃ g', named' name = .ok g') {t : Term}
    (h : filterOfTerm now named t = .ok f) : ∃ g, filterOfTerm now' named' t = .ok g := by
  rcases @filterOfTerm_of_ok _ _ named' _ _ h with ⟨word, name, rfl, hword, hname, -⟩ | hok
  · rw [filterOfTerm_reference hword hname] at h
    obtain ⟨g, hg⟩ := hnamed name f h
    exact ⟨g, (filterOfTerm_reference hword hname).trans hg⟩
  · cases t with
    | word word => exact ⟨f, hok⟩
    | field key value =>
        obtain ⟨p, hp, -⟩ := bind_ok_iff.1 ((map_eq_pure_bind _ _).symm.trans hok)
        obtain ⟨p', hp'⟩ := fieldPredicate_later hclock hp
        exact ⟨.atom p', by rw [filterOfTerm, hp']; rfl⟩

/-- A query is read where all its terms are. -/
theorem filterWith_of_terms {named named' : String → Except Error Filter}
    (h : filterWith now named text = .ok f)
    (hterm : ∀ t g, filterOfTerm now named t = .ok g → ∃ g', filterOfTerm now' named' t = .ok g') :
    ∃ g, filterWith now' named' text = .ok g := by
  by_cases hblank : Text.trim text = ""
  · exact ⟨_, by rw [filterWith, if_pos hblank]⟩
  · obtain ⟨ts, formula, hts, hformula, -⟩ := filterWith_ok hblank h
    obtain ⟨e, he⟩ := derives_of_formulaOf hformula
    rcases @formulaOf_of_grammar _ (filterOfTerm now' named') (Text.trim text) _ _ _ he with
      ⟨g, hg⟩ | ⟨t, fault, ht, hleaf, -⟩
    · exact ⟨g.flatten, by rw [filterWith_of_tokens hblank hts, hg]; rfl⟩
    · obtain ⟨g, hg⟩ := leaf_ok_of_formulaOf hformula ht
      obtain ⟨g', hg'⟩ := hterm t g hg
      rw [hg'] at hleaf
      cases hleaf

/-- A query that is read within a chain of saved filters is read there later too. -/
theorem filterWithin_later (hclock : now.Forward now') (saved : Option (SortedMap String))
    (chain : List String) : ∀ text f, filterWithin ⟨now, saved⟩ chain text = .ok f →
      ∃ g, filterWithin ⟨now', saved⟩ chain text = .ok g := by
  induction chain using (Context.mk now saved).expansion_induction with
  | step chain ih =>
      intro text f h
      rw [filterWithin] at h ⊢
      refine filterWith_of_terms h fun t g ht => filterOfTerm_later hclock ?_ ht
      intro name g hname
      obtain ⟨e, he, hg⟩ := bind_ok_iff.1 hname
      obtain ⟨g', hg'⟩ := ih name e he e.1 g hg
      exact ⟨g', bind_ok_iff.2 ⟨e, he, hg'⟩⟩

/-- **What is read once is read later.** -/
theorem filterOf_later (hclock : now.Forward now') {saved : Option (SortedMap String)}
    (h : filterOf ⟨now, saved⟩ text = .ok f) : ∃ g, filterOf ⟨now', saved⟩ text = .ok g :=
  filterWithin_later hclock saved [] text f h

end Triage.Query
