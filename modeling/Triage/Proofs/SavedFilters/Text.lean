/-
The file of saved filters is read back as it was written.

Expressions and descriptions may be any texts and names any names; only the times have to be those
of the calendar.  Times that were read are, so filters that were loaded can always be written.
-/
import Triage.Proofs.Json.Pretty
import Triage.Proofs.Notification
import Triage.Proofs.SortedMap
import Triage.SavedFilters

namespace Triage

open Calendar Json.Record

/-! ### One filter -/

namespace SavedFilter

variable {f : SavedFilter}

theorem ofJson_toJson (h : f.createdAt.isValid = true) : ofJson f.toJson = some f := by
  rw [ofJson, toJson, Json.asRecord_obj (by simp), Option.bind_eq_bind, Option.bind_some]
  refine required_bind rfl (Json.asString_str _) ?_
  refine optional_bind rfl (Notification.asOption_asString_ofOption _) ?_
  exact required_bind rfl (Instant.ofJson_toJson h) rfl

theorem isValid_of_ofJson {json : Json} (h : ofJson json = some f) :
    f.createdAt.isValid = true := by
  obtain ⟨r, -, h⟩ := Option.bind_eq_some_iff.1 h
  obtain ⟨expression, -, h⟩ := Option.bind_eq_some_iff.1 h
  obtain ⟨description, -, h⟩ := Option.bind_eq_some_iff.1 h
  obtain ⟨createdAt, hcreated, h⟩ := Option.bind_eq_some_iff.1 h
  cases h
  obtain ⟨_, -, hcreated⟩ := Option.bind_eq_some_iff.1 hcreated
  exact Instant.isValid_of_ofJson hcreated

theorem writable_toJson (f : SavedFilter) : f.toJson.Writable := by
  have htime : f.createdAt.toJson.Writable := Json.writable_str _
  exact Json.writable_obj (by
    simp [Json.writable_str, Json.writable_ofOption Json.writable_str, htime])

end SavedFilter

/-! ### All of them -/

namespace Json

variable {α : Type} {encode : α → Json} {decode : Json → Option α}

theorem asMembers_obj {l : List (String × α)} (h : ∀ e ∈ l, decode (encode e.2) = some e.2) :
    asMembers decode (obj (l.map fun e => (e.1, encode e.2))) = some l := by
  unfold asMembers obj
  induction l with
  | nil => rfl
  | cons e rest ih =>
      have hrest := ih fun e he => h e (List.mem_cons_of_mem _ he)
      simp only [List.map_cons, List.mapM_cons, hrest, h e List.mem_cons_self]
      rfl

theorem exists_of_mem_asMembers {json : Json} {l : List (String × α)}
    (h : asMembers decode json = some l) {e : String × α} (he : e ∈ l) :
    ∃ item, decode item = some e.2 := by
  cases json with
  | object members =>
      simp only [asMembers] at h
      induction members generalizing l with
      | nil =>
          cases h
          cases he
      | cons member rest ih =>
          rw [List.mapM_cons] at h
          obtain ⟨first, hfirst, h⟩ := Option.bind_eq_some_iff.1 h
          obtain ⟨others, hothers, h⟩ := Option.bind_eq_some_iff.1 h
          cases h
          rcases List.mem_cons.1 he with rfl | he
          · obtain ⟨name, -, hfirst⟩ := Option.bind_eq_some_iff.1 hfirst
            obtain ⟨a, ha, hfirst⟩ := Option.bind_eq_some_iff.1 hfirst
            cases hfirst
            exact ⟨_, ha⟩
          · exact ih he hothers
  | _ => cases h

end Json

namespace SavedFilters

variable {filters : SavedFilters} {text : String}

/-- The times at which filters were saved are those of the calendar. -/
def Dated (filters : SavedFilters) : Prop :=
  ∀ name f, filters.get? name = some f → f.createdAt.isValid = true

theorem dated_empty : Dated .empty := nofun

theorem Dated.insert (h : filters.Dated) {name : String} {f : SavedFilter}
    (hf : f.createdAt.isValid = true) : Dated (filters.insert name f) := by
  intro other g hg
  rw [SortedMap.get?_insert] at hg
  split at hg
  · cases hg
    exact hf
  · exact h other g hg

theorem Dated.erase (h : filters.Dated) (name : String) : Dated (filters.erase name) := by
  intro other g hg
  rw [SortedMap.get?_erase] at hg
  split at hg
  · cases hg
  · exact h other g hg

theorem ofJson_toJson (h : filters.Dated) : ofJson filters.toJson = some filters := by
  have hmembers : Json.asMembers SavedFilter.ofJson
      (.obj (filters.toList.map fun e => (e.1, e.2.toJson))) = some filters.toList :=
    Json.asMembers_obj fun e he =>
      SavedFilter.ofJson_toJson (h e.1 e.2 (SortedMap.mem_toList_iff.1 he))
  rw [ofJson, toJson, Json.asRecord_obj (by simp), Option.bind_eq_bind, Option.bind_some]
  show (Json.asMembers SavedFilter.ofJson _).map SortedMap.ofList = some filters
  rw [hmembers, Option.map_some, SortedMap.ofList_toList]

theorem writable_toJson (filters : SavedFilters) : filters.toJson.Writable := by
  have hmembers : (Json.obj (filters.toList.map fun e => (e.1, e.2.toJson))).Writable :=
    Json.writable_obj fun m hm => by
      obtain ⟨e, -, rfl⟩ := List.mem_map.1 hm
      exact e.2.writable_toJson
  exact Json.writable_obj (by simpa using hmembers)

/-- **Saved filters are read back from the text of their file.** -/
theorem ofText_toText (h : filters.Dated) : ofText filters.toText = .ok filters := by
  rw [ofText, toText, Json.read?_pretty (writable_toJson filters), Option.bind_some,
    ofJson_toJson h]

/-- Filters that were read have times of the calendar. -/
theorem dated_of_ofText (h : ofText text = .ok filters) : filters.Dated := by
  unfold ofText at h
  split at h
  · rename_i found hread
    cases h
    obtain ⟨json, -, hjson⟩ := Option.bind_eq_some_iff.1 hread
    obtain ⟨r, -, hjson⟩ := Option.bind_eq_some_iff.1 hjson
    obtain ⟨members, -, hmembers⟩ := Option.bind_eq_some_iff.1 hjson
    obtain ⟨l, hl, rfl⟩ := Option.map_eq_some_iff.1 hmembers
    intro name f hf
    obtain ⟨item, hitem⟩ := Json.exists_of_mem_asMembers hl (SortedMap.mem_of_get?_ofList hf)
    exact SavedFilter.isValid_of_ofJson hitem
  · cases h

end SavedFilters

end Triage
