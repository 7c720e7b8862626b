/-
What is left of a score that went through JSON.

Every score can be written.  Components that are not numbers cannot be read back, but a score that
is read back has the total it was written with.
-/
import Triage.Proofs.Json.Records
import Triage.Score.Json

namespace Triage

namespace Factors

theorem writable_numbersToJson (numbers : SortedMap Float) : (numbersToJson numbers).Writable :=
  Json.writable_obj fun m hm => by
    obtain ⟨entry, -, rfl⟩ := List.mem_map.1 hm
    exact Json.writable_ofFloat entry.2

theorem writable_toJson (f : Factors) : f.toJson.Writable :=
  Json.writable_obj fun m hm => by
    rcases List.mem_append.1 hm with hm | hm
    · obtain ⟨w, -, rfl⟩ := List.mem_map.1 hm
      exact Json.writable_ofFloat _
    · rw [List.mem_singleton.1 hm]
      exact writable_numbersToJson _

end Factors

namespace Score

theorem writable_toJson (s : Score) : s.toJson.Writable :=
  Json.writable_obj (by
    simp [Json.writable_ofNat, Factors.writable_numbersToJson, Factors.writable_toJson])

theorem isBracketed_toJson (s : Score) : s.toJson.IsBracketed := trivial

/-- A score that is read back has the same total. -/
theorem total_of_ofJson {s found : Score} (h : ofJson s.toJson = some found) :
    found.total = s.total := by
  rw [ofJson, toJson, Json.asRecord_obj (by simp)] at h
  simp only [Option.bind_eq_bind, Option.bind_some, Json.Record.required, List.lookup_cons,
    String.reduceBEq, Json.asNatBelow_ofNat s.total.toNat_lt] at h
  obtain ⟨components, -, h⟩ := Option.bind_eq_some_iff.1 h
  obtain ⟨factors, -, h⟩ := Option.bind_eq_some_iff.1 h
  cases h
  exact UInt8.ofNat_toNat

end Score

end Triage
