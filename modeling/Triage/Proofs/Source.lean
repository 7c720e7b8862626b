/-
Notifications from a file and notifications at hand.

A list of notifications that some text is read as is written and read back as it is.  A file
with the written list is therefore as good a source as the list itself: whatever is asked
for, both give the same notifications in the same order.
-/
import Triage.Proofs.Notification

namespace Triage

namespace Notification

variable {text : String} {list : List Notification}

theorem proper_of_readList? (h : readList? text = some list) : ∀ n ∈ list, n.Proper := by
  obtain ⟨json, -, hjson⟩ := Option.bind_eq_some_iff.1 h
  exact proper_of_listOfJson hjson

theorem readList?_compact (h : ∀ n ∈ list, n.Proper) :
    readList? (listToJson list).compact = some list := by
  rw [readList?, Json.read?_compact (writable_listToJson list), Option.bind_some,
    listOfJson_listToJson h]

/-- The lists that some text is read as are those of proper notifications. -/
theorem exists_readList?_iff : (∃ text, readList? text = some list) ↔ ∀ n ∈ list, n.Proper :=
  ⟨fun ⟨_, h⟩ => proper_of_readList? h, fun h => ⟨_, readList?_compact h⟩⟩

end Notification

namespace Source

open Notification

theorem fetch_list (list : List Notification) (p : FetchParameters) :
    (Source.list list).fetch p = .ok (list.filter p.accepts) :=
  rfl

theorem fetch_file {text : String} {list : List Notification} (h : readList? text = some list)
    (p : FetchParameters) : (Source.file (.ok text)).fetch p = .ok (list.filter p.accepts) := by
  simp only [fetch, all, h]
  rfl

/--
**Notifications survive being written.**  A list that was read from any text is read again
from what is written of it, and a file with that text gives for all parameters what the
list gives: those notifications that are asked for, in their order.
-/
theorem fetch_written (text : String) (list : List Notification)
    (h : readList? text = some list) :
    readList? (listToJson list).compact = some list ∧ ∀ p : FetchParameters,
      (Source.file (.ok (listToJson list).compact)).fetch p = (Source.list list).fetch p ∧
        (Source.list list).fetch p = .ok (list.filter p.accepts) := by
  have hread : readList? (listToJson list).compact = some list :=
    readList?_compact (proper_of_readList? h)
  refine ⟨hread, fun p => ⟨?_, fetch_list list p⟩⟩
  rw [fetch_file hread, fetch_list]

/-- The text spells a kind as queries may, escapes a character, leaves out what may be left out,
and tells of a leap second in a year of five digits. -/
theorem fetch_written_leap_second :
    let text := "[\x7b\"id\":\"\\u0007\",\"reason\":\"odd\",\"unread\":true," ++
      "\"repository\":\x7b\"name\":\"a\",\"full_name\":\"o/a\",\"owner\":\x7b\"login\":\"o\"\x7d\x7d," ++
      "\"subject\":\x7b\"title\":\"é\",\"type\":\"pull_request\"\x7d," ++
      "\"updated_at\":\"+12345-12-31T23:59:60.5Z\"\x7d]"
    let n : Notification := {
      id := "\x07"
      repository := ⟨0, "a", "o/a", "o", false, ""⟩
      subject := ⟨"é", .pullRequest, none, none⟩
      reason := .other
      unread := true
      updatedAt := ⟨327434918399, 1500000000⟩
      lastReadAt := none
      url := "" }
    readList? text = some [n] ∧ readList? (listToJson [n]).compact = some [n] ∧
      (Source.file (.ok (listToJson [n]).compact)).fetch { repository := some "O/A" } = .ok [n] := by
  intro text n
  have h : readList? text = some [n] := by decide +kernel
  obtain ⟨hread, hfetch⟩ := fetch_written text [n] h
  obtain ⟨hfile, hlist⟩ := hfetch { repository := some "O/A" }
  have hkept : [n].filter ({ repository := some "O/A" } : FetchParameters).accepts = [n] := by
    decide +kernel
  exact ⟨h, hread, by rw [hfile, hlist, hkept]⟩

end Source

end Triage
