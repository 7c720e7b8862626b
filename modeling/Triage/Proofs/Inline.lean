/-
What a deadline leaves of an inline run.

Collections with few notifications are filtered and scored inline, under a stopwatch that is read
before each of them.  Both ways obey one law: the answer is the whole one exactly if no reading
reaches the deadline, and otherwise it tells how far the run came and what came of it.
-/
import Triage.Proofs.Engine
import Triage.Proofs.Scorer.Collection

namespace Triage

open Calendar

/-- Filtering inline is honest about the deadline. -/
theorem Engine.honest_select {clock : Nat → Nat} (hclock : Monotone clock)
    {settings : EngineSettings} {key : Option IndexKey} {list : List Notification}
    (hfew : (candidates settings key list).length < settings.batchSize)
    (accept : Notification → Bool) :
    Honest (Timing.Late clock settings.timeoutMs) (candidates settings key list).length
      (fun k => ((candidates settings key list).take k).filter accept)
      (select (m := Id) settings (.ofNanos clock) key (fun n => pure (accept n)) list) :=
  honest_of_reached (fun k _ => Timing.stops_ofNanos hclock hfew k)
    (select_eq settings (.ofNanos clock) key accept list)

/-- Scoring inline is honest about the deadline, whatever is in the cache. -/
theorem Scorer.honest_scoreAllAt {clock : Nat → Nat} (hclock : Monotone clock) {s : Scorer}
    {entries : List (Notification × Instant)} (hfew : entries.length < s.settings.batchSize)
    (session : Option Cache.Session) :
    Honest (Timing.Late clock s.settings.timeoutMs) entries.length
      (fun k => s.scoresOf session (entries.take k))
      ((s.scoreAllAt (.ofNanos clock) entries).run session).1 := by
  refine honest_of_reached (fun k _ => Timing.stops_ofNanos hclock hfew k) ?_
  rw [scoreAllAt_eq]
  rfl

/--
**An inline deadline yields an honest prefix.**  Whatever the stopwatch shows, as long as it goes
forward, an inline run answers with the whole answer exactly if no reading before an item reaches
the deadline.  Otherwise it tells the number of items before the first one whose reading does, the
number of all of them, and what came of those before: of a filter the accepted ones in order, which
are the beginning of the whole answer, and of a scorer the scores of these notifications.  Filtering
goes by the candidates that the index leaves, scoring by the cache if there is one.
-/
theorem inline_deadline_honest (clock : Nat → Nat) (hclock : Monotone clock)
    (settings : EngineSettings) (key : Option IndexKey) (accept : Notification → Bool)
    (list : List Notification)
    (hfew : (Engine.candidates settings key list).length < settings.batchSize)
    (scorer : Scorer) (session : Option Cache.Session) (entries : List (Notification × Instant))
    (hfewEntries : entries.length < scorer.settings.batchSize) :
    let items := Engine.candidates settings key list
    (Honest (Timing.Late clock settings.timeoutMs) items.length
          (fun k => (items.take k).filter accept)
          (Engine.select (m := Id) settings (.ofNanos clock) key (fun n => pure (accept n))
            list) ∧
        (∀ k, (items.take k).filter accept <+: (items.take items.length).filter accept) ∧
        (Engine.Covers key accept list →
          (items.take items.length).filter accept = list.filter accept)) ∧
      Honest (Timing.Late clock scorer.settings.timeoutMs) entries.length
        (fun k => scorer.scoresOf session (entries.take k))
        ((scorer.scoreAllAt (.ofNanos clock) entries).run session).1 ∧
      ∀ now records, scorer.scoreAll (.ofNanos clock) now records =
        scorer.scoreAllAt (.ofNanos clock) (records.map fun n => (n, now)) := by
  intro items
  refine ⟨⟨Engine.honest_select hclock hfew accept, fun k => ?_, fun hcovers => ?_⟩,
    Scorer.honest_scoreAllAt hclock hfewEntries session, fun now records => ?_⟩
  · rw [List.take_length]
    exact (List.take_prefix k _).filter accept
  · rw [List.take_length]
    exact Engine.filter_candidates hcovers
  · exact scorer.scoreAll_eq (.ofNanos clock) now records

/-- Each reading takes twenty milliseconds of thirty that there are, so that the second candidate
and the second score come too late. -/
theorem inline_deadline_honest_second :
    let clock (k : Nat) : Nat := 20000000 * k
    let settings : EngineSettings := { timeoutMs := 30 }
    let scorer : Scorer := { settings := { timeoutMs := 30 } }
    let item (id : String) (unread : Bool) : Notification :=
      .build id "octo/hello" .issue "" .mention unread ⟨0, 0⟩
    let list := [item "1" false, item "2" true, item "1" true, item "3" true]
    let entries := [(item "1" true, ⟨5, 0⟩), (item "2" true, ⟨6, 0⟩)]
    Monotone clock ∧
      (Engine.candidates settings (some (.unread true)) list).length < settings.batchSize ∧
      entries.length < scorer.settings.batchSize ∧
      Engine.select (m := Id) settings (.ofNanos clock) (some (.unread true))
        (fun n => pure n.unread) list = .error ⟨[item "2" true], 1, 3⟩ ∧
      ((scorer.scoreAllAt (.ofNanos clock) entries).run none).1 =
        .error ⟨.ofList [("1", scorer.compute (item "1" true) ⟨5, 0⟩)], 1, 2⟩ := by
  intro clock settings scorer item list entries
  have hclock : Monotone clock := fun a b hab => Nat.mul_le_mul_left _ hab
  have hitems : Engine.candidates settings (some (.unread true)) list =
      [item "2" true, item "1" true, item "3" true] := by
    decide +kernel
  have hfew : (Engine.candidates settings (some (.unread true)) list).length <
      settings.batchSize := by
    rw [hitems]
    decide
  have hfewEntries : entries.length < scorer.settings.batchSize := by decide
  have hlate : Timing.Late clock 30 1 := by decide
  have hfirst : ∀ j < 1, ¬Timing.Late clock 30 j := by decide
  obtain ⟨⟨hselect, -, -⟩, hscores, -⟩ := inline_deadline_honest clock hclock settings
    (some (.unread true)) (fun n => n.unread) list hfew scorer none entries hfewEntries
  refine ⟨hclock, hfew, hfewEntries, ?_, ?_⟩
  · rw [hitems] at hselect
    exact (hselect.error _).2 ⟨1, by decide, hlate, hfirst, rfl⟩
  · refine (hscores.error _).2 ⟨1, by decide, hlate, hfirst, ?_⟩
    rw [Scorer.scoresOf_none]
    rfl

end Triage
