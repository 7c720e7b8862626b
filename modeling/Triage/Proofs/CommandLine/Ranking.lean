/-
The list of the highest scores.

The command joins the notifications of a file with the scores of their identifiers, sorts by score
and cuts the list off.  Every notification finds a score, since the scores come from the same list;
so what is printed are the first positions of the list by score, whatever the scores are, and none
is lost.  A line is printed for each of them, which shows the notification with its total.
-/
import Triage.CommandLine.Run
import Triage.Proofs.CommandLine.Lines
import Triage.Proofs.Config.Settings
import Triage.Proofs.Files
import Triage.Proofs.Order.Top
import Triage.Proofs.Scorer.Collection
import Triage.Proofs.Source

namespace Triage.CommandLine

open Calendar Triage.Order

variable {config : Config} {w : World} {scores : Scores} {list : List Notification}

/-! ### Ranking -/

/-- Whether every notification of a list has a score, with this total for its identifier. -/
def Covers (total : String → UInt8) (list : List Notification) (scores : Scores) : Prop :=
  ∀ n ∈ list, (scores.get? n.id).map (·.total) = some (total n.id)

instance (total : String → UInt8) (list : List Notification) (scores : Scores) :
    Decidable (Covers total list scores) :=
  List.decidableBAll _ _

theorem exists_covers (h : ∀ n ∈ list, ∃ score, scores.get? n.id = some score) :
    ∃ total, Covers total list scores := by
  refine ⟨fun id => ((scores.get? id).map (·.total)).getD 0, fun n hn => ?_⟩
  obtain ⟨score, hscore⟩ := h n hn
  simp [hscore]

/-- With a score for each of them, all notifications are sorted. -/
theorem ranked_eq {total : String → UInt8} (h : Covers total list scores) (top : Nat) :
    ranked scores list top =
      ((list.mergeSort fun a b => decide (total b.id ≤ total a.id)).take top).map
        fun n => (total n.id, n) := by
  have hscored : (list.filterMap fun n => (scores.get? n.id).map fun s => (s.total, n)) =
      list.map fun n => (total n.id, n) := by
    rw [← List.filterMap_eq_map]
    refine List.filterMap_congr fun n hn => ?_
    obtain ⟨score, hscore, htotal⟩ := Option.map_eq_some_iff.1 (h n hn)
    simp [hscore, htotal]
  have hsorted := List.map_mergeSort (l := list) (f := fun n => (total n.id, n))
    (r := fun a b => decide (total b.id ≤ total a.id)) (s := fun a b => decide (b.1 ≤ a.1))
    fun _ _ _ _ => rfl
  rw [ranked, hscored, List.map_take, hsorted]

/-- What is listed are the first positions by total. -/
theorem ranked_eq_map {total : String → UInt8} (h : Covers total list scores) (top : Nat) :
    ranked scores list top =
      ((sortedPositions (fun n => total n.id) list).take top).map
        fun i => (total list[i].id, list[i]) := by
  have hsorted := map_sortedPositions (fun n => total n.id) list
  rw [ranked_eq h, ← hsorted, ← List.map_take, List.map_map]
  rfl

/-! ### Scores of the command -/

/-- The files that a command with a cache works on: if it can be made, the directory of the cache is
among them. -/
def filesWithCache (config : Config) (w : World) : Files :=
  match makeCacheDirectory (config.cache.opening w.environment) w.files with
  | .ok (files, _) => files
  | .error _ => w.files

/-- Opens the cache of a command. -/
def openCache (config : Config) (w : World) : Except CacheFault Cache.Session :=
  let settings := config.cache.opening w.environment
  Cache.ofSettings settings
    ((makeCacheDirectory settings w.files).map fun (_, route) =>
      (w.storages.get? route.text).getD {})

theorem withCache_of_open {session : Cache.Session} (h : openCache config w = .ok session)
    (action : World → WithCache (Except Failure String)) :
    (withCache config w action).1 =
      ((action { w with files := filesWithCache config w }).run (some session)).1 := by
  rw [openCache] at h
  rw [withCache, filesWithCache, h]
  cases makeCacheDirectory (config.cache.opening w.environment) w.files with
  | error fault => rfl
  | ok made => rfl

/-- The input is read as it is without a cache. -/
theorem read_filesWithCache {path text : String} (h : w.files.read path = .ok text) :
    (filesWithCache config w).read path = .ok text := by
  rw [filesWithCache, makeCacheDirectory]
  split
  · rename_i files route hmake
    split at hmake
    · exact Files.read_of_make hmake h
    · cases hmake
      exact h
  · exact h

theorem all_filesWithCache {path : String}
    (h : (Source.file (w.files.read path)).all = .ok list) :
    (Source.file ((filesWithCache config w).read path)).all = .ok list := by
  cases hread : w.files.read path with
  | error fault =>
      rw [hread] at h
      cases h
  | ok text => rwa [read_filesWithCache hread, ← hread]

/-- The scorer that settings make. -/
def scorerOf (config : Config) : Scorer := { factors := config.score, settings := config.scoring }

/-- On a stopwatch that stands still no deadline is reached. -/
theorem not_stops_still {s : ScoringSettings} (h : s.validate = .ok ()) (items k : Nat) :
    Timing.still.stops s.timeoutMs s.batchSize items k = false := by
  obtain ⟨-, -, htimeout, -⟩ := Config.scoring_ok_iff.1 h
  rw [Timing.stops]
  split
  · rw [Timing.stopsInline, decide_eq_false_iff_not]
    show ¬0 + s.timeoutMs ≤ 0
    omega
  · rfl

/-- With valid settings, a cache and an input, the command lists what is ranked by the scores of
the input. -/
theorem score_eq {session : Cache.Session} {input : String}
    (hscore : config.score.validate = .ok ()) (hscoring : config.scoring.validate = .ok ())
    (hcache : openCache config w = .ok session)
    (hlist : (Source.file (w.files.read input)).all = .ok list) (now : Instant) (top : Nat) :
    let scores := (scorerOf config).scoresOf (some session) (list.map fun n => (n, now))
    (((scorerOf config).scoreAll .still now list).run (some session)).1 = .ok scores ∧
      (score now config w input top).1 = .ok (String.join
        ((ranked scores list top).map fun p => notificationLine (some p.1) p.2)) := by
  intro scores
  have hall : (((scorerOf config).scoreAll .still now list).run (some session)).1 = .ok scores :=
    Scorer.run_scoreAll_of_not_stopped (fun k _ => not_stops_still hscoring list.length k) _
  have hscorer : Scorer.make config.score config.scoring none = .ok (scorerOf config) :=
    bind_ok_iff.2 ⟨(), hscore, bind_ok_iff.2 ⟨(), hscoring, rfl⟩⟩
  refine ⟨hall, ?_⟩
  rw [score, withCache_of_open hcache]
  simp only [hscorer, all_filesWithCache hlist]
  obtain ⟨session', hrun⟩ : ∃ session',
      ((scorerOf config).scoreAll .still now list).run (some session) = (.ok scores, session') :=
    ⟨_, Prod.ext hall rfl⟩
  simp only [StateT.run] at hrun ⊢
  rw [hrun]

/--
**The command lists the highest scores.**  Whatever totals there are, one for the identifier of each
notification, ranking keeps so many positions of the list as there are to be or as it has, none of
them twice, the highest totals first and equal ones in the order of the list; what is left out comes
after all that is kept.  With valid settings, a cache that can be opened and an input that can be
decoded, the command succeeds: every notification has a score, and a line is printed for each
position that is kept, which shows the notification there with its total.
-/
theorem score_lists_top (list : List Notification) (top : Nat) :
    (∀ (total : String → UInt8) (scores : Scores), Covers total list scores →
      ∃ positions, IsTop (fun n => total n.id) list top positions ∧
        ranked scores list top = positions.map fun i => (total list[i].id, list[i])) ∧
    ∀ (now : Instant) (config : Config) (w : World) (input : String) (session : Cache.Session),
      config.score.validate = .ok () → config.scoring.validate = .ok () →
      openCache config w = .ok session →
      (Source.file (w.files.read input)).all = .ok list →
      ∃ scores total positions,
        (((scorerOf config).scoreAll .still now list).run (some session)).1 = .ok scores ∧
        Covers total list scores ∧ IsTop (fun n => total n.id) list top positions ∧
        (score now config w input top).1 = .ok (String.join
          (positions.map fun i => notificationLine (some (total list[i].id)) list[i])) ∧
        ∀ i ∈ positions, ShowsTotal (total list[i].id) list[i]
          (notificationLine (some (total list[i].id)) list[i]) := by
  refine ⟨fun total scores h => ?_,
    fun now config w input session hscore hscoring hcache hlist => ?_⟩
  · exact ⟨_, isTop_take _ list top, ranked_eq_map h top⟩
  · obtain ⟨hall, hprinted⟩ := score_eq hscore hscoring hcache hlist now top
    have hscores (n : Notification) (hn : n ∈ list) : ∃ score,
        ((scorerOf config).scoresOf (some session) (list.map fun n => (n, now))).get? n.id =
          some score := by
      have hentry : (n, now) ∈ list.map fun n => (n, now) := List.mem_map.2 ⟨n, hn, rfl⟩
      exact (scorerOf config).exists_get?_scoresOf (some session) hentry
    obtain ⟨total, htotal⟩ := exists_covers hscores
    refine ⟨_, total, _, hall, htotal, isTop_take _ list top, ?_, fun i _ => ?_⟩
    · rw [hprinted, ranked_eq_map htotal top, List.map_map]
      rfl
    · have hproper := Source.proper_of_all hlist nofun list[i] (List.getElem_mem i.isLt)
      exact showsTotal_notificationLine hproper.updated _

/-- Three notifications of which two have one identifier: the highest total comes first, and of the
two that are equal the first one is kept.  The command prints a line for each of two. -/
theorem score_lists_top_repeated :
    let item (id title : String) : Notification :=
      .build id "o/a" .issue title .mention true ⟨0, 0⟩
    let list := [item "1" "first", item "2" "second", item "1" "third"]
    let total (id : String) : UInt8 := if id = "2" then 70 else 50
    let scores : Scores :=
      .ofList (["1", "2"].map fun id => (id, ⟨total id, .empty, .initial⟩))
    let text := (Notification.listToJson list).compact
    let w : World := { files := { nodes := .ofList [("/in", .file text)] } }
    Covers total list scores ∧
      ranked scores list 2 = [(70, item "2" "second"), (50, item "1" "first")] ∧
      (∃ positions, IsTop (fun n => total n.id) list 2 positions ∧
        ranked scores list 2 = positions.map fun i => (total list[i].id, list[i])) ∧
      (Source.file (w.files.read "/in")).all = .ok list ∧
      ∃ positions : List (Fin list.length), ∃ total : String → UInt8,
        IsTop (fun n => total n.id) list 2 positions ∧
        (score ⟨60, 0⟩ {} w "/in" 2).1 = .ok (String.join
          (positions.map fun i => notificationLine (some (total list[i].id)) list[i])) ∧
        ∀ i ∈ positions, ShowsTotal (total list[i].id) list[i]
          (notificationLine (some (total list[i].id)) list[i]) := by
  intro item list total scores text w
  have hcovers : Covers total list scores := by decide +kernel
  have hid (id title : String) : (item id title).id = id := rfl
  have hone : total "1" = 50 := by decide
  have htwo : total "2" = 70 := by decide
  have hranked : ranked scores list 2 = [(70, item "2" "second"), (50, item "1" "first")] := by
    rw [ranked_eq hcovers]
    simp [list, List.mergeSort, List.MergeSort.Internal.splitInTwo, hid, hone, htwo]
  have hread : Notification.readList? text = some list :=
    Notification.readList?_compact (by decide +kernel)
  have hlist : (Source.file (w.files.read "/in")).all = .ok list := by
    have htext : w.files.read "/in" = .ok text := rfl
    rw [htext, Source.all, hread]
  obtain ⟨session, hcache⟩ : ∃ session, openCache {} w = .ok session :=
    exists_of_isOk (by decide +kernel)
  obtain ⟨hall, hcommand⟩ := score_lists_top list 2
  obtain ⟨_, total', positions, -, -, htop, hprinted, hshown⟩ :=
    hcommand ⟨60, 0⟩ {} w "/in" session rfl rfl hcache hlist
  exact ⟨hcovers, hranked, hall total scores hcovers, hlist, positions, total', htop, hprinted,
    hshown⟩

end Triage.CommandLine
