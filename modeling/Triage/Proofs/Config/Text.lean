/-
Settings are read back from the text of their file.

The sections that are written are tables of a document, and each setting is found in its table under
its name.  Nothing is left out but a directory that there is none of, and that is also what the
reader takes for a directory that is not written.
-/
import Triage.Config.Toml
import Triage.Proofs.Config.Settings
import Triage.Proofs.Toml.Document

namespace Triage

open Toml

/-! ### Sections -/

namespace EngineSettings

/-- The settings for filtering as they are written. -/
def written (s : EngineSettings) : List (String × Setting) :=
  [("concurrency", Config.count s.concurrency), ("batch_size", Config.count s.batchSize),
    ("timeout_ms", Config.count s.timeoutMs), ("use_indexes", Config.flag s.useIndexes)]

theorem ofToml_written (s : EngineSettings) (origin : Origin) :
    ofToml (.table origin (content s.written)) = some s := rfl

end EngineSettings

namespace ScoringSettings

/-- The settings for scoring as they are written. -/
def written (s : ScoringSettings) : List (String × Setting) :=
  [("concurrency", Config.count s.concurrency), ("batch_size", Config.count s.batchSize),
    ("timeout_ms", Config.count s.timeoutMs), ("cache_ttl_secs", Config.count s.cacheSeconds)]

theorem ofToml_written (s : ScoringSettings) (origin : Origin) :
    ofToml (.table origin (content s.written)) = some s := rfl

end ScoringSettings

namespace SortSettings

/-- The settings for sorting as they are written. -/
def written (s : SortSettings) : List (String × Setting) :=
  [("parallel", Config.flag s.parallel), ("batch_size", Config.count s.batchSize),
    ("criteria", .many (s.criteria.map .string))]

theorem ofToml_written (s : SortSettings) (origin : Origin) :
    ofToml (.table origin (content s.written)) = some s := by
  have hcriteria : asStrings (.array ((s.criteria.map Scalar.string).map .scalar)) =
      some s.criteria := by
    show ((s.criteria.map Scalar.string).map Toml.scalar).mapM asString = some s.criteria
    induction s.criteria with
    | nil => rfl
    | cons criterion criteria ih =>
        rw [List.map_cons, List.map_cons, List.mapM_cons, ih]
        rfl
  show (asStrings (.array ((s.criteria.map Scalar.string).map .scalar))).bind _ = _
  rw [hcriteria]
  rfl

end SortSettings

namespace CacheSettings

/-- The settings for caching as they are written; the directory only if there is one. -/
def written (s : CacheSettings) : List (String × Setting) :=
  [("backend", Config.text s.backend.name)] ++
    (s.directory.toList.map fun path => ("directory", Config.text path)) ++
    [("bucket", Config.text s.bucket), ("ttl_secs", Config.count s.resultSeconds),
      ("prefetch_queue_size", Config.count s.queueSize)]

theorem ofToml_written (s : CacheSettings) (origin : Origin) :
    ofToml (.table origin (content s.written)) = some s := by
  obtain ⟨backend, directory, bucket, resultSeconds, queueSize⟩ := s
  cases directory with
  | none =>
      cases backend
      all_goals rfl
  | some path =>
      cases backend
      all_goals rfl

end CacheSettings

namespace Factors

/-- The named weights as they are written. -/
def written (f : Factors) : List (String × Setting) :=
  Weight.all.map fun w => (w.name, Config.weight (f.weight w))

/-- The weights of single repositories as they are written. -/
def writtenRepositories (f : Factors) : List (String × Setting) :=
  f.repositories.toList.map fun (name, x) => (name, Config.weight x)

theorem readFields_eq {fields : Fields} {f : Factors}
    (h : ∀ w, fields.read w.name (initial.weight w) asFloat = some (f.weight w)) (start : Factors)
    (ws : List Weight) :
    readFields fields start ws = some (ws.foldl (fun g w => g.put w (f.weight w)) start) := by
  induction ws generalizing start with
  | nil => rfl
  | cons w ws ih =>
      rw [readFields, h w, Option.bind_eq_bind, Option.bind_some, ih, List.foldl_cons]

theorem weight_withRepositories (f : Factors) (repositories : SortedMap Float) (w : Weight) :
    { f with repositories }.weight w = f.weight w := by
  cases w <;> rfl

/-- Weights that were put one by one, the order of which makes no difference. -/
theorem weight_foldl_put (f start : Factors) (ws : List Weight) (v : Weight) :
    (ws.foldl (fun g w => g.put w (f.weight w)) start).weight v =
      if v ∈ ws then f.weight v else start.weight v := by
  induction ws generalizing start with
  | nil => simp
  | cons w ws ih =>
      rw [List.foldl_cons, ih, weight_put]
      by_cases hw : v = w
      · simp [hw]
      · simp [hw]

theorem ofToml_written (f : Factors) (origin : Origin) :
    ofToml (.table origin (content f.written ++
      [(repositoriesName, .table .headed (content f.writtenRepositories))])) = some f := by
  have hweight (w : Weight) : (Fields.named (content f.written ++
      [(repositoriesName, .table .headed (content f.writtenRepositories))])).read
        w.name (initial.weight w) asFloat = some (f.weight w) := by
    cases w <;> rfl
  have hnumbers : asNumbers (.table .headed (content f.writtenRepositories)) =
      some f.repositories := by
    have hread : (content f.writtenRepositories).mapM (fun e => (asFloat e.2).map (e.1, ·)) =
        some f.repositories.toList := by
      rw [writtenRepositories, content]
      induction f.repositories.toList with
      | nil => rfl
      | cons e l ih =>
          rw [List.map_cons, List.map_cons, List.mapM_cons, ih]
          rfl
    rw [asNumbers, hread, Option.map_some, SortedMap.ofList_toList]
  have hrepositories : (Fields.named (content f.written ++
      [(repositoriesName, .table .headed (content f.writtenRepositories))])).read
        repositoriesName .empty asNumbers = some f.repositories := hnumbers
  rw [ofToml, asFields, Option.bind_eq_bind, Option.bind_some, readFields_eq hweight,
    Option.bind_eq_bind, Option.bind_some, hrepositories]
  refine congrArg some (ext_weight (fun w => ?_) rfl)
  have hread := weight_foldl_put f initial Weight.all w
  rw [if_pos w.mem_all] at hread
  rw [weight_withRepositories, hread]

end Factors

/-! ### All sections -/

/-- Counts fit in a word; nothing is asked of other settings. -/
def SettingKey.Fits : (s : SettingKey) → s.Value → Prop
  | engineConcurrency, (n : Nat) | engineBatchSize, (n : Nat) | engineTimeout, (n : Nat)
  | scoringConcurrency, (n : Nat) | scoringBatchSize, (n : Nat) | scoringTimeout, (n : Nat)
  | scoringCacheTime, (n : Nat) | sortBatchSize, (n : Nat) | cacheTime, (n : Nat)
  | cacheQueueSize, (n : Nat) => fitsWord n = true
  | engineIndexes, _ | sortParallel, _ | sortCriteria, _ | cacheBackend, _ | cacheDirectory, _
  | cacheBucket, _ | weight _, _ | repositoryWeight _, _ => True

/-- All numbers that are weights. -/
def Factors.values (f : Factors) : List Float :=
  Weight.all.map f.weight ++ f.repositories.toList.map Prod.snd

/-- The word that is written for a number is read as that number. -/
def Toml.ReadsBack (x : Float) : Prop :=
  word? (Decimal.settings x).toList = some (.scalar (.float x))

/-- The number that a value is, if it is one with a point. -/
def Toml.float? : Toml → Option Float
  | scalar (.float x) => some x
  | _ => none

theorem Toml.readsBack_iff {x : Float} :
    ReadsBack x ↔ (word? (Decimal.settings x).toList).bind float? = some x := by
  constructor
  · intro h
    rw [h]
    rfl
  · intro h
    obtain ⟨t, ht, hx⟩ := Option.bind_eq_some_iff.1 h
    unfold float? at hx
    split at hx
    · cases hx
      exact ht
    · cases hx

instance (x : Float) : Decidable (ReadsBack x) := decidable_of_iff _ readsBack_iff.symm

namespace Config

/-- The table that settings are read from. -/
def document (c : Config) : Entries :=
  [("engine", .table .headed (content c.engine.written)),
    ("scoring", .table .headed (content c.scoring.written)),
    ("score", .table .headed (content c.score.written ++
      [(Factors.repositoriesName, .table .headed (content c.score.writtenRepositories))])),
    ("sort", .table .headed (content c.sort.written)),
    ("cache", .table .headed (content c.cache.written))]

theorem ofToml_document (c : Config) : ofToml (.table .headed c.document) = some c := by
  have hengine : (Fields.named c.document).read "engine" {} EngineSettings.ofToml =
      some c.engine := c.engine.ofToml_written _
  have hscoring : (Fields.named c.document).read "scoring" {} ScoringSettings.ofToml =
      some c.scoring := c.scoring.ofToml_written _
  have hscore : (Fields.named c.document).read "score" .initial Factors.ofToml = some c.score :=
    c.score.ofToml_written _
  have hsort : (Fields.named c.document).read "sort" {} SortSettings.ofToml = some c.sort :=
    c.sort.ofToml_written _
  have hcache : (Fields.named c.document).read "cache" {} CacheSettings.ofToml = some c.cache :=
    c.cache.ofToml_written _
  simp only [ofToml, asFields, Option.bind_eq_bind, Option.bind_some, hengine, hscoring, hscore,
    hsort, hcache]

theorem nodup_written (c : Config) :
    (c.engine.written.map Prod.fst).Nodup ∧ (c.scoring.written.map Prod.fst).Nodup ∧
      (c.score.written.map Prod.fst).Nodup ∧
      (c.score.writtenRepositories.map Prod.fst).Nodup ∧
      (c.sort.written.map Prod.fst).Nodup ∧ (c.cache.written.map Prod.fst).Nodup := by
  refine ⟨?_, ?_, ?_, ?_, ?_, ?_⟩
  · simp [EngineSettings.written]
  · simp [ScoringSettings.written]
  · have hnames : (Weight.all.map Weight.name).Nodup := by decide
    simpa [Factors.written, Function.comp_def] using hnames
  · have hkeys : (c.score.repositories.toList.map Prod.fst).Nodup :=
      List.pairwise_map.2 (c.score.repositories.ascending.imp String.ne_of_lt)
    simpa [Factors.writtenRepositories, Function.comp_def] using hkeys
  · simp [SortSettings.written]
  · cases hdirectory : c.cache.directory with
    | none => simp [CacheSettings.written, hdirectory]
    | some path => simp [CacheSettings.written, hdirectory]

/-- The lines of all sections amount to the table. -/
theorem ofLines_sections (c : Config) :
    ofLines (c.sections.flatMap Section.lines) = some (.table .headed c.document) := by
  obtain ⟨hengine, hscoring, hscore, hrepositories, hsort, hcache⟩ := c.nodup_written
  have hsections : c.sections.flatMap Section.lines =
      Section.lines ⟨["engine"], c.engine.written⟩ ++
        (Section.lines ⟨["scoring"], c.scoring.written⟩ ++
          (Section.lines ⟨["score"], c.score.written⟩ ++
            (Section.lines ⟨["score", Factors.repositoriesName], c.score.writtenRepositories⟩ ++
              (Section.lines ⟨["sort"], c.sort.written⟩ ++
                (Section.lines ⟨["cache"], c.cache.written⟩ ++ []))))) := rfl
  have htop {name : String} {settings : List (String × Setting)} (inner : Entries)
      (current : List String) (hname : inner.lookup name = none)
      (hnodup : (settings.map Prod.fst).Nodup) :
      (Section.lines ⟨[name], settings⟩).foldlM Draft.add ⟨inner, current⟩ =
        some ⟨inner ++ [(name, .table .headed (content settings))], [name]⟩ :=
    foldlM_section [] inner current nofun hname hnodup
  have haddEngine : (Section.lines ⟨["engine"], c.engine.written⟩).foldlM Draft.add {} =
      some ⟨c.document.take 1, ["engine"]⟩ := htop [] [] rfl hengine
  have haddScoring : (Section.lines ⟨["scoring"], c.scoring.written⟩).foldlM Draft.add
      ⟨c.document.take 1, ["engine"]⟩ = some ⟨c.document.take 2, ["scoring"]⟩ :=
    htop _ _ rfl hscoring
  have haddScore : (Section.lines ⟨["score"], c.score.written⟩).foldlM Draft.add
      ⟨c.document.take 2, ["scoring"]⟩ =
        some ⟨nested [(c.document.take 2, "score")] (content c.score.written), ["score"]⟩ :=
    htop _ _ rfl hscore
  -- the weights of repositories go below the weights, which were opened last
  have haddRepositories : (Section.lines ⟨["score", Factors.repositoriesName],
      c.score.writtenRepositories⟩).foldlM Draft.add
        ⟨nested [(c.document.take 2, "score")] (content c.score.written), ["score"]⟩ =
          some ⟨c.document.take 3, ["score", Factors.repositoriesName]⟩ := by
    refine foldlM_section [(c.document.take 2, "score")] _ _ ?_ rfl hrepositories
    intro step hstep
    rw [List.mem_singleton.1 hstep]
    rfl
  have haddSort : (Section.lines ⟨["sort"], c.sort.written⟩).foldlM Draft.add
      ⟨c.document.take 3, ["score", Factors.repositoriesName]⟩ =
        some ⟨c.document.take 4, ["sort"]⟩ := htop _ _ rfl hsort
  have haddCache : (Section.lines ⟨["cache"], c.cache.written⟩).foldlM Draft.add
      ⟨c.document.take 4, ["sort"]⟩ = some ⟨c.document, ["cache"]⟩ := htop _ _ rfl hcache
  simp only [ofLines, hsections, List.foldlM_append, haddEngine, haddScoring, haddScore,
    haddRepositories, haddSort, haddCache, Option.bind_eq_bind, Option.bind_some, List.foldlM_nil,
    Option.pure_def, Option.map_some]

theorem readable_sections {c : Config} (h : ∀ s v, c.get? s = some v → s.Fits v)
    (hweights : ∀ x ∈ c.score.values, ReadsBack x) : ∀ s ∈ c.sections, s.Readable := by
  have hengine : ∀ e ∈ c.engine.written, e.2.Readable :=
    List.forall_mem_cons.2 ⟨h .engineConcurrency _ rfl, List.forall_mem_cons.2
      ⟨h .engineBatchSize _ rfl, List.forall_mem_cons.2 ⟨h .engineTimeout _ rfl,
        List.forall_mem_singleton.2 trivial⟩⟩⟩
  have hscoring : ∀ e ∈ c.scoring.written, e.2.Readable :=
    List.forall_mem_cons.2 ⟨h .scoringConcurrency _ rfl, List.forall_mem_cons.2
      ⟨h .scoringBatchSize _ rfl, List.forall_mem_cons.2 ⟨h .scoringTimeout _ rfl,
        List.forall_mem_singleton.2 (h .scoringCacheTime _ rfl)⟩⟩⟩
  have hscore : ∀ e ∈ c.score.written, e.2.Readable := by
    intro e he
    obtain ⟨w, hw, rfl⟩ := List.mem_map.1 he
    exact hweights _ (List.mem_append_left _ (List.mem_map_of_mem hw))
  have hrepositories : ∀ e ∈ c.score.writtenRepositories, e.2.Readable := by
    intro e he
    obtain ⟨entry, hentry, rfl⟩ := List.mem_map.1 he
    exact hweights _ (List.mem_append_right _ (List.mem_map_of_mem hentry))
  have hsort : ∀ e ∈ c.sort.written, e.2.Readable := by
    refine List.forall_mem_cons.2 ⟨trivial, List.forall_mem_cons.2
      ⟨h .sortBatchSize _ rfl, List.forall_mem_singleton.2 fun v hv => ?_⟩⟩
    obtain ⟨criterion, -, rfl⟩ := List.mem_map.1 hv
    trivial
  have hcache : ∀ e ∈ c.cache.written, e.2.Readable := by
    have hothers : ∀ e ∈ [("bucket", text c.cache.bucket), ("ttl_secs", count c.cache.resultSeconds),
        ("prefetch_queue_size", count c.cache.queueSize)], e.2.Readable :=
      List.forall_mem_cons.2 ⟨trivial, List.forall_mem_cons.2
        ⟨h .cacheTime _ rfl, List.forall_mem_singleton.2 (h .cacheQueueSize _ rfl)⟩⟩
    intro e he
    rcases List.mem_append.1 he with he | he
    · rcases List.mem_append.1 he with he | he
      · rw [List.mem_singleton.1 he]
        trivial
      · obtain ⟨path, -, rfl⟩ := List.mem_map.1 he
        trivial
    · exact hothers e he
  have hone : 1 ≤ longestPath := by decide
  have htwo : 2 ≤ longestPath := by decide
  intro s hs
  simp only [sections, List.mem_cons, List.not_mem_nil, or_false] at hs
  rcases hs with rfl | rfl | rfl | rfl | rfl | rfl
  · exact ⟨nofun, hone, hengine⟩
  · exact ⟨nofun, hone, hscoring⟩
  · exact ⟨nofun, hone, hscore⟩
  · exact ⟨nofun, htwo, hrepositories⟩
  · exact ⟨nofun, hone, hsort⟩
  · exact ⟨nofun, hone, hcache⟩

/-- **Settings are read back from the text of their file**, if their counts fit in a word and the
texts of their weights stand for these. -/
theorem ofText_toText {c : Config} (h : ∀ s v, c.get? s = some v → s.Fits v)
    (hweights : ∀ x ∈ c.score.values, ReadsBack x) : ofText c.toText = .ok c := by
  rw [ofText, toText, read?_write (readable_sections h hweights), ofLines_sections,
    Option.bind_some, ofToml_document]

end Config

end Triage
