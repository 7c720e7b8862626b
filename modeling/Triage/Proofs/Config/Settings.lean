/-
Single settings.

The settings are seen through `get?`, which tells what each of them holds, and are changed through
`put`.  What is put is read back and everything else stays, and settings that look the same are the
same.  Being valid is a matter of each setting by itself: all of them are when each holds something
that it accepts.
-/
import Triage.Config.Overrides
import Triage.Proofs.Cache.Opening
import Triage.Proofs.SortedMap

namespace Triage

/-! ### Weights by name

The listings of names line up with the slots: a name that is listed belongs to one of them, which is
the one that it reads and the one that it sets, and no other name reads or sets anything.
-/

theorem Weight.ofName?_name (w : Weight) : Weight.ofName? w.name = some w := by
  cases w <;> rfl

theorem Weight.mem_all (w : Weight) : w ∈ all := by
  cases w <;> decide

namespace Factors

variable {f f' : Factors} {name other : String} {w : Weight} {v x : Float}

/-! #### Slots -/

theorem weight_put (f : Factors) (w w' : Weight) (v : Float) :
    (f.put w v).weight w' = if w' = w then v else f.weight w' := by
  cases w <;> cases w' <;> rfl

theorem put_put (f : Factors) (w : Weight) (v v' : Float) : (f.put w v).put w v' = f.put w v' := by
  cases w <;> rfl

theorem repositories_put (f : Factors) (w : Weight) (v : Float) :
    (f.put w v).repositories = f.repositories := by
  cases w <;> rfl

/-- Nothing is in the weights but what is in the slots, and those of repositories. -/
theorem ext_weight (h : ∀ w, f.weight w = f'.weight w)
    (hrepositories : f.repositories = f'.repositories) : f = f' := by
  cases f
  cases f'
  rw [mk.injEq]
  exact ⟨h .age, h .activity, h .involvement, h .type, h .reason, h .repo, h .ageDecay,
    h .maxAgeHours, h .pullRequest, h .issue, h .release, h .discussion, h .commit, h .assignee,
    h .author, h .mention, h .teamMention, h .review, h .comment, h .stateChange, h .subscribed,
    hrepositories⟩

/-! #### Names of slots -/

theorem name_mem_names (w : Weight) : w.name ∈ names := by
  cases w <;> decide

theorem mem_names_iff : name ∈ names ↔ ∃ w : Weight, w.name = name := by
  have hall : names = Weight.all.map Weight.name := rfl
  rw [hall, List.mem_map]
  exact ⟨fun ⟨w, _, hw⟩ => ⟨w, hw⟩, fun ⟨w, hw⟩ => ⟨w, w.mem_all, hw⟩⟩

/-- The name of a slot reads that slot. -/
theorem get?_name (f : Factors) (w : Weight) : f.get? w.name = some (f.weight w) := by
  cases w <;> rfl

/-- The name of a slot sets that slot. -/
theorem replace?_name (f : Factors) (w : Weight) (v : Float) :
    f.replace? w.name v = some (f.put w v) := by
  cases w <;> rfl

theorem get?_of_not_mem (h : name ∉ names) (f : Factors) : f.get? name = none := by
  unfold get?
  split
  case h_22 => rfl
  all_goals exact absurd (by decide) h

theorem replace?_of_not_mem (h : name ∉ names) (f : Factors) (v : Float) :
    f.replace? name v = none := by
  unfold replace?
  split
  case h_22 => rfl
  all_goals exact absurd (by decide) h

/-! #### Names that are set and read -/

/-- The weights with the one of this name replaced, if there is one. -/
def putNamed (f : Factors) (name : String) (value : Float) : Factors :=
  (f.replace? name value).getD f

theorem putNamed_name (f : Factors) (w : Weight) (v : Float) : f.putNamed w.name v = f.put w v := by
  rw [putNamed, replace?_name, Option.getD_some]

theorem putNamed_of_not_mem (h : name ∉ names) (f : Factors) (v : Float) :
    f.putNamed name v = f := by
  rw [putNamed, replace?_of_not_mem h, Option.getD_none]

/-- A finite number is accepted for the names that are listed. -/
theorem set_of_isFinite (h : v.isFinite = true) (f : Factors) (name : String) :
    f.set name v =
      if name ∈ names then .ok (f.putNamed name v) else .error (.unknownWeight name) := by
  by_cases hname : name ∈ names
  · obtain ⟨w, rfl⟩ := mem_names_iff.1 hname
    simp [set, h, replace?_name, putNamed_name, name_mem_names]
  · simp [set, h, replace?_of_not_mem hname, hname]

theorem repositories_putNamed (f : Factors) (name : String) (value : Float) :
    (f.putNamed name value).repositories = f.repositories := by
  by_cases h : name ∈ names
  · obtain ⟨w, rfl⟩ := mem_names_iff.1 h
    rw [putNamed_name, repositories_put]
  · rw [putNamed_of_not_mem h]

theorem get?_putNamed_self (h : name ∈ names) (f : Factors) (value : Float) :
    (f.putNamed name value).get? name = some value := by
  obtain ⟨w, rfl⟩ := mem_names_iff.1 h
  rw [putNamed_name, get?_name, weight_put, if_pos rfl]

theorem get?_putNamed_of_ne (h : other ≠ name) (f : Factors) (value : Float) :
    (f.putNamed name value).get? other = f.get? other := by
  by_cases hname : name ∈ names
  · obtain ⟨w, rfl⟩ := mem_names_iff.1 hname
    by_cases hother : other ∈ names
    · obtain ⟨w', rfl⟩ := mem_names_iff.1 hother
      have hslots : w' ≠ w := fun heq => h (by rw [heq])
      rw [putNamed_name, get?_name, get?_name, weight_put, if_neg hslots]
    · rw [get?_of_not_mem hother, get?_of_not_mem hother]
  · rw [putNamed_of_not_mem hname]

end Factors

/-! ### What a setting holds -/

namespace SettingKey

/-- The values that a setting may have. -/
def Value : SettingKey → Type
  | engineConcurrency | engineBatchSize | engineTimeout => Nat
  | scoringConcurrency | scoringBatchSize | scoringTimeout | scoringCacheTime => Nat
  | sortBatchSize | cacheTime | cacheQueueSize => Nat
  | engineIndexes | sortParallel => Bool
  | sortCriteria => List String
  | cacheBackend => Cache.Backend
  | cacheDirectory | cacheBucket => String
  | weight _ | repositoryWeight _ => Float

/-- Whether there is such a setting: weights have certain names only. -/
def IsKnown : SettingKey → Prop
  | weight name => name ∈ Factors.names
  | _ => True

/-- Whether a setting may hold a value: sizes, times and counts are positive, weights finite,
criteria can be read and buckets have proper names. -/
def Accepts : (s : SettingKey) → s.Value → Prop
  | engineConcurrency, (n : Nat) | engineBatchSize, (n : Nat) | engineTimeout, (n : Nat) => 0 < n
  | scoringConcurrency, (n : Nat) | scoringBatchSize, (n : Nat) | scoringTimeout, (n : Nat) => 0 < n
  | scoringCacheTime, (n : Nat) | sortBatchSize, (n : Nat) | cacheTime, (n : Nat) => 0 < n
  | cacheQueueSize, (n : Nat) => 0 < n
  | sortCriteria, criteria => ∃ parsed, criteria.mapM SortCriterion.ofText = .ok parsed
  | cacheBucket, bucket => Cache.isBucketName bucket = true
  | weight _, (x : Float) | repositoryWeight _, (x : Float) => x.isFinite = true
  | engineIndexes, _ | sortParallel, _ | cacheBackend, _ | cacheDirectory, _ => True

end SettingKey

namespace Config

/-- What a setting holds; the directory of the cache and the weights of repositories need not hold
anything. -/
def get? (c : Config) : (s : SettingKey) → Option s.Value
  | .engineConcurrency => some c.engine.concurrency
  | .engineBatchSize => some c.engine.batchSize
  | .engineTimeout => some c.engine.timeoutMs
  | .engineIndexes => some c.engine.useIndexes
  | .scoringConcurrency => some c.scoring.concurrency
  | .scoringBatchSize => some c.scoring.batchSize
  | .scoringTimeout => some c.scoring.timeoutMs
  | .scoringCacheTime => some c.scoring.cacheSeconds
  | .sortParallel => some c.sort.parallel
  | .sortBatchSize => some c.sort.batchSize
  | .sortCriteria => some c.sort.criteria
  | .cacheBackend => some c.cache.backend
  | .cacheDirectory => c.cache.directory
  | .cacheBucket => some c.cache.bucket
  | .cacheTime => some c.cache.resultSeconds
  | .cacheQueueSize => some c.cache.queueSize
  | .weight name => c.score.get? name
  | .repositoryWeight repository => c.score.repositories.get? repository

/-- The settings with one of them replaced. -/
def put (c : Config) : (s : SettingKey) → s.Value → Config
  | .engineConcurrency, n => c.withEngine ({ · with concurrency := n })
  | .engineBatchSize, n => c.withEngine ({ · with batchSize := n })
  | .engineTimeout, n => c.withEngine ({ · with timeoutMs := n })
  | .engineIndexes, b => c.withEngine ({ · with useIndexes := b })
  | .scoringConcurrency, n => c.withScoring ({ · with concurrency := n })
  | .scoringBatchSize, n => c.withScoring ({ · with batchSize := n })
  | .scoringTimeout, n => c.withScoring ({ · with timeoutMs := n })
  | .scoringCacheTime, n => c.withScoring ({ · with cacheSeconds := n })
  | .sortParallel, b => c.withSort ({ · with parallel := b })
  | .sortBatchSize, n => c.withSort ({ · with batchSize := n })
  | .sortCriteria, criteria => c.withSort ({ · with criteria })
  | .cacheBackend, backend => c.withCache ({ · with backend })
  | .cacheDirectory, directory => c.withCache ({ · with directory := some directory })
  | .cacheBucket, bucket => c.withCache ({ · with bucket })
  | .cacheTime, n => c.withCache ({ · with resultSeconds := n })
  | .cacheQueueSize, n => c.withCache ({ · with queueSize := n })
  | .weight name, x => { c with score := c.score.putNamed name x }
  | .repositoryWeight repository, x => { c with score := c.score.putRepository repository x }

theorem get?_put_self {s : SettingKey} (h : s.IsKnown) (c : Config) (v : s.Value) :
    (c.put s v).get? s = some v := by
  cases s with
  | weight name => exact Factors.get?_putNamed_self h c.score v
  | repositoryWeight repository =>
      exact (SortedMap.get?_insert c.score.repositories repository repository v).trans (if_pos rfl)
  | _ => rfl

/-- No two settings share a place. -/
theorem get?_put_of_ne {s other : SettingKey} (h : other ≠ s) (c : Config) (v : s.Value) :
    (c.put s v).get? other = c.get? other := by
  cases s with
  | weight name =>
      cases other with
      | weight name' =>
          have hname : name' ≠ name := fun heq => h (by rw [heq])
          exact Factors.get?_putNamed_of_ne hname c.score v
      | repositoryWeight repository =>
          exact congrArg (SortedMap.get? · repository) (Factors.repositories_putNamed c.score name v)
      | _ => rfl
  | repositoryWeight repository =>
      cases other with
      | repositoryWeight repository' =>
          have hname : repository' ≠ repository := fun heq => h (by rw [heq])
          exact (SortedMap.get?_insert c.score.repositories repository repository' v).trans
            (if_neg hname)
      | _ => rfl
  | _ =>
      cases other
      all_goals first | rfl | exact absurd rfl h

/-- Settings are determined by what each of them holds. -/
theorem ext_get? {c c' : Config} (h : ∀ s, c.get? s = c'.get? s) : c = c' := by
  have hweight (w : Weight) : c.score.weight w = c'.score.weight w := by
    have hw : c.score.get? w.name = c'.score.get? w.name := h (.weight w.name)
    simpa [Factors.get?_name] using hw
  have hrepositories : c.score.repositories = c'.score.repositories :=
    SortedMap.ext_get? fun repository => h (.repositoryWeight repository)
  obtain ⟨engine, scoring, score, sort, cache⟩ := c
  obtain ⟨engine', scoring', score', sort', cache'⟩ := c'
  have hengine : engine = engine' := by
    cases engine
    cases engine'
    cases h .engineConcurrency
    cases h .engineBatchSize
    cases h .engineTimeout
    cases h .engineIndexes
    rfl
  have hscoring : scoring = scoring' := by
    cases scoring
    cases scoring'
    cases h .scoringConcurrency
    cases h .scoringBatchSize
    cases h .scoringTimeout
    cases h .scoringCacheTime
    rfl
  have hscore : score = score' := Factors.ext_weight hweight hrepositories
  have hsort : sort = sort' := by
    cases sort
    cases sort'
    cases h .sortParallel
    cases h .sortBatchSize
    cases h .sortCriteria
    rfl
  have hcache : cache = cache' := by
    cases cache
    cases cache'
    cases h .cacheBackend
    cases h .cacheDirectory
    cases h .cacheBucket
    cases h .cacheTime
    cases h .cacheQueueSize
    rfl
  rw [hengine, hscoring, hscore, hsort, hcache]

/-! ### Validity -/

theorem checkPositive_ok_iff {name : String} {n : Nat} : checkPositive name n = .ok () ↔ 0 < n := by
  unfold checkPositive
  split
  · rename_i hzero
    simp [hzero]
  · rename_i hpositive
    simpa using Nat.pos_of_ne_zero hpositive

/-- A check before another one. -/
theorem check_ok_iff {ε : Type} {first second : Except ε Unit} :
    (do first; second) = .ok () ↔ first = .ok () ∧ second = .ok () := by
  rw [bind_ok_iff]
  exact ⟨fun ⟨_, hfirst, hsecond⟩ => ⟨hfirst, hsecond⟩, fun ⟨hfirst, hsecond⟩ =>
    ⟨(), hfirst, hsecond⟩⟩

theorem engine_ok_iff {s : EngineSettings} :
    s.validate = .ok () ↔ 0 < s.concurrency ∧ 0 < s.batchSize ∧ 0 < s.timeoutMs := by
  simp only [EngineSettings.validate, check_ok_iff, checkPositive_ok_iff]

theorem scoring_ok_iff {s : ScoringSettings} : s.validate = .ok () ↔
    0 < s.concurrency ∧ 0 < s.batchSize ∧ 0 < s.timeoutMs ∧ 0 < s.cacheSeconds := by
  simp only [ScoringSettings.validate, check_ok_iff, checkPositive_ok_iff]

theorem sort_ok_iff {s : SortSettings} : s.validate = .ok () ↔
    0 < s.batchSize ∧ ∃ parsed, s.criteria.mapM SortCriterion.ofText = .ok parsed := by
  rw [SortSettings.validate, check_ok_iff, checkPositive_ok_iff, bind_ok_iff]
  simp [SortSettings.parsedCriteria, pure, Except.pure]

theorem cache_ok_iff {s : CacheSettings} : s.validate = .ok () ↔
    0 < s.resultSeconds ∧ 0 < s.queueSize ∧ Cache.isBucketName s.bucket = true := by
  have hopening : (s.opening .empty).validate = .ok () ↔
      0 < s.queueSize ∧ Cache.isBucketName s.bucket = true :=
    Cache.Settings.validate_ok_iff
  rw [CacheSettings.validate, check_ok_iff, checkPositive_ok_iff, ← hopening]
  cases (s.opening .empty).validate with
  | ok => simp
  | error => simp

theorem score_ok_iff {f : Factors} : f.validate = .ok () ↔
    (∀ name x, f.get? name = some x → x.isFinite = true) ∧
      ∀ repository x, f.repositories.get? repository = some x → x.isFinite = true := by
  unfold Factors.validate
  split
  · rename_i name hname
    have hfound := List.find?_some hname
    obtain ⟨x, hx, hinfinite⟩ := (Option.any_eq_true _ _).1 hfound
    refine ⟨nofun, fun h => ?_⟩
    simp [h.1 name x hx] at hinfinite
  · rename_i hnames
    have hfinite : ∀ name x, f.get? name = some x → x.isFinite = true := by
      intro name x hx
      have hmem : name ∈ Factors.names := by
        by_contra hmem
        rw [Factors.get?_of_not_mem hmem] at hx
        cases hx
      simpa [hx] using List.find?_eq_none.1 hnames name hmem
    split
    · rename_i repository x hx
      have hmem := SortedMap.mem_toList_iff.1 (List.mem_of_find?_eq_some hx)
      have hinfinite : ¬x.isFinite = true := by simpa using List.find?_some hx
      exact ⟨nofun, fun h => absurd (h.2 repository x hmem) hinfinite⟩
    · rename_i hrepositories
      refine ⟨fun _ => ⟨hfinite, fun repository x hx => ?_⟩, fun _ => rfl⟩
      simpa using List.find?_eq_none.1 hrepositories _ (SortedMap.mem_toList_iff.2 hx)

/-- Settings are valid when each of them holds something that it accepts. -/
theorem validate_ok_iff {c : Config} :
    c.validate = .ok () ↔ ∀ s v, c.get? s = some v → s.Accepts v := by
  rw [validate, check_ok_iff, check_ok_iff, check_ok_iff, check_ok_iff, engine_ok_iff,
    scoring_ok_iff, score_ok_iff, sort_ok_iff, cache_ok_iff]
  constructor
  · rintro ⟨⟨_, _, _⟩, ⟨_, _, _, _⟩, ⟨hweights, hrepositories⟩, ⟨_, _⟩, _, _, _⟩ s v hv
    cases s with
    | weight name => exact hweights name v hv
    | repositoryWeight repository => exact hrepositories repository v hv
    | cacheDirectory => trivial
    | _ =>
        cases hv
        first | assumption | trivial
  · intro h
    refine ⟨⟨h .engineConcurrency _ rfl, h .engineBatchSize _ rfl, h .engineTimeout _ rfl⟩,
      ⟨h .scoringConcurrency _ rfl, h .scoringBatchSize _ rfl, h .scoringTimeout _ rfl,
        h .scoringCacheTime _ rfl⟩,
      ⟨fun name => h (.weight name), fun repository => h (.repositoryWeight repository)⟩,
      ⟨h .sortBatchSize _ rfl, h .sortCriteria _ rfl⟩,
      h .cacheTime _ rfl, h .cacheQueueSize _ rfl, h .cacheBucket _ rfl⟩

end Config
end Triage
