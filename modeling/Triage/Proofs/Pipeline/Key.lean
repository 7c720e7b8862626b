/-
What the keys of a pipeline tell.

Results and scores share one cache, but never a key.  The key of a result tells, through a hash, the
query without the blanks around it, the criteria and, for each notification, its identifier and the
millisecond of its last change; that of a score tells the weights through a hash, the identifier and
the second.  What is hashed for a result can be taken apart where the criteria are known.  Where
they are not, the identifier of the first notification could be taken for one more criterion.
-/
import Triage.Pipeline
import Triage.Proofs.Cache.Key
import Triage.Proofs.Notification

namespace Triage

open Text Cache

/-- The milliseconds of a time in the calendar can be told. -/
theorem Calendar.Instant.isTime_toMillis {t : Instant} (h : t.isValid = true) :
    IsTime t.toMillis := by
  have hfirst : Instant.firstSecond = -8334601228800 := by decide
  have hlast : Instant.lastSecond = 8210266876799 := by decide
  simp only [Instant.isValid, Bool.and_eq_true, Bool.or_eq_true, decide_eq_true_eq] at h
  rw [nanosPerSecond] at h
  unfold IsTime Instant.toMillis
  rw [firstTime, lastTime]
  omega

theorem SortCriterion.ofText_describe (c : SortCriterion) :
    SortCriterion.ofText c.describe = .ok c := by
  obtain ⟨field, direction⟩ := c
  cases field <;> cases direction <;> rfl

theorem SortCriterion.describe_inj {c c' : SortCriterion} (h : c.describe = c'.describe) :
    c = c' := by
  have hread := c.ofText_describe
  rw [h, c'.ofText_describe] at hread
  exact (Except.ok.inj hread).symm

namespace Scorer

theorem toList_cacheKey (s : Scorer) (n : Notification) :
    (s.cacheKey n).toList = "score:".toList ++ ((fingerprintText s.fingerprint).toList ++
      ':' :: (n.id.toList ++ ':' :: (toString n.updatedAt.seconds).toList)) := by
  simp only [cacheKey, String.toList_append, List.append_assoc]
  rfl

/-- The first and the last part of a key hold no colon, so that the identifier is what is between
them. -/
theorem cacheKey_inj {s s' : Scorer} {n n' : Notification} (h : s.cacheKey n = s'.cacheKey n') :
    s.fingerprint = s'.fingerprint ∧ n.id = n'.id ∧
      n.updatedAt.seconds = n'.updatedAt.seconds := by
  have hlist := congrArg String.toList h
  rw [toList_cacheKey, toList_cacheKey] at hlist
  obtain ⟨hweights, hrest⟩ := first_part_inj (colon_not_mem_fingerprintText _)
    (colon_not_mem_fingerprintText _) (List.append_cancel_left hlist)
  obtain ⟨hid, hsecond⟩ := last_part_inj (colon_not_mem_toString_int _)
    (colon_not_mem_toString_int _) hrest
  exact ⟨fingerprintText_inj (String.toList_inj.1 hweights), String.toList_inj.1 hid,
    toString_int_inj (String.toList_inj.1 hsecond)⟩

/-- The key of a score is not that of a result. -/
theorem cacheKey_ne_results (s : Scorer) (n : Notification) (rest : String) :
    s.cacheKey n ≠ "results:" ++ rest := by
  intro h
  have hlist := congrArg String.toList h
  rw [toList_cacheKey, String.toList_append] at hlist
  exact absurd (List.cons.inj hlist).1 (by decide)

end Scorer

namespace Pipeline

/-- What a key tells about a list of notifications. -/
def marks (list : List Notification) : List (String × Int) :=
  list.map fun n => (n.id, n.updatedAt.toMillis)

theorem marks_inj {list list' : List Notification} (hproper : ∀ n ∈ list, n.Proper)
    (hproper' : ∀ n ∈ list', n.Proper)
    (h : list.flatMap Notification.hashedBytes = list'.flatMap Notification.hashedBytes) :
    marks list = marks list' := by
  have hne (n : Notification) (rest : MessagePack.Bytes) : n.hashedBytes ++ rest ≠ [] := by
    simp [Notification.hashedBytes, textPart_ne_nil]
  induction list generalizing list' with
  | nil =>
      cases list' with
      | nil => rfl
      | cons n rest => exact absurd h.symm (hne n _)
  | cons n rest ih =>
      cases list' with
      | nil => exact absurd h (hne n _)
      | cons n' rest' =>
          simp only [List.flatMap_cons, Notification.hashedBytes, List.append_assoc] at h
          obtain ⟨hn, hrest⟩ := List.forall_mem_cons.1 hproper
          obtain ⟨hn', hrest'⟩ := List.forall_mem_cons.1 hproper'
          obtain ⟨hid, h⟩ := textPart_append_inj h
          obtain ⟨hmillis, h⟩ := intPart_append_inj (Calendar.Instant.isTime_toMillis hn.updated)
            (Calendar.Instant.isTime_toMillis hn'.updated) h
          rw [marks, marks, List.map_cons, List.map_cons, hid, hmillis]
          exact congrArg _ (ih hrest hrest' h)

/-- The identifier of the first notification is not spelled like a criterion. -/
def Delimited (list : List Notification) : Prop :=
  ∀ n ∈ list.head?, ∀ criterion : SortCriterion, n.id ≠ criterion.describe

theorem Delimited.ne_append {list : List Notification} (h : Delimited list)
    (criterion : SortCriterion) (rest : MessagePack.Bytes) :
    list.flatMap Notification.hashedBytes ≠ criterion.hashedBytes ++ rest := by
  intro heq
  cases list with
  | nil => exact absurd heq.symm (by simp [SortCriterion.hashedBytes, textPart_ne_nil])
  | cons n others =>
      simp only [List.flatMap_cons, Notification.hashedBytes, List.append_assoc] at heq
      exact h n rfl criterion (textPart_append_inj heq).1

/-- The criteria end where notifications begin that are not mistaken for one of them. -/
theorem criteria_append_inj {cs cs' : List SortCriterion} {list list' : List Notification}
    (hlist : Delimited list) (hlist' : Delimited list')
    (h : cs.flatMap SortCriterion.hashedBytes ++ list.flatMap Notification.hashedBytes =
      cs'.flatMap SortCriterion.hashedBytes ++ list'.flatMap Notification.hashedBytes) :
    cs = cs' ∧
      list.flatMap Notification.hashedBytes = list'.flatMap Notification.hashedBytes := by
  induction cs generalizing cs' with
  | nil =>
      cases cs' with
      | nil => exact ⟨rfl, h⟩
      | cons c' rest' =>
          rw [List.flatMap_cons, List.append_assoc] at h
          exact absurd h (hlist.ne_append c' _)
  | cons c rest ih =>
      cases cs' with
      | nil =>
          rw [List.flatMap_cons, List.append_assoc] at h
          exact absurd h.symm (hlist'.ne_append c _)
      | cons c' rest' =>
          rw [List.flatMap_cons, List.flatMap_cons, List.append_assoc, List.append_assoc] at h
          obtain ⟨hcriterion, h⟩ := textPart_append_inj h
          obtain ⟨hrest, h⟩ := ih h
          exact ⟨by rw [SortCriterion.describe_inj hcriterion, hrest], h⟩

/-- What is hashed for a run tells its query, its criteria and the marks of its notifications, if
the criteria are known or can be told from the notifications. -/
theorem hashedBytes_inj {p p' : Pipeline} {query query' : String} {list list' : List Notification}
    (hproper : ∀ n ∈ list, n.Proper) (hproper' : ∀ n ∈ list', n.Proper)
    (hcriteria : p.sorter.criteria = p'.sorter.criteria ∨ Delimited list ∧ Delimited list')
    (h : p.hashedBytes query list = p'.hashedBytes query' list') :
    trim query = trim query' ∧ p.sorter.criteria = p'.sorter.criteria ∧
      marks list = marks list' := by
  obtain ⟨hquery, h⟩ := textPart_append_inj h
  rcases hcriteria with hcriteria | ⟨hlist, hlist'⟩
  · rw [hcriteria] at h
    exact ⟨hquery, hcriteria, marks_inj hproper hproper' (List.append_cancel_left h)⟩
  · obtain ⟨hcriteria, h⟩ := criteria_append_inj hlist hlist' h
    exact ⟨hquery, hcriteria, marks_inj hproper hproper' h⟩

/-- Keys of results are the same only if the hashes are. -/
theorem hash_eq_of_cacheKey_eq {p p' : Pipeline} {query query' : String}
    {list list' : List Notification} (h : p.cacheKey query list = p'.cacheKey query' list') :
    p.scorer.hash (p.hashedBytes query list) = p'.scorer.hash (p'.hashedBytes query' list') :=
  fingerprintText_inj ((String.append_right_inj _).1 h)

end Pipeline

end Triage
