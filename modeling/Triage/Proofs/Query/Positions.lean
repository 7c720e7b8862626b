/-
A filter names a bucket that holds exactly the positions of one value, and all that it accepts.

Names are compared in three ways: a pattern matches up to ASCII case, kinds of subject are equal up
to ASCII case, and a bucket has its name in lower case.  That these agree is shown once, for the
buckets that conditions name; a filter only ever hands on the bucket of one of its conditions.
-/
import Triage.Proofs.Query.Bucket
import Triage.Proofs.Text

namespace Triage

open Text

/-! ### Values -/

namespace IndexKey

/-- The notification has the value that the bucket is for.  Names may differ in ASCII case, the
read state is compared as it is. -/
def IsValueOf (n : Notification) : IndexKey → Prop
  | repository name => eqIgnoreCase n.repo name = true
  | organization name => eqIgnoreCase n.owner name = true
  | type name => eqIgnoreCase n.typeName name = true
  | unread value => n.unread = value

/-- The name of the bucket has no ASCII capitals. -/
def IsLower : IndexKey → Prop
  | repository name | organization name | type name => asciiLower name = name
  | unread _ => True

/-- A notification belongs to the buckets of its values. -/
theorem mem_keys_iff {k : IndexKey} (hlower : k.IsLower) (n : Notification) :
    k ∈ n.keys ↔ k.IsValueOf n := by
  cases k with
  | repository name | organization name | type name =>
      have hname : asciiLower name = name := hlower
      rw [IsValueOf, eqIgnoreCase_iff, hname]
      simpa [Notification.keys] using eq_comm
  | unread value =>
      rw [IsValueOf]
      simpa [Notification.keys] using eq_comm

end IndexKey

/-! ### Conditions -/

namespace Predicate

/-- The conditions that can be built. -/
inductive Built : Predicate → Prop
  | anything : Built anything
  | type (text : String) : Built (ofType text)
  | reason (text : String) : Built (ofReason text)
  | unread (value : Bool) : Built (unread value)
  | repository {text : String} {p : Predicate} (h : ofRepository text = .ok p) : Built p
  | organization {text : String} {p : Predicate} (h : ofOrganization text = .ok p) : Built p
  | text (needle : String) : Built (ofText needle)
  | field {name pattern : String} {p : Predicate} (h : ofField name pattern = .ok p) : Built p
  | updated (window : Window) : Built (updated window)
  | score (range : ScoreRange) : Built (score range)

/-- A condition that was built has its pattern from the text of the pattern. -/
theorem Built.isRead {p : Predicate} (h : p.Built) : p.IsRead := by
  cases h with
  | repository h =>
      obtain ⟨glob, hglob, rfl⟩ := ofRepository_ok_iff.1 h
      rwa [← Glob.text_of_ofText hglob] at hglob
  | organization h =>
      obtain ⟨glob, hglob, rfl⟩ := ofOrganization_ok_iff.1 h
      rwa [← Glob.text_of_ofText hglob] at hglob
  | field h =>
      rw [ofField] at h
      split at h
      · cases h
        trivial
      · cases h
  | anything | type | reason | unread | text | updated | score => trivial

theorem isLower_of_key? {p : Predicate} {k : IndexKey} (h : p.key? = some k) : k.IsLower := by
  cases p with
  | type | unread => cases h; simp [IndexKey.IsLower]
  | repository glob | organization glob =>
      rw [key?] at h
      split at h
      · cases h; simp [IndexKey.IsLower]
      · cases h
  | anything | reason | text | field | updated | score => cases h

/-- As `mem_keys_of_holds`, whatever asking for a score does. -/
theorem mem_keys_of_check {σ : Type} {p : Predicate} {k : IndexKey}
    {score : Notification → StateM σ UInt8} {n : Notification} {s : σ} (hread : p.IsRead)
    (hkey : p.key? = some k) (h : ((p.check score n).run s).run.1 = true) : k ∈ n.keys := by
  cases p with
  | score => cases hkey
  | anything | type | reason | unread | repository | organization | text | field | updated =>
      exact @mem_keys_of_holds _ _ (fun _ => 0) _ hread hkey h

end Predicate

/-! ### Formulas -/

namespace Formula

variable {α κ σ : Type} {key : α → Option κ} {k : κ}

mutual

/-- The key of a formula is the key of one of its conditions. -/
theorem exists_of_key? : (f : Formula α) → f.key? key = some k → ∃ a, key a = some k
  | atom a, h => ⟨a, h⟩
  | all members, h => exists_of_firstKey? members h
  | any _, h => nomatch h
  | not _, h => nomatch h

theorem exists_of_firstKey? :
    (l : List (Formula α)) → firstKey? key l = some k → ∃ a, key a = some k
  | [], h => nomatch h
  | member :: rest, h => by
    rw [firstKey?, Option.or_eq_some_iff] at h
    rcases h with h | ⟨-, h⟩
    · exact exists_of_key? member h
    · exact exists_of_firstKey? rest h

end

variable {test : α → StateM σ Bool} {Member : κ → Prop}

/-- If all of several formulas hold, so does the first, and the others where it has left off. -/
theorem of_checkAll_cons {member : Formula α} {rest : List (Formula α)} {s : σ}
    (h : ((checkAll test (member :: rest)).run s).run.1 = true) :
    ((member.check test).run s).run.1 = true ∧
      ((checkAll test rest).run ((member.check test).run s).run.2).run.1 = true := by
  have hrun : ((checkAll test (member :: rest)).run s).run =
      if ((member.check test).run s).run.1 = true then
        ((checkAll test rest).run ((member.check test).run s).run.2).run
      else (false, ((member.check test).run s).run.2) := by
    rw [checkAll]
    cases hmember : ((member.check test).run s).run with
    | mk answer s' => cases answer <;> simp [hmember]
  rw [hrun] at h
  split at h
  · exact ⟨‹_›, h⟩
  · cases h

mutual

/-- As `member_of_key?`, for tests that may change what the tests after them find. -/
theorem member_of_key?_of_check : (f : Formula α) →
    f.Every (fun a => ∀ k s, key a = some k → ((test a).run s).run.1 = true → Member k) →
      f.key? key = some k → ∀ s, ((f.check test).run s).run.1 = true → Member k
  | atom _, h, hkey, s, hholds => h k s hkey hholds
  | all members, h, hkey, s, hholds => member_of_firstKey?_of_checkAll members h hkey s hholds
  | any _, _, hkey, _, _ => nomatch hkey
  | not _, _, hkey, _, _ => nomatch hkey

theorem member_of_firstKey?_of_checkAll : (l : List (Formula α)) →
    EveryMember (fun a => ∀ k s, key a = some k → ((test a).run s).run.1 = true → Member k) l →
      firstKey? key l = some k → ∀ s, ((checkAll test l).run s).run.1 = true → Member k
  | [], _, hkey, _, _ => nomatch hkey
  | member :: rest, h, hkey, s, hholds => by
    obtain ⟨hmember, hrest⟩ := of_checkAll_cons hholds
    rw [firstKey?, Option.or_eq_some_iff] at hkey
    rcases hkey with hkey | ⟨-, hkey⟩
    · exact member_of_key?_of_check member h.1 hkey s hmember
    · exact member_of_firstKey?_of_checkAll rest h.2 hkey _ hrest

end

end Formula

/-! ### Filters -/

namespace Filter

theorem mem_lookup_iff_of_key? {f : Filter} {k : IndexKey} (hkey : f.key? = some k)
    (list : List Notification) (i : Nat) :
    i ∈ (Index.ofList list).lookup k ↔ ∃ n, list[i]? = some n ∧ k.IsValueOf n := by
  obtain ⟨p, hp⟩ := Formula.exists_of_key? f hkey
  simp only [Index.mem_lookup_ofList, IndexKey.mem_keys_iff (Predicate.isLower_of_key? hp)]

theorem mem_keys_of_acceptsM {σ : Type} {f : Filter} {k : IndexKey}
    {score : Notification → StateM σ UInt8} {n : Notification} {s : σ}
    (hbuilt : f.Every Predicate.Built) (hkey : f.key? = some k)
    (h : ((f.acceptsM score n).run s).run.1 = true) : k ∈ n.keys :=
  Formula.member_of_key?_of_check f
    (Formula.Every.imp (fun _ hp _ _ => Predicate.mem_keys_of_check hp.isRead) f hbuilt) hkey s h

/-- Scores that are known need no state. -/
theorem acceptsM_pure (f : Filter) (score : Notification → UInt8) (n : Notification) :
    f.acceptsM (m := StateM Unit) (fun n => pure (score n)) n = pure (f.accepts score n) := by
  have hcheck : Predicate.check (m := StateM Unit) (fun n => pure (score n)) n =
      fun p => pure (p.holds score n) :=
    funext fun p => Predicate.check_pure score n p
  rw [acceptsM, hcheck, Formula.check_pure, accepts]

/--
**The bucket that a filter names is exactly the positions of a value, and holds all that the filter
accepts.**  The positions are in ascending order.  A notification is accepted whatever the scores
are, and also where asking for a score reads and changes a state, such as a cache: scores then need
not even be the same from one question to the next.
-/
theorem lookup_of_key? (f : Filter) (hbuilt : f.Every Predicate.Built)
    (list : List Notification) (k : IndexKey) (hkey : f.key? = some k) :
    ((Index.ofList list).lookup k).Pairwise (· < ·) ∧
      (∀ i, i ∈ (Index.ofList list).lookup k ↔ ∃ n, list[i]? = some n ∧ k.IsValueOf n) ∧
      (∀ (score : Notification → UInt8) (i : Nat) (n : Notification),
        list[i]? = some n → f.accepts score n = true → i ∈ (Index.ofList list).lookup k) ∧
      (∀ (σ : Type) (score : Notification → StateM σ UInt8) (s : σ) (i : Nat) (n : Notification),
        list[i]? = some n → ((f.acceptsM score n).run s).run.1 = true →
          i ∈ (Index.ofList list).lookup k) := by
  have heffect : ∀ (σ : Type) (score : Notification → StateM σ UInt8) (s : σ) (i : Nat)
      (n : Notification), list[i]? = some n → ((f.acceptsM score n).run s).run.1 = true →
        i ∈ (Index.ofList list).lookup k :=
    fun _ _ _ _ n hn haccepts =>
      Index.mem_lookup_ofList.2 ⟨n, hn, mem_keys_of_acceptsM hbuilt hkey haccepts⟩
  refine ⟨Index.pairwise_lookup_ofList k list, mem_lookup_iff_of_key? hkey list, ?_, heffect⟩
  intro score i n hn haccepts
  refine heffect Unit (fun n => pure (score n)) () i n hn ?_
  rw [acceptsM_pure]
  exact haccepts

/-- A read notification of one repository, in two spellings, below a node for each operator. -/
theorem lookup_of_key?_repository :
    let glob : Glob := ⟨"Octo/Hello", "Octo/Hello".toList.map .char⟩
    let f : Filter := .all [.all [], .any [.atom (.unread true), .atom (.score ⟨some 0, none⟩)],
      .not (.atom (.unread true)), .atom (.repository glob), .any [.atom (.ofType "pr")]]
    let item (id repo : String) (kind : SubjectType) (unread : Bool) : Notification :=
      .build id repo kind "" .mention unread ⟨0, 0⟩
    let list := [item "1" "octo/hello" .pullRequest false, item "2" "octo/world" .pullRequest false,
      item "3" "octo/hello" .pullRequest true, item "4" "OCTO/hello" (.other "pullrequest") false]
    f.Every Predicate.Built ∧ f.key? = some (.repository "octo/hello") ∧
      (Index.ofList list).lookup (.repository "octo/hello") = [0, 2, 3] ∧
      list.map (f.accepts fun _ => 50) = [true, false, false, true] ∧
      (∀ i, i ∈ (Index.ofList list).lookup (.repository "octo/hello") ↔
        ∃ n, list[i]? = some n ∧ eqIgnoreCase n.repo "octo/hello" = true) ∧
      ∀ i n, list[i]? = some n → f.accepts (fun _ => 50) n = true →
        i ∈ (Index.ofList list).lookup (.repository "octo/hello") := by
  intro glob f item list
  have hglob : Predicate.ofRepository "Octo/Hello" = .ok (.repository glob) := by
    rw [Predicate.ofRepository, Glob.ofText,
      Glob.readItems_of_isPlain (Glob.isPlain_of_isLiteral (by decide))]
    rfl
  have hbuilt : f.Every Predicate.Built :=
    ⟨trivial, ⟨.unread true, .score _, trivial⟩, .unread true, .repository hglob,
      ⟨.type "pr", trivial⟩, trivial⟩
  have hkey : f.key? = some (.repository "octo/hello") := by decide +kernel
  obtain ⟨-, hexact, hholds, -⟩ := lookup_of_key? f hbuilt list _ hkey
  exact ⟨hbuilt, hkey, by decide +kernel, by decide +kernel, hexact, hholds fun _ => 50⟩

end Filter

end Triage
