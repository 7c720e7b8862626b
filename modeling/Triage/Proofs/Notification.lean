/-
Notifications come back from their JSON.

A notification is proper if its kind has the spelling that it is read in and its times are those
of the calendar.  Whatever is read from a source is proper, and so is what is built from parts of
that kind.  A proper notification is written and read back as it is.
-/
import Triage.Notification.Json
import Triage.Proofs.Calendar.Timestamp
import Triage.Proofs.Except
import Triage.Proofs.Json.Records
import Triage.Source

namespace Triage

open Calendar

/-! ### Kinds and reasons -/

namespace SubjectType

theorem eq_of_ofText_eq_other {text name : String} (h : ofText text = other name) :
    name = text := by
  unfold ofText at h
  simp only at h
  repeat' split at h
  all_goals cases h
  rfl

/-- A kind that was read is read again from its name. -/
theorem ofText_name_ofText (text : String) : ofText (ofText text).name = ofText text := by
  cases h : ofText text with
  | other name =>
      rw [← eq_of_ofText_eq_other h] at h
      exact h
  | pullRequest | issue | discussion | release | commit | checkSuite => rfl

end SubjectType

theorem Reason.ofName_name (r : Reason) : Reason.ofName r.name = r := by
  cases r <;> rfl

/-! ### Times -/

theorem Calendar.Instant.isValid_of_checked {t t' : Instant} (h : t.checked = some t') :
    t'.isValid = true := by
  unfold checked at h
  split at h
  · cases h
    assumption
  · cases h

theorem Calendar.Fields.isValid_of_toInstant? {f : Fields} {t : Instant}
    (h : f.toInstant? = some t) : t.isValid = true := by
  unfold toInstant? at h
  split at h
  · exact Instant.isValid_of_checked h
  · cases h

/-- A time that was read is one of the calendar. -/
theorem Calendar.isValid_of_readLenient? {s : String} {t : Instant}
    (h : readLenient? s = some t) : t.isValid = true := by
  unfold readLenient? at h
  obtain ⟨_, -, h⟩ := Option.bind_eq_some_iff.1 h
  obtain ⟨_, -, h⟩ := Option.bind_eq_some_iff.1 h
  obtain ⟨_, -, h⟩ := Option.bind_eq_some_iff.1 h
  obtain ⟨_, -, h⟩ := Option.bind_eq_some_iff.1 h
  obtain ⟨_, -, h⟩ := Option.bind_eq_some_iff.1 h
  obtain ⟨_, -, h⟩ := Option.bind_eq_some_iff.1 h
  obtain ⟨_, -, h⟩ := Option.bind_eq_some_iff.1 h
  obtain ⟨_, -, h⟩ := Option.bind_eq_some_iff.1 h
  obtain ⟨_, -, h⟩ := Option.bind_eq_some_iff.1 h
  simp only at h
  split at h
  · exact Fields.isValid_of_toInstant? h
  · cases h

theorem Calendar.Instant.isValid_of_ofJson {json : Json} {t : Instant}
    (h : Instant.ofJson json = some t) : t.isValid = true := by
  obtain ⟨s, -, h⟩ := Option.bind_eq_some_iff.1 h
  exact isValid_of_readLenient? h

theorem Calendar.Instant.ofJson_toJson {t : Instant} (h : t.isValid = true) :
    Instant.ofJson t.toJson = some t := by
  rw [ofJson, toJson, Json.asString_str, Option.bind_some, readLenient?_toZuluText h]

namespace Notification

/-! ### Proper notifications -/

/-- The kind has the spelling that it is read in, and all times are those of the calendar. -/
structure Proper (n : Notification) : Prop where
  kind : SubjectType.ofText n.typeName = n.subject.type
  updated : n.updatedAt.isValid = true
  lastRead : ∀ t ∈ n.lastReadAt, t.isValid = true

instance (n : Notification) : Decidable n.Proper :=
  decidable_of_iff (SubjectType.ofText n.typeName = n.subject.type ∧ n.updatedAt.isValid = true ∧
      ∀ t ∈ n.lastReadAt, t.isValid = true)
    ⟨fun ⟨kind, updated, lastRead⟩ => ⟨kind, updated, lastRead⟩,
      fun h => ⟨h.kind, h.updated, h.lastRead⟩⟩

theorem proper_build (id fullName kind title : String) (reason : Reason) (unread : Bool)
    {updatedAt : Instant} (h : updatedAt.isValid = true) :
    (build id fullName (.ofText kind) title reason unread updatedAt).Proper where
  kind := SubjectType.ofText_name_ofText kind
  updated := h
  lastRead := nofun

/-- What is read from a source is proper. -/
theorem proper_of_ofJson {json : Json} {n : Notification} (h : ofJson json = some n) :
    n.Proper := by
  obtain ⟨r, -, h⟩ := Option.bind_eq_some_iff.1 h
  obtain ⟨id, -, h⟩ := Option.bind_eq_some_iff.1 h
  obtain ⟨repository, -, h⟩ := Option.bind_eq_some_iff.1 h
  obtain ⟨subject, hsubject, h⟩ := Option.bind_eq_some_iff.1 h
  obtain ⟨reason, -, h⟩ := Option.bind_eq_some_iff.1 h
  obtain ⟨unread, -, h⟩ := Option.bind_eq_some_iff.1 h
  obtain ⟨updatedAt, hupdated, h⟩ := Option.bind_eq_some_iff.1 h
  obtain ⟨lastReadAt, hlast, h⟩ := Option.bind_eq_some_iff.1 h
  obtain ⟨url, -, h⟩ := Option.bind_eq_some_iff.1 h
  cases h
  refine ⟨?_, ?_, ?_⟩
  · obtain ⟨_, -, hsubject⟩ := Option.bind_eq_some_iff.1 hsubject
    obtain ⟨_, -, hsubject⟩ := Option.bind_eq_some_iff.1 hsubject
    obtain ⟨title, -, hsubject⟩ := Option.bind_eq_some_iff.1 hsubject
    obtain ⟨kind, -, hsubject⟩ := Option.bind_eq_some_iff.1 hsubject
    obtain ⟨_, -, hsubject⟩ := Option.bind_eq_some_iff.1 hsubject
    obtain ⟨_, -, hsubject⟩ := Option.bind_eq_some_iff.1 hsubject
    cases hsubject
    exact SubjectType.ofText_name_ofText kind
  · obtain ⟨_, -, hupdated⟩ := Option.bind_eq_some_iff.1 hupdated
    exact Instant.isValid_of_ofJson hupdated
  · intro t ht
    cases ht
    unfold Json.Record.optional at hlast
    split at hlast
    · exact Instant.isValid_of_ofJson (Json.eq_some_of_asOption hlast)
    · cases hlast

/-! ### Reading back -/

open Json.Record (required_bind optional_bind)

theorem ownerOfJson_obj (login : String) :
    ownerOfJson (.obj [("login", .str login)]) = some login := by
  rw [ownerOfJson, Json.asRecord_obj (by simp)]
  rfl

theorem repositoryOfJson_repositoryToJson (r : Repository) :
    repositoryOfJson (repositoryToJson r) = some r := by
  rw [repositoryOfJson, repositoryToJson, Json.asRecord_obj (by simp), Option.bind_eq_bind,
    Option.bind_some]
  refine optional_bind rfl (Json.asNatBelow_ofNat r.id.toNat_lt) ?_
  refine required_bind rfl (Json.asString_str _) (required_bind rfl (Json.asString_str _) ?_)
  refine required_bind rfl (ownerOfJson_obj _) ?_
  refine optional_bind rfl (Json.asBool_bool _) (optional_bind rfl (Json.asString_str _) ?_)
  rw [UInt64.ofNat_toNat]

theorem asOption_asString_ofOption (s : Option String) :
    Json.asOption Json.asString (.ofOption .str s) = some s :=
  Json.asOption_ofOption (fun _ => nofun) fun _ _ => rfl

theorem subjectOfJson_subjectToJson {s : Subject} (h : SubjectType.ofText s.type.name = s.type) :
    subjectOfJson (subjectToJson s) = some s := by
  rw [subjectOfJson, subjectToJson, Json.asRecord_obj (by simp), Option.bind_eq_bind, Option.bind_some]
  refine required_bind rfl (Json.asString_str _) (required_bind rfl (Json.asString_str _) ?_)
  refine optional_bind rfl (asOption_asString_ofOption _) ?_
  refine optional_bind rfl (asOption_asString_ofOption _) ?_
  rw [h]

/-- A proper notification is read back from its JSON. -/
theorem ofJson_toJson {n : Notification} (h : n.Proper) : ofJson n.toJson = some n := by
  have hlast : Json.asOption Instant.ofJson (.ofOption Instant.toJson n.lastReadAt) =
      some n.lastReadAt :=
    Json.asOption_ofOption (fun _ => nofun) fun t ht => Instant.ofJson_toJson (h.lastRead t ht)
  have hreason : Reason.ofJson (.str n.reason.name) = some n.reason :=
    congrArg some n.reason.ofName_name
  rw [ofJson, toJson, Json.asRecord_obj (by simp), Option.bind_eq_bind, Option.bind_some]
  refine required_bind rfl (Json.asString_str _) ?_
  refine required_bind rfl (repositoryOfJson_repositoryToJson _) ?_
  refine required_bind rfl (subjectOfJson_subjectToJson h.kind) ?_
  refine required_bind rfl hreason (required_bind rfl (Json.asBool_bool _) ?_)
  refine required_bind rfl (Instant.ofJson_toJson h.updated) ?_
  exact optional_bind rfl hlast (optional_bind rfl (Json.asString_str _) rfl)

/-- The proper notifications are those that some JSON is read as. -/
theorem proper_iff_exists_ofJson {n : Notification} : n.Proper ↔ ∃ json, ofJson json = some n :=
  ⟨fun h => ⟨_, ofJson_toJson h⟩, fun ⟨_, h⟩ => proper_of_ofJson h⟩

theorem listOfJson_listToJson {list : List Notification} (h : ∀ n ∈ list, n.Proper) :
    listOfJson (listToJson list) = some list :=
  Json.asList_array fun n hn => ofJson_toJson (h n hn)

theorem proper_of_listOfJson {json : Json} {list : List Notification}
    (h : listOfJson json = some list) : ∀ n ∈ list, n.Proper := by
  intro n hn
  obtain ⟨item, hitem⟩ := Json.exists_of_mem_asList h hn
  exact proper_of_ofJson hitem

/-! ### Writing -/

theorem writable_repositoryToJson (r : Repository) : (repositoryToJson r).Writable := by
  have howner : (Json.obj [("login", .str r.owner)]).Writable :=
    Json.writable_obj (by simp [Json.writable_str])
  exact Json.writable_obj
    (by simp [Json.writable_ofNat, Json.writable_str, Json.writable_bool, howner])

theorem writable_subjectToJson (s : Subject) : (subjectToJson s).Writable :=
  Json.writable_obj (by simp [Json.writable_str, Json.writable_ofOption Json.writable_str])

theorem writable_toJson (n : Notification) : n.toJson.Writable := by
  have htime (t : Instant) : t.toJson.Writable := Json.writable_str _
  exact Json.writable_obj (by
    simp [Json.writable_str, Json.writable_bool, writable_repositoryToJson,
      writable_subjectToJson, htime, Json.writable_ofOption htime])

theorem writable_listToJson (list : List Notification) : (listToJson list).Writable :=
  Json.writable_array fun item hitem => by
    obtain ⟨n, -, rfl⟩ := List.mem_map.1 hitem
    exact n.writable_toJson

theorem isBracketed_listToJson (list : List Notification) : (listToJson list).IsBracketed := by
  simp [listToJson, Json.IsBracketed]

end Notification

/-! ### Sources -/

namespace Source

variable {source : Source} {list : List Notification}

/-- All notifications of a source are proper, if those are that it has at hand. -/
theorem proper_of_all (h : source.all = .ok list)
    (hlist : ∀ l, source = .list l → ∀ n ∈ l, n.Proper) : ∀ n ∈ list, n.Proper := by
  cases source with
  | list l =>
      cases h
      exact hlist _ rfl
  | file text =>
      cases text with
      | error fault => cases h
      | ok text =>
          rw [all] at h
          split at h
          · rename_i hread
            cases h
            obtain ⟨json, -, hjson⟩ := Option.bind_eq_some_iff.1 hread
            exact Notification.proper_of_listOfJson hjson
          · cases h

/-- What is fetched from a file is proper, and so is what is fetched from proper notifications. -/
theorem proper_of_fetch {parameters : FetchParameters} (h : source.fetch parameters = .ok list)
    (hlist : ∀ l, source = .list l → ∀ n ∈ l, n.Proper) : ∀ n ∈ list, n.Proper := by
  obtain ⟨all, hall, h⟩ := bind_ok_iff.1 h
  cases h
  exact fun n hn => proper_of_all hall hlist n (List.mem_filter.1 hn).1

end Source

end Triage
