/-
What is found in a cache was stored there.

Nothing is assumed of a cache here: its table may be missing, its bytes may be anything.  Reading
makes nothing new to be found, and storing a value only under its own key.  What is found there is
the value, as long as it has not expired, or the front of it if it was too long for its length to be
written.
-/
import Triage.Cache.Basic
import Triage.Proofs.Cache.Envelope
import Triage.Proofs.Cache.Storage

namespace Triage.Cache

open Triage.MessagePack

/-! ### Envelopes of any length -/

/-- Only the last bytes of a number are written. -/
theorem bigEndian_mod (width n : Nat) : bigEndian width (n % 256 ^ width) = bigEndian width n := by
  induction width generalizing n with
  | zero => rfl
  | succ width ih =>
      have hhigh : n % 256 ^ (width + 1) / 256 = n / 256 % 256 ^ width := by
        rw [Nat.pow_succ, Nat.mul_comm, Nat.mod_mul_right_div_self]
      have hlow : n % 256 ^ (width + 1) % 256 = n % 256 :=
        Nat.mod_mod_of_dvd n (Dvd.intro_left (256 ^ width) rfl)
      rw [bigEndian, bigEndian, hhigh, ih, hlow]

namespace Envelope

/-- The front of a value is read, as far as its length was written. -/
theorem reads_front (depth : Nat) (value : Bytes) : ∃ front, front <+: value ∧
    (front = value → value.length < UInt32.size) ∧ ∃ more,
    value.flatMap (fun b => encodeNat b.toNat) =
        front.flatMap (fun b => encodeNat b.toNat) ++ more ∧
      Reads (readValue (depth + 1))
        (encodeArrayStart value.length ++ front.flatMap fun b => encodeNat b.toNat)
        (contentValue front) := by
  have hbyte (front : Bytes) : ∀ b ∈ front,
      Reads (readValue depth) (encodeNat b.toNat) (.int b.toNat) :=
    fun b _ => reads_encodeNat depth (Nat.lt_trans b.toNat_lt (by decide))
  by_cases hshort : value.length < UInt32.size
  · exact ⟨value, List.prefix_refl _, fun _ => hshort, [], (List.append_nil _).symm,
      reads_array hshort (hbyte value)⟩
  · let front := value.take (value.length % UInt32.size)
    have hlength : front.length = value.length % UInt32.size := by
      rw [List.length_take, Nat.min_eq_left (Nat.mod_le ..)]
    have hstart : encodeArrayStart value.length = marked 0xdd 4 front.length := by
      rw [UInt32.size] at hshort
      rw [encodeArrayStart, if_neg (by omega), if_neg (by rw [UInt16.size]; omega), marked,
        marked, hlength]
      exact congrArg _ (bigEndian_mod 4 value.length).symm
    have hfront : front = value → value.length < UInt32.size := fun hwhole => by
      rw [← hwhole, hlength]
      exact Nat.mod_lt _ (by decide)
    refine ⟨front, List.take_prefix _ _, hfront, (value.drop (value.length % UInt32.size)).flatMap
      (fun b => encodeNat b.toNat), ?_, ?_⟩
    · rw [← List.flatMap_append, List.take_append_drop]
    · rw [hstart]
      exact reads_longArray (by rw [hlength]; exact Nat.mod_lt _ (by decide)) (hbyte front)

/-- **What is read of an envelope is the front of its value**, whatever its length and expiry.  Only
the value of a short one is read as a whole. -/
theorem prefix_of_decode? {e e' : Envelope} (h : decode? e.encode = some e') :
    e'.value <+: e.value ∧ (e'.value = e.value → e.value.length < UInt32.size) := by
  obtain ⟨front, hfront, hwhole, more, hmore, hreads⟩ := reads_front 1021 e.value
  have hbytes : e.encode = UInt8.ofNat (0x90 + 2) :: (encodeArrayStart e.value.length ++
      (front.flatMap fun b => encodeNat b.toNat) ++ (more ++ encodeExpiry e.expiresAt)) := by
    rw [encode, hmore]
    simp [encodeArrayStart]
  obtain ⟨v, hv, hvalue⟩ := Option.bind_eq_some_iff.1 h
  obtain ⟨⟨_, rest⟩, hread, rfl⟩ := Option.map_eq_some_iff.1 hv
  rw [hbytes, show depthLimit = 1022 + 1 from rfl, readValue,
    readAfter_array (readValue 1022) (by decide)] at hread
  obtain ⟨⟨items, _⟩, hitems, hread⟩ := Option.bind_eq_some_iff.1 hread
  cases hread
  obtain ⟨⟨first, _⟩, hfirst, hitems⟩ := Option.bind_eq_some_iff.1 hitems
  rw [hreads.append] at hfirst
  cases hfirst
  obtain ⟨⟨others, _⟩, hothers, hitems⟩ := Option.bind_eq_some_iff.1 hitems
  cases hitems
  obtain ⟨⟨second, _⟩, -, hothers⟩ := Option.bind_eq_some_iff.1 hothers
  cases hothers
  obtain ⟨content, hcontent, hvalue⟩ := Option.bind_eq_some_iff.1 hvalue
  obtain ⟨expiry, -, hvalue⟩ := Option.bind_eq_some_iff.1 hvalue
  cases hvalue
  cases (valueOf?_contentValue front).symm.trans hcontent
  exact ⟨hfront, hwhole⟩

/-- At a time the bytes may be found where the envelope was stored: they are the front of its value,
and the whole of it only before it expires. -/
def Shows (e : Envelope) (now : Int) (v : Bytes) : Prop :=
  v <+: e.value ∧ ((∀ time ∈ e.expiresAt, IsTime time) → v = e.value → e.isExpired now = false)

end Envelope

/-! ### Places -/

namespace Finding

variable {now : Int} {e : Envelope} {v : Bytes}

theorem shows_of_ofEnvelope (h : ofEnvelope now e = .live v) : e.Shows now v := by
  rw [ofEnvelope] at h
  split at h
  · cases h
  · rename_i hfresh
    cases h
    exact ⟨List.prefix_refl _, fun _ _ => by simpa using hfresh⟩

theorem shows_of_ofBytes (h : ofBytes now e.encode = .live v) : e.Shows now v := by
  rw [ofBytes] at h
  split at h
  · rename_i e' he'
    obtain ⟨hfront, hwhole⟩ := Envelope.prefix_of_decode? he'
    have hlive : v = e'.value := by
      rw [ofEnvelope] at h
      split at h
      · cases h
      · cases h
        rfl
    refine ⟨hlive ▸ hfront, fun hexpiry hvalue => ?_⟩
    -- the whole value is read only together with its expiry
    have hsame : e' = e := by
      have hdecode := Envelope.decode?_encode ⟨hwhole (hlive.symm.trans hvalue), hexpiry⟩
      exact Option.some.inj (he'.symm.trans hdecode)
    rw [hsame] at h
    exact (shows_of_ofEnvelope h).2 hexpiry hvalue
  · cases h

end Finding

namespace Place

variable {place place' : Place} {storage storage' : Storage} {now : Int} {key other : String}
  {e : Envelope} {v : Bytes}

/-- What is found after storing was stored, or was found before. -/
theorem find_of_store (h : place.store storage key e = some (place', storage'))
    (hlive : place'.find storage' now other = .live v) :
    (other = key ∧ e.Shows now v) ∨ place.find storage now other = .live v := by
  cases place with
  | nowhere =>
      cases h
      cases hlive
  | memory entries =>
      cases h
      rw [find, SortedMap.get?_insert] at hlive
      by_cases hkey : other = key
      · rw [if_pos hkey] at hlive
        exact .inl ⟨hkey, Finding.shows_of_ofEnvelope hlive⟩
      · rw [if_neg hkey] at hlive
        exact .inr hlive
  | table bucket =>
      obtain ⟨_, hupdate, h⟩ := Option.map_eq_some_iff.1 h
      cases h
      obtain ⟨rows, hrows, rfl⟩ := Option.map_eq_some_iff.1 hupdate
      simp only [find, Storage.table?_putTable, SortedMap.get?_insert] at hlive
      by_cases hkey : other = key
      · rw [if_pos hkey] at hlive
        exact .inl ⟨hkey, Finding.shows_of_ofBytes hlive⟩
      · rw [if_neg hkey] at hlive
        exact .inr (by simpa only [find, hrows] using hlive)
  | partition bucket number =>
      obtain ⟨_, hupdate, h⟩ := Option.map_eq_some_iff.1 h
      cases h
      obtain ⟨entries, hentries, rfl⟩ := Option.map_eq_some_iff.1 hupdate
      simp only [find, Storage.partition?_putPartition, if_pos, Option.bind_some,
        SortedMap.get?_insert] at hlive
      by_cases hkey : other = key
      · rw [if_pos hkey] at hlive
        exact .inl ⟨hkey, Finding.shows_of_ofBytes hlive⟩
      · rw [if_neg hkey] at hlive
        exact .inr (by simpa only [find, hentries, Option.bind_some] using hlive)

/-- What is found after removing was found before. -/
theorem find_of_remove (h : place.remove storage key = some (place', storage'))
    (hlive : place'.find storage' now other = .live v) :
    place.find storage now other = .live v := by
  cases place with
  | nowhere =>
      cases h
      cases hlive
  | memory entries =>
      cases h
      rw [find, SortedMap.get?_erase] at hlive
      by_cases hkey : other = key
      · rw [if_pos hkey] at hlive
        cases hlive
      · rwa [if_neg hkey] at hlive
  | table bucket =>
      obtain ⟨_, hupdate, h⟩ := Option.map_eq_some_iff.1 h
      cases h
      obtain ⟨rows, hrows, rfl⟩ := Option.map_eq_some_iff.1 hupdate
      simp only [find, Storage.table?_putTable, SortedMap.get?_erase] at hlive
      by_cases hkey : other = key
      · rw [if_pos hkey] at hlive
        cases hlive
      · rw [if_neg hkey] at hlive
        simpa only [find, hrows] using hlive
  | partition bucket number =>
      obtain ⟨_, hupdate, h⟩ := Option.map_eq_some_iff.1 h
      cases h
      obtain ⟨entries, hentries, rfl⟩ := Option.map_eq_some_iff.1 hupdate
      simp only [find, Storage.partition?_putPartition, if_pos, Option.bind_some,
        SortedMap.get?_erase] at hlive
      by_cases hkey : other = key
      · rw [if_pos hkey] at hlive
        cases hlive
      · rw [if_neg hkey] at hlive
        simpa only [find, hentries, Option.bind_some] using hlive

theorem find_of_evict {at' : Int} (h : place.evict storage at' key = some (place', storage'))
    (hlive : place'.find storage' now other = .live v) :
    place.find storage now other = .live v := by
  cases place with
  | memory entries =>
      rw [evict] at h
      split at h
      · have hremove : (memory entries).remove storage key = some (place', storage') := h
        exact find_of_remove hremove hlive
      · cases h
        exact hlive
  | nowhere =>
      cases h
      cases hlive
  | table bucket =>
      have hremove : (table bucket).remove storage key = some (place', storage') := h
      exact find_of_remove hremove hlive
  | partition bucket number =>
      have hremove : (partition bucket number).remove storage key = some (place', storage') := h
      exact find_of_remove hremove hlive

end Place

/-! ### Sessions -/

namespace Session

variable {s : Session} {now at' : Int} {key other : String} {value v : Bytes}

/-- What is found under a key. -/
def find (s : Session) (now : Int) (key : String) : Finding :=
  s.cache.place.find s.storage now key

theorem find_record (s : Session) (events : List Event) (now : Int) (key : String) :
    (s.record events).find now key = s.find now key := by
  unfold record
  split <;> rfl

theorem find_of_moveTo {change : Option (Place × Storage)}
    (h : (s.moveTo change).find now key = .live v) :
    s.find now key = .live v ∨ ∃ place storage, change = some (place, storage) ∧
      place.find storage now key = .live v := by
  cases change with
  | none => exact .inl (find_record s [.error] now key ▸ h)
  | some place => exact .inr ⟨place.1, place.2, rfl, h⟩

/-- Reading makes nothing new to be found. -/
theorem find_of_get (h : (s.get now key).2.find at' other = .live v) :
    s.find at' other = .live v := by
  rw [get] at h
  simp only at h
  rw [← find_record s (.get :: (s.cache.place.find s.storage now key).events) at' other]
  split at h
  · rcases find_of_moveTo h with h | ⟨place, storage, hevict, h⟩
    · exact h
    · exact Place.find_of_evict hevict h
  · exact h

/-- Storing makes nothing new to be found but the value. -/
theorem find_of_set {ttl : Option Nat} (h : (s.set now key value ttl).find at' other = .live v) :
    (other = key ∧ (Envelope.wrap now ttl value).Shows at' v) ∨ s.find at' other = .live v := by
  rw [set] at h
  rw [← find_record s [.set] at' other]
  rcases find_of_moveTo h with h | ⟨place, storage, hstore, h⟩
  · exact .inr h
  · exact Place.find_of_store hstore h

/-- What reading yields was found. -/
theorem find_of_get_eq_some (h : (s.get now key).1 = some v) : s.find now key = .live v := by
  rw [get] at h
  revert h
  show (s.find now key).value? = some v → _
  cases s.find now key with
  | live value =>
      intro h
      cases h
      rfl
  | absent | expired | undecodable | unreadable => exact fun h => nomatch h

end Session

end Triage.Cache
