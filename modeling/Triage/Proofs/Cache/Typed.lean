/-
Typed values in a cache.

A cache is sound for a property of keys and values if whatever is found in it has that property.
Reading and storing keep a cache sound, a new one is sound for every property, and where values are
JSON, one that can be read back was stored as it is: the front of a longer one cannot be read.
-/
import Triage.Cache.Typed
import Triage.Proofs.Cache.Found
import Triage.Proofs.Except
import Triage.Proofs.Json.Values

namespace Triage.Cache

open Triage.MessagePack

/-! ### Texts as bytes -/

theorem toList_loop (bytes : ByteArray) (i : Nat) (seen : List UInt8) :
    ByteArray.toList.loop bytes i seen = seen.reverse ++ bytes.data.toList.drop i := by
  rw [ByteArray.toList.loop]
  split
  · rename_i hlt
    have hlt : i < bytes.data.size := hlt
    have hget : bytes.get! i = bytes.data[i] := by
      show bytes.data[i]! = _
      rw [getElem!_pos bytes.data i hlt]
    have hdrop : bytes.data.toList.drop i = bytes.data[i] :: bytes.data.toList.drop (i + 1) := by
      rw [List.drop_eq_getElem_cons (by simpa using hlt), Array.getElem_toList]
    rw [toList_loop bytes (i + 1), hget, hdrop]
    simp
  · rename_i hge
    have hge : ¬i < bytes.data.size := hge
    rw [List.drop_eq_nil_of_le (by simpa using hge), List.append_nil]
termination_by bytes.data.size - i

theorem toArray_bytesOfText (text : String) :
    (⟨(bytesOfText text).toArray⟩ : ByteArray) = text.toByteArray := by
  have hlist : bytesOfText text = text.toByteArray.data.toList := by
    rw [bytesOfText, String.toUTF8_eq_toByteArray, ByteArray.toList, toList_loop]
    rfl
  rw [hlist]

theorem textOfBytes?_bytesOfText (text : String) : textOfBytes? (bytesOfText text) = some text := by
  rw [textOfBytes?, toArray_bytesOfText, String.fromUTF8?, dif_pos text.isValidUTF8]
  rfl

theorem toByteArray_of_textOfBytes? {bytes : Bytes} {text : String}
    (h : textOfBytes? bytes = some text) : text.toByteArray = ⟨bytes.toArray⟩ := by
  rw [textOfBytes?, String.fromUTF8?] at h
  split at h
  · cases h
    rfl
  · cases h

/-- The front of the bytes of a text, if it is a text, is the front of that text. -/
theorem prefix_of_textOfBytes? {text front : String} {bytes : Bytes}
    (hbytes : bytes <+: bytesOfText text) (h : textOfBytes? bytes = some front) :
    front.toList <+: text.toList := by
  obtain ⟨more, hmore⟩ := hbytes
  refine List.isPrefix_of_utf8Encode_append_eq_utf8Encode ⟨more.toArray⟩ ?_
  rw [String.utf8Encode_toList, String.utf8Encode_toList, toByteArray_of_textOfBytes? h,
    ← toArray_bytesOfText, ← hmore]
  apply ByteArray.ext
  simp

/-! ### JSON as bytes -/

theorem jsonOfBytes?_compact {json : Json} (h : json.Writable) :
    jsonOfBytes? (bytesOfText json.compact) = some json := by
  rw [jsonOfBytes?, textOfBytes?_bytesOfText, Option.bind_some, Json.read?_compact h]

/-- What can be read of the front of an array or an object is the whole of it. -/
theorem eq_of_jsonOfBytes? {json found : Json} {bytes : Bytes} (h : json.Writable)
    (hbracketed : json.IsBracketed) (hbytes : bytes <+: bytesOfText json.compact)
    (hfound : jsonOfBytes? bytes = some found) :
    found = json ∧ bytes = bytesOfText json.compact := by
  obtain ⟨text, htext, hread⟩ := Option.bind_eq_some_iff.1 hfound
  have hprefix := prefix_of_textOfBytes? hbytes htext
  rw [Json.compact, String.toList_ofList] at hprefix
  by_cases hwhole : text.toList = json.compactChars
  · have htext' : text = json.compact := by
      rw [Json.compact, ← hwhole, String.ofList_toList]
    rw [htext', Json.read?_compact h] at hread
    refine ⟨(Option.some.inj hread).symm, hbytes.eq_of_length ?_⟩
    have hsame := toByteArray_of_textOfBytes? htext
    rw [htext', ← toArray_bytesOfText] at hsame
    simpa using congrArg (·.data.toList.length) hsame.symm
  · have htorn := Json.read?_of_torn h hbracketed hprefix hwhole
    rw [String.ofList_toList, hread] at htorn
    cases htorn

/-! ### Sound sessions -/

namespace Session

variable {Good : Int → String → Bytes → Prop} {Means : String → Json → Prop} {s : Session}
  {now : Int} {key : String}

/-- Whatever is found in a cache at some time has a property. -/
def Sound (Good : Int → String → Bytes → Prop) (s : Session) : Prop :=
  ∀ now key v, s.find now key = .live v → Good now key v

theorem Sound.get (h : s.Sound Good) (now : Int) (key : String) :
    (s.get now key).2.Sound Good ∧ ∀ v, (s.get now key).1 = some v → Good now key v :=
  ⟨fun _ _ _ hlive => h _ _ _ (find_of_get hlive),
    fun _ hget => h _ _ _ (find_of_get_eq_some hget)⟩

theorem Sound.set (h : s.Sound Good) {value : Bytes} (ttl : Option Nat)
    (hvalue : ∀ at' v, (Envelope.wrap now ttl value).Shows at' v → Good at' key v) :
    (s.set now key value ttl).Sound Good := by
  intro at' other v hlive
  rcases find_of_set hlive with ⟨rfl, hshows⟩ | hbefore
  · exact hvalue at' v hshows
  · exact h at' other v hbefore

theorem Sound.getJson {α : Type} (h : s.Sound Good) (now : Int) (key : String)
    (decode : Json → Option α) : (s.getJson now key decode).2.Sound Good ∧
      ∀ a, (s.getJson now key decode).1 = some a →
        ∃ v, Good now key v ∧ (jsonOfBytes? v).bind decode = some a := by
  obtain ⟨hsound, hgood⟩ := h.get now key
  refine ⟨hsound, fun a ha => ?_⟩
  obtain ⟨found, hfound, hdecode⟩ := Option.bind_eq_some_iff.1 ha
  obtain ⟨v, hv, hjson⟩ := Option.bind_eq_some_iff.1 hfound
  exact ⟨v, hgood v hv, Option.bind_eq_some_iff.2 ⟨found, hjson, hdecode⟩⟩

/-- Bytes that are the front of a JSON that a key may stand for. -/
def FrontOf (Means : String → Json → Prop) : Int → String → Bytes → Prop := fun _ key v =>
  ∃ json : Json, Means key json ∧ json.Writable ∧ json.IsBracketed ∧
    v <+: bytesOfText json.compact

/-- What is read of such bytes has the meaning that was stored. -/
theorem FrontOf.decode {α : Type} {decode : Json → Option α} {v : Bytes} {a : α}
    (h : FrontOf Means now key v) (ha : (jsonOfBytes? v).bind decode = some a) :
    ∃ json, Means key json ∧ decode json = some a := by
  obtain ⟨json, hmeans, hwritable, hbracketed, hprefix⟩ := h
  obtain ⟨found, hfound, hdecode⟩ := Option.bind_eq_some_iff.1 ha
  exact ⟨json, hmeans, (eq_of_jsonOfBytes? hwritable hbracketed hprefix hfound).1 ▸ hdecode⟩

end Session

/-! ### New caches -/

/-- All partitions of a directory are empty. -/
def Storage.IsClear (s : Storage) : Prop :=
  ∀ name partition, s.partition? name = some partition → ∀ key, partition.get? key = none

theorem Storage.IsClear.ensurePartition {s : Storage} (h : s.IsClear) (name : String) :
    (s.ensurePartition name).IsClear := by
  intro other partition hpartition key
  rw [partition?_ensurePartition] at hpartition
  split at hpartition
  · cases hname : s.partition? name with
    | none =>
        rw [hname] at hpartition
        cases hpartition
        rfl
    | some found =>
        rw [hname] at hpartition
        cases hpartition
        exact h name found hname key
  · exact h other partition hpartition key

theorem Storage.IsClear.dropPartition {s : Storage} (h : s.IsClear) (name : String) :
    (s.dropPartition name).IsClear := by
  intro other partition hpartition key
  rw [partition?_dropPartition] at hpartition
  split at hpartition
  · cases hpartition
  · exact h other partition hpartition key

theorem openIn_of_ofSettings {settings : Settings} {s : Session}
    (h : ofSettings settings (.ok {}) = .ok s) :
    openIn settings.backend settings.bucket settings.queueSize {} = some s := by
  obtain ⟨_, -, h⟩ := bind_ok_iff.1 h
  obtain ⟨storage, hstorage, h⟩ := bind_ok_iff.1 h
  cases hstorage
  simp only at h
  split at h
  · rename_i session hopen
    cases h
    exact hopen
  · cases h

/-- Nothing is found in a cache that was opened in a new directory. -/
theorem sound_ofSettings {settings : Settings} {s : Session}
    (h : ofSettings settings (.ok {}) = .ok s) (Good : Int → String → Bytes → Prop) :
    s.Sound Good := by
  have hopen := openIn_of_ofSettings h
  have hclear : Storage.IsClear {} := fun _ _ h => nomatch h
  intro now key v hlive
  unfold openIn at hopen
  split at hopen
  · cases hopen
    cases hlive
  · cases hopen
    cases hlive
  · split at hopen
    · cases hopen
      simp only [Session.find, Place.find, Storage.table?_ensureTable] at hlive
      cases hlive
    · cases hopen
  · cases hopen
    have hopened : (Storage.openPartitions {} settings.bucket).1.IsClear := by
      have hensured := (hclear.ensurePartition (Storage.metaName settings.bucket)).ensurePartition
        (Storage.partitionName settings.bucket
          ((Storage.ensurePartition {} (Storage.metaName settings.bucket)).generation
            settings.bucket))
      unfold Storage.openPartitions
      simp only
      split
      · exact hensured
      · exact hensured.dropPartition _
    simp only [Session.find, Place.find] at hlive
    split at hlive
    · rename_i bytes hbytes
      obtain ⟨partition, hpartition, hget⟩ := Option.bind_eq_some_iff.1 hbytes
      rw [hopened _ partition hpartition] at hget
      cases hget
    · cases hlive

end Triage.Cache
