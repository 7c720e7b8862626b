/-
Envelopes are read back from their bytes.

The bytes of an envelope are an array of two values, and what is read of it is put
together to the same envelope.  Whatever follows the bytes does not matter, and a proper
part of them is never an envelope.
-/
import Triage.Cache.Envelope
import Triage.Proofs.MessagePack

namespace Triage.Cache

open Triage.MessagePack

/-- The first time that can be told. -/
def firstTime : Int := -0x8000000000000000

/-- Whether a number is a time that can be told. -/
def IsTime (time : Int) : Prop := firstTime ≤ time ∧ time ≤ lastTime

instance (time : Int) : Decidable (IsTime time) :=
  inferInstanceAs (Decidable (firstTime ≤ time ∧ time ≤ lastTime))

namespace Envelope

/-- Whether an envelope can be written: it is short enough, and its expiry is a time. -/
structure Encodable (e : Envelope) : Prop where
  short : e.value.length < UInt32.size
  expiry : ∀ time ∈ e.expiresAt, IsTime time

/-- What is read where an expiry was written. -/
def expiryValue : Option Int → Value
  | some time => .int time
  | none => .nil

/-- What is read where a value was written. -/
def contentValue (content : Bytes) : Value := .array (content.map fun b => .int b.toNat)

theorem reads_encodeExpiry (depth : Nat) {expiry : Option Int} (h : ∀ time ∈ expiry, IsTime time) :
    Reads (readValue depth) (encodeExpiry expiry) (expiryValue expiry) := by
  cases expiry with
  | none => exact reads_encodeNil depth
  | some time =>
      obtain ⟨hfirst, hlast⟩ := h time rfl
      rw [firstTime] at hfirst
      rw [lastTime] at hlast
      exact reads_encodeInt depth hfirst (by omega)

theorem reads_encode (depth : Nat) {e : Envelope} (h : e.Encodable) :
    Reads (readValue (depth + 2)) e.encode
      (.array [contentValue e.value, expiryValue e.expiresAt]) := by
  let content : Bytes × Value := (encodeArrayStart e.value.length ++
    e.value.flatMap fun b => encodeNat b.toNat, contentValue e.value)
  let expiry : Bytes × Value := (encodeExpiry e.expiresAt, expiryValue e.expiresAt)
  have hcontent : Reads (readValue (depth + 1)) content.1 content.2 :=
    reads_array h.short fun b _ => reads_encodeNat depth (Nat.lt_trans b.toNat_lt (by decide))
  have hexpiry : Reads (readValue (depth + 1)) expiry.1 expiry.2 :=
    reads_encodeExpiry (depth + 1) h.expiry
  have htwo : [content, expiry].length < UInt32.size := by
    show 2 < UInt32.size
    decide
  have hboth : Reads (readValue (depth + 2))
      (encodeArrayStart 2 ++ [content, expiry].flatMap Prod.fst)
      (.array ([content, expiry].map Prod.snd)) :=
    reads_array htwo (by simpa using ⟨hcontent, hexpiry⟩)
  simpa [encode, content, expiry] using hboth

/-! ### Putting together what was read -/

theorem byteOf?_toNat (b : UInt8) : byteOf? (.int b.toNat) = some b := by
  have hb : b.toNat < 256 := b.toNat_lt
  have hrange : (0 : Int) ≤ b.toNat ∧ (b.toNat : Int) < 256 := by omega
  rw [byteOf?, if_pos hrange, Int.toNat_natCast, UInt8.ofNat_toNat]

theorem valueOf?_contentValue (content : Bytes) :
    valueOf? (contentValue content) = some content := by
  show (content.map fun b : UInt8 => Value.int b.toNat).mapM byteOf? = some content
  induction content with
  | nil => rfl
  | cons b rest ih =>
      rw [List.map_cons, List.mapM_cons, byteOf?_toNat, ih]
      rfl

theorem expiryOf?_expiryValue {expiry : Option Int} (h : ∀ time ∈ expiry, IsTime time) :
    expiryOf? (expiryValue expiry) = some expiry := by
  cases expiry with
  | none => rfl
  | some time =>
      rw [expiryValue, expiryOf?, if_pos (h time rfl).2]

/-- **Main result.** An envelope is read back from its bytes, whatever follows them. -/
theorem decode?_encode_append {e : Envelope} (h : e.Encodable) (rest : Bytes) :
    decode? (e.encode ++ rest) = some e := by
  have hread : read? (e.encode ++ rest) =
      some (.array [contentValue e.value, expiryValue e.expiresAt]) := by
    rw [read?, show depthLimit = 1021 + 2 from rfl, (reads_encode 1021 h).append]
    rfl
  rw [decode?, hread, Option.bind_some, ofValue?, valueOf?_contentValue,
    expiryOf?_expiryValue h.expiry]
  rfl

/-- What is left of an envelope that was cut off is no envelope. -/
theorem decode?_of_torn {e : Envelope} (h : e.Encodable) {part : Bytes} (hpart : part <+: e.encode)
    (hne : part ≠ e.encode) : decode? part = none := by
  rw [decode?, read?, show depthLimit = 1021 + 2 from rfl,
    (reads_encode 1021 h).torn part hpart hne]
  rfl

theorem decode?_encode {e : Envelope} (h : e.Encodable) : decode? e.encode = some e := by
  simpa using decode?_encode_append h []

/-- No envelope's bytes start with those of another one: what is read there is both. -/
theorem eq_of_encode_starts {e e' : Envelope} (h : e.Encodable) (h' : e'.Encodable)
    (hstarts : e'.encode <+: e.encode) : e' = e := by
  obtain ⟨rest, hrest⟩ := hstarts
  have hread := decode?_encode_append h' rest
  rw [hrest, decode?_encode h] at hread
  exact (Option.some.inj hread).symm

/--
**The bytes of an envelope stand for it and for nothing else.**  They are read back
whatever follows them, they are of no use once the end of them is torn off, and no other
envelope has bytes that start as they do or that they start with.
-/
theorem encode_faithful (e : Envelope) (h : e.Encodable) :
    (∀ rest, decode? (e.encode ++ rest) = some e) ∧
      (∀ part, part <+: e.encode → part ≠ e.encode → decode? part = none) ∧
      ∀ e' : Envelope, e'.Encodable → e'.encode <+: e.encode ∨ e.encode <+: e'.encode → e' = e := by
  refine ⟨decode?_encode_append h, fun part => decode?_of_torn h, fun e' h' hstarts => ?_⟩
  rcases hstarts with hstarts | hstarts
  · exact eq_of_encode_starts h h' hstarts
  · exact (eq_of_encode_starts h' h hstarts).symm

/-- Sixteen numbers no longer fit the short form of an array, nor 128 and 255 that of a number, and
the first time takes all eight bytes. -/
theorem encode_faithful_first_time :
    let e : Envelope := ⟨[0, 127, 128, 255] ++ List.replicate 12 7, some firstTime⟩
    e.Encodable ∧ decode? (e.encode ++ [0xc0]) = some e ∧
      ∀ n < e.encode.length, decode? (e.encode.take n) = none := by
  intro e
  have h : e.Encodable := by
    refine ⟨by decide, fun time htime => ?_⟩
    cases htime
    decide
  obtain ⟨hread, htorn, -⟩ := encode_faithful e h
  refine ⟨h, hread [0xc0], fun n hn => htorn _ (List.take_prefix n _) fun hwhole => ?_⟩
  have hlength := congrArg List.length hwhole
  rw [List.length_take] at hlength
  omega

end Envelope

end Triage.Cache
