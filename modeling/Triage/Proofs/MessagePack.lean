/-
What is written is read back, off the front of anything, and never from a part of it.

`Reads` says this of a reader and some bytes.  It holds of numbers of a fixed width, and
two readers one after the other read what was written one after the other, so that it
holds of every form that is written: numbers, nothing at all, and arrays.
-/
import Mathlib.Tactic.Ring
import Triage.MessagePack

namespace Triage.MessagePack

variable {α β : Type}

/-- Whether a reader takes exactly these bytes for a value: off the front of whatever follows them,
while it fails on a proper part of them. -/
structure Reads (read : Reader α) (bytes : Bytes) (a : α) : Prop where
  append : ∀ rest, read (bytes ++ rest) = some (a, rest)
  torn : ∀ part, part <+: bytes → part ≠ bytes → read part = none

/-! ### Readers one after the other -/

theorem Reads.pure (a : α) : Reads (fun bytes => some (a, bytes)) [] a where
  append _ := rfl
  torn _ hpart hne := absurd (List.prefix_nil.1 hpart) hne

theorem Reads.bind {read : Reader α} (next : α → Reader β) {bytes bytes' : Bytes} {a : α} {b : β}
    (h : Reads read bytes a) (h' : Reads (next a) bytes' b) :
    Reads (fun bytes => do let (a, bytes) ← read bytes; next a bytes) (bytes ++ bytes') b where
  append rest := by
    show (read (bytes ++ bytes' ++ rest)).bind _ = _
    rw [List.append_assoc, h.append, Option.bind_some]
    exact h'.append rest
  torn part hpart hne := by
    show (read part).bind _ = none
    rcases List.prefix_or_prefix_of_prefix hpart (List.prefix_append bytes bytes') with
      hshort | ⟨part', rfl⟩
    · by_cases hwhole : part = bytes
      · -- The first value is whole, and nothing of the second is left.
        have hbytes' : [] ≠ bytes' := fun hnil => hne (by rw [hwhole, ← hnil, List.append_nil])
        have hread := h.append []
        rw [List.append_nil] at hread
        rw [hwhole, hread, Option.bind_some]
        exact h'.torn [] List.nil_prefix hbytes'
      · rw [h.torn part hshort hwhole, Option.bind_none]
    · rw [h.append, Option.bind_some]
      exact h'.torn part' ((List.prefix_append_right_inj bytes).1 hpart)
        fun heq => hne (by rw [heq])

theorem Reads.map {read : Reader α} {bytes : Bytes} {a : α} (h : Reads read bytes a) (f : α → β) :
    Reads (fun bytes => do let (a, bytes) ← read bytes; some (f a, bytes)) bytes (f a) := by
  have hbind := h.bind (fun a bytes => some (f a, bytes)) (.pure (f a))
  rwa [List.append_nil] at hbind

/-- A first byte that decides how to go on. -/
theorem Reads.cons {read : Reader α} {bytes : Bytes} {a : α} {marker : UInt8}
    (hnil : read [] = none) (h : Reads (fun bytes => read (marker :: bytes)) bytes a) :
    Reads read (marker :: bytes) a where
  append rest := h.append rest
  torn part hpart hne := by
    cases part with
    | nil => exact hnil
    | cons b part' =>
        obtain ⟨rfl, hpart'⟩ := List.cons_prefix_cons.1 hpart
        exact h.torn part' hpart' fun heq => hne (by rw [heq])

/-- As many readers as there are values read what was written for each of them. -/
theorem Reads.many {read : Reader β} {f : α → β} {encode : α → Bytes} {items : List α}
    (h : ∀ item ∈ items, Reads read (encode item) (f item)) :
    Reads (readMany read items.length) (items.flatMap encode) (items.map f) := by
  induction items with
  | nil => exact .pure []
  | cons item rest ih =>
      have hrest := ih fun other hother => h other (List.mem_cons_of_mem _ hother)
      have hmore := hrest.map (f item :: ·)
      exact Reads.bind (fun first bytes => (readMany read rest.length bytes).bind fun r =>
        some (first :: r.1, r.2)) (h item List.mem_cons_self) hmore

/-! ### Numbers of a fixed width -/

@[simp] theorem length_bigEndian (width n : Nat) : (bigEndian width n).length = width := by
  induction width generalizing n with
  | zero => rfl
  | succ width ih => rw [bigEndian, List.length_append, ih, List.length_singleton]

theorem natOf_append_singleton (bytes : Bytes) (b : UInt8) :
    natOf (bytes ++ [b]) = natOf bytes * 256 + b.toNat := by
  rw [natOf, List.foldl_append]
  rfl

theorem natOf_bigEndian {width n : Nat} (h : n < 256 ^ width) : natOf (bigEndian width n) = n := by
  induction width generalizing n with
  | zero =>
      have : n = 0 := by simpa using h
      rw [this]
      rfl
  | succ width ih =>
      have hhigh : n / 256 < 256 ^ width := Nat.div_lt_of_lt_mul (by rwa [pow_succ, mul_comm] at h)
      have hlow : (UInt8.ofNat (n % 256)).toNat = n % 256 :=
        UInt8.toNat_ofNat_of_lt' (Nat.mod_lt n (by decide))
      rw [bigEndian, natOf_append_singleton, ih hhigh, hlow]
      omega

theorem reads_takeBytes (bytes : Bytes) : Reads (takeBytes bytes.length) bytes bytes where
  append rest := by
    rw [takeBytes, List.take_left, if_pos rfl, List.drop_left]
  torn part hpart hne := by
    have hlt : part.length < bytes.length :=
      Nat.lt_of_le_of_ne hpart.length_le fun heq => hne (hpart.eq_of_length heq)
    have hshort : (part.take bytes.length).length ≠ bytes.length := by
      rw [List.length_take]
      omega
    rw [takeBytes]
    exact if_neg hshort

theorem reads_readNat {width n : Nat} (h : n < 256 ^ width) :
    Reads (readNat width) (bigEndian width n) n := by
  have htake := (reads_takeBytes (bigEndian width n)).map natOf
  rwa [length_bigEndian, natOf_bigEndian h] at htake

/-! ### Values

A marker tells which reader is to go on.  How deeply values may still be nested does not
matter to a value that is not nested.
-/

/-- A value is read by its marker, whatever reads nested values. -/
theorem Reads.after {depth : Nat} {marker : UInt8} {bytes : Bytes} {v : Value}
    (h : ∀ read, Reads (readAfter read marker) bytes v) :
    Reads (readValue depth) (marker :: bytes) v := by
  cases depth with
  | zero => exact .cons rfl (h _)
  | succ depth => exact .cons rfl (h _)

theorem Reads.of_eq {read read' : Reader α} {bytes : Bytes} {a : α} (h : Reads read bytes a)
    (heq : read' = read) : Reads read' bytes a :=
  heq ▸ h

theorem reads_marked {depth n : Nat} {marker : UInt8} (signed : Bool) (width : Nat)
    (h : n < 256 ^ width) (hmarker : ∀ read, readAfter read marker = readInt signed width) :
    Reads (readValue depth) (marked marker width n)
      (.int (if signed then signedOf width n else n)) :=
  .after fun read => ((reads_readNat h).map fun n : Nat =>
    Value.int (if signed then signedOf width n else n)).of_eq (hmarker read)

/-- A small number is its own marker. -/
theorem readAfter_small (read : Reader Value) {n : Nat} (h : n < 128) :
    readAfter read (UInt8.ofNat n) = fun bytes => some (.int n, bytes) := by
  have hn : (UInt8.ofNat n).toNat = n := UInt8.toNat_ofNat_of_lt' (by rw [UInt8.size]; omega)
  funext bytes
  rw [readAfter, hn]
  exact if_pos h

/-- So is a number a little below zero. -/
theorem readAfter_negative (read : Reader Value) {below : Nat} (h : below < 32) :
    readAfter read (UInt8.ofNat (255 - below)) =
      fun bytes => some (.int (.negSucc below), bytes) := by
  have hn : (UInt8.ofNat (255 - below)).toNat = 255 - below :=
    UInt8.toNat_ofNat_of_lt' (by rw [UInt8.size]; omega)
  have hvalue : ((255 - below : Nat) : Int) - 256 = .negSucc below := by omega
  funext bytes
  rw [readAfter, hn]
  simp only
  rw [if_neg (by omega), if_neg (by omega), if_neg (by omega), if_neg (by omega),
    if_pos (by omega), hvalue]

theorem reads_encodeNat (depth : Nat) {n : Nat} (h : n < UInt64.size) :
    Reads (readValue depth) (encodeNat n) (.int n) := by
  unfold encodeNat
  split
  · rename_i h0
    exact .after fun read => (Reads.pure _).of_eq (readAfter_small read h0)
  split
  · rename_i h1
    exact reads_marked false 1 h1 fun _ => rfl
  split
  · rename_i h2
    exact reads_marked false 2 h2 fun _ => rfl
  split
  · rename_i h4
    exact reads_marked false 4 h4 fun _ => rfl
  · exact reads_marked false 8 h fun _ => rfl

/-- Half of a range stands for the numbers below zero. -/
theorem signedOf_sub {width below : Nat} (h : 2 * (below + 1) ≤ 256 ^ width) :
    signedOf width (256 ^ width - 1 - below) = .negSucc below := by
  have hrange : Nat.pow 256 width = 256 ^ width := rfl
  rw [signedOf, hrange, if_neg (by omega)]
  omega

theorem reads_marked_negative {depth below : Nat} {marker : UInt8} (width : Nat)
    (h : 2 * (below + 1) ≤ 256 ^ width)
    (hmarker : ∀ read, readAfter read marker = readInt true width) :
    Reads (readValue depth) (marked marker width (256 ^ width - 1 - below))
      (.int (.negSucc below)) := by
  have hread : Reads (readValue depth) (marked marker width (256 ^ width - 1 - below)) _ :=
    reads_marked true width (by omega) hmarker
  rwa [if_pos rfl, signedOf_sub h] at hread

theorem reads_encodeInt (depth : Nat) {n : Int} (hlow : -0x8000000000000000 ≤ n)
    (hhigh : n < 0x10000000000000000) : Reads (readValue depth) (encodeInt n) (.int n) := by
  cases n with
  | ofNat n =>
      have hn : (n : Int) < 0x10000000000000000 := hhigh
      exact reads_encodeNat depth (by rw [UInt64.size]; omega)
  | negSucc below =>
      have hbelow : below < 0x8000000000000000 := by omega
      unfold encodeInt
      simp only
      split
      · rename_i h0
        exact .after fun read => (Reads.pure _).of_eq (readAfter_negative read h0)
      split
      · exact reads_marked_negative 1 (by omega) fun _ => rfl
      split
      · exact reads_marked_negative 2 (by omega) fun _ => rfl
      split
      · exact reads_marked_negative 4 (by omega) fun _ => rfl
      · exact reads_marked_negative 8 (by omega) fun _ => rfl

/-- What says that there is no value. -/
theorem reads_encodeNil (depth : Nat) : Reads (readValue depth) encodeNil .nil :=
  .after fun _ => Reads.pure Value.nil

/-! ### Arrays -/

/-- A small length is part of the marker. -/
theorem readAfter_array (read : Reader Value) {length : Nat} (h : length < 16) :
    readAfter read (UInt8.ofNat (0x90 + length)) = readArray read length := by
  have hn : (UInt8.ofNat (0x90 + length)).toNat = 0x90 + length :=
    UInt8.toNat_ofNat_of_lt' (by rw [UInt8.size]; omega)
  have hlength : 0x90 + length - 0x90 = length := by omega
  funext bytes
  rw [readAfter, hn]
  simp only
  rw [if_neg (by omega), if_neg (by omega), if_pos (by omega), hlength]

/-- The longest form of an array is read back whatever the length is. -/
theorem reads_longArray {depth : Nat} {f : α → Value} {encode : α → Bytes} {items : List α}
    (hlength : items.length < UInt32.size)
    (h : ∀ item ∈ items, Reads (readValue depth) (encode item) (f item)) :
    Reads (readValue (depth + 1)) (marked 0xdd 4 items.length ++ items.flatMap encode)
      (.array (items.map f)) :=
  .cons rfl ((reads_readNat hlength).bind (readArray (readValue depth))
    ((Reads.many h).map Value.array))

/-- An array of values of which each is read back is read back, one level up. -/
theorem reads_array {depth : Nat} {f : α → Value} {encode : α → Bytes} {items : List α}
    (hlength : items.length < UInt32.size)
    (h : ∀ item ∈ items, Reads (readValue depth) (encode item) (f item)) :
    Reads (readValue (depth + 1)) (encodeArrayStart items.length ++ items.flatMap encode)
      (.array (items.map f)) := by
  have hitems : Reads (readArray (readValue depth) items.length) (items.flatMap encode)
      (.array (items.map f)) := (Reads.many h).map Value.array
  have hlong {width : Nat} (hwidth : items.length < 256 ^ width) :=
    (reads_readNat hwidth).bind (readArray (readValue depth)) hitems
  unfold encodeArrayStart
  split
  · rename_i h0
    exact .cons rfl (hitems.of_eq (readAfter_array (readValue depth) h0))
  split
  · rename_i h2
    exact .cons rfl (hlong h2)
  · exact reads_longArray hlength h

end Triage.MessagePack
