/-
Keys can be taken apart again.

In the bytes that are hashed for a fingerprint each part is told from what follows it: a text by the
byte that ends it, which no text has, and a number by its length.  Numbers in a key are told apart
by their digits and their sign.  Where parts stand between colons, a part without colons can be told
from what comes before or after it, whatever that holds.
-/
import Triage.Cache.Key
import Triage.Proofs.Cache.Storage
import Triage.Proofs.Cache.Typed
import Triage.Proofs.Decimal.Digits

namespace Triage.Cache

open Decimal MessagePack

/-! ### Parts of a fingerprint -/

/-- What stands before the first mark is told from the rest. -/
theorem first_part_inj {α : Type} {mark : α} {a b rest rest' : List α} (ha : mark ∉ a)
    (hb : mark ∉ b) (h : a ++ mark :: rest = b ++ mark :: rest') : a = b ∧ rest = rest' := by
  induction a generalizing b with
  | nil =>
      cases b with
      | nil => exact ⟨rfl, (List.cons.inj h).2⟩
      | cons c b => exact absurd ((List.cons.inj h).1 ▸ List.mem_cons_self) hb
  | cons c a ih =>
      cases b with
      | nil => exact absurd ((List.cons.inj h).1 ▸ List.mem_cons_self) ha
      | cons d b =>
          obtain ⟨rfl, htail⟩ := List.cons.inj h
          obtain ⟨rfl, hrest⟩ := ih (fun hmem => ha (List.mem_cons_of_mem _ hmem))
            (fun hmem => hb (List.mem_cons_of_mem _ hmem)) htail
          exact ⟨rfl, hrest⟩

theorem bytesOfText_eq_flatMap (text : String) :
    bytesOfText text = text.toList.flatMap String.utf8EncodeChar := by
  rw [bytesOfText, String.toUTF8_eq_toByteArray, ← String.utf8Encode_toList, List.utf8Encode,
    ByteArray.toList, toList_loop]
  simp

theorem bytesOfText_inj {a b : String} (h : bytesOfText a = bytesOfText b) : a = b := by
  have htext := textOfBytes?_bytesOfText a
  rw [h, textOfBytes?_bytesOfText] at htext
  exact (Option.some.inj htext).symm

theorem ff_not_mem_utf8EncodeChar (c : Char) : 0xff ∉ String.utf8EncodeChar c := by
  have hbyte {n : Nat} (hn : n < 255) : ¬(0xff : UInt8) = UInt8.ofNat n := by
    intro h
    have hvalue := congrArg UInt8.toNat h
    rw [UInt8.toNat_ofNat_of_lt' (Nat.lt_trans hn (by decide))] at hvalue
    exact Nat.ne_of_gt hn hvalue
  unfold String.utf8EncodeChar
  simp only
  split_ifs
  all_goals simp only [List.mem_cons, List.not_mem_nil, or_false, not_or]
  · exact hbyte (by omega)
  · exact ⟨hbyte (by omega), hbyte (by omega)⟩
  · exact ⟨hbyte (by omega), hbyte (by omega), hbyte (by omega)⟩
  · exact ⟨hbyte (by omega), hbyte (by omega), hbyte (by omega), hbyte (by omega)⟩

/-- The byte that ends a text is in no text. -/
theorem ff_not_mem_bytesOfText (text : String) : 0xff ∉ bytesOfText text := by
  rw [bytesOfText_eq_flatMap]
  intro h
  obtain ⟨c, -, hc⟩ := List.mem_flatMap.1 h
  exact ff_not_mem_utf8EncodeChar c hc

/-- A text is told from what follows it. -/
theorem textPart_append_inj {a b : String} {rest rest' : Bytes}
    (h : textPart a ++ rest = textPart b ++ rest') : a = b ∧ rest = rest' := by
  rw [textPart, textPart, List.append_assoc, List.append_assoc] at h
  obtain ⟨hbytes, hrest⟩ :=
    first_part_inj (ff_not_mem_bytesOfText a) (ff_not_mem_bytesOfText b) h
  exact ⟨bytesOfText_inj hbytes, hrest⟩

theorem textPart_ne_nil (text : String) : textPart text ≠ [] := by
  simp [textPart]

/-- A number is told from what follows it. -/
theorem intPart_append_inj {m n : Int} (hm : IsTime m) (hn : IsTime n) {rest rest' : Bytes}
    (h : intPart m ++ rest = intPart n ++ rest') : m = n ∧ rest = rest' := by
  have hsize : (UInt64.size : Int) = 18446744073709551616 := rfl
  have hlt (k : Int) : (k % UInt64.size).toNat < 256 ^ 8 := by
    rw [hsize]
    omega
  obtain ⟨hbytes, hrest⟩ := List.append_inj h (by simp [intPart])
  have hvalue := congrArg natOf (List.reverse_inj.1 hbytes)
  rw [natOf_bigEndian (hlt m), natOf_bigEndian (hlt n), hsize] at hvalue
  rw [IsTime, firstTime, lastTime] at hm hn
  exact ⟨by omega, hrest⟩

/-! ### Numbers -/

/-- Different whole numbers are written differently. -/
theorem toString_int_inj {m n : Int} (h : toString m = toString n) : m = n := by
  have hsign (k l : Nat) : (toString k : String) ≠ "-" ++ toString l := by
    intro h
    rw [Nat.toString_eq_ofList_toDigits] at h
    have hhead : '-' ∈ Nat.toDigits 10 k := by
      rw [← String.toList_ofList (l := Nat.toDigits 10 k), h]
      simp
    exact absurd (isDigit_of_mem_digitsOf hhead) (by decide)
  cases m with
  | ofNat k =>
      cases n with
      | ofNat l => exact congrArg Int.ofNat (Storage.toString_nat_inj h)
      | negSucc l => exact absurd h (hsign k (l + 1))
  | negSucc k =>
      cases n with
      | ofNat l => exact absurd h.symm (hsign l (k + 1))
      | negSucc l =>
          have h : "-" ++ toString (k + 1) = "-" ++ toString (l + 1) := h
          have hnat := Storage.toString_nat_inj ((String.append_right_inj _).1 h)
          exact congrArg Int.negSucc (Nat.succ.inj hnat)

theorem colon_not_mem_toString_int (n : Int) : ':' ∉ (toString n).toList := by
  have hnat (k : Nat) : ':' ∉ (toString k).toList := by
    intro h
    rw [Nat.toString_eq_ofList_toDigits, String.toList_ofList] at h
    exact absurd (isDigit_of_mem_digitsOf h) (by decide)
  cases n with
  | ofNat k => exact hnat k
  | negSucc k =>
      have hneg : toString (Int.negSucc k) = "-" ++ toString (k + 1) := rfl
      rw [hneg, String.toList_append]
      simpa using hnat (k + 1)

/-! ### Parts between colons -/

/-- What stands after the last colon is told from what comes before it. -/
theorem last_part_inj {a b before before' : List Char} (ha : ':' ∉ a) (hb : ':' ∉ b)
    (h : before ++ ':' :: a = before' ++ ':' :: b) : before = before' ∧ a = b := by
  have hreverse : a.reverse ++ ':' :: before.reverse = b.reverse ++ ':' :: before'.reverse := by
    simpa using congrArg List.reverse h
  obtain ⟨hlast, hbefore⟩ := first_part_inj (by simpa using ha) (by simpa using hb) hreverse
  exact ⟨List.reverse_inj.1 hbefore, List.reverse_inj.1 hlast⟩

/-! ### Hexadecimal digits -/

theorem digitChar_inj : ∀ m < 16, ∀ n < 16, Nat.digitChar m = Nat.digitChar n → m = n := by
  decide

theorem colon_not_mem_hexText (bytes : Bytes) : ':' ∉ (hexText bytes).toList := by
  have hdigit : ∀ n < 16, Nat.digitChar n ≠ ':' := by decide
  intro h
  rw [hexText, String.toList_ofList] at h
  obtain ⟨b, -, hb⟩ := List.mem_flatMap.1 h
  have hbyte := b.toNat_lt
  simp only [List.mem_cons, List.not_mem_nil, or_false] at hb
  rcases hb with h | h
  · exact hdigit _ (by omega) h.symm
  · exact hdigit _ (by omega) h.symm

/-- Different bytes have different digits. -/
theorem hexText_inj {bytes bytes' : Bytes} (h : hexText bytes = hexText bytes') :
    bytes = bytes' := by
  rw [hexText, hexText, String.ofList_inj] at h
  induction bytes generalizing bytes' with
  | nil =>
      cases bytes' with
      | nil => rfl
      | cons b rest => cases h
  | cons c rest ih =>
      cases bytes' with
      | nil => cases h
      | cons d rest' =>
          obtain ⟨hhigh, h⟩ := List.cons.inj h
          obtain ⟨hlow, hrest⟩ := List.cons.inj h
          have hc := c.toNat_lt
          have hd := d.toNat_lt
          have hhigh := digitChar_inj _ (by omega) _ (by omega) hhigh
          have hlow := digitChar_inj _ (by omega) _ (by omega) hlow
          have hbyte : c = d := UInt8.toNat_inj.1 (by omega)
          rw [hbyte, ih hrest]

theorem colon_not_mem_fingerprintText (fingerprint : UInt64) :
    ':' ∉ (fingerprintText fingerprint).toList :=
  colon_not_mem_hexText _

/-- Different fingerprints are written differently. -/
theorem fingerprintText_inj {a b : UInt64} (h : fingerprintText a = fingerprintText b) : a = b := by
  have hbytes := congrArg natOf (hexText_inj h)
  rw [natOf_bigEndian a.toNat_lt, natOf_bigEndian b.toNat_lt] at hbytes
  exact UInt64.toNat_inj.1 hbytes

end Triage.Cache
