/-
Records of JSON are read back field by field.

An object whose members have different names is a record, and a field of it is the member with that
name.  Each kind of value comes back from what was written for it, and all of them can be written.
-/
import Triage.Json.Decoding
import Triage.Proofs.Json.Values

namespace Triage.Json

open Decimal

/-! ### Fields -/

theorem mapM_name_obj (members : List (String × Json)) :
    (members.map fun (name, value) => (some name, value)).mapM (·.1) =
      some (members.map (·.1)) := by
  induction members with
  | nil => rfl
  | cons member rest ih => simp [List.mapM_cons, ih]

theorem lookup_obj (members : List (String × Json)) (field : String) :
    (members.map fun (name, value) => (some name, value)).lookup (some field) =
      members.lookup field := by
  induction members with
  | nil => rfl
  | cons member rest ih =>
      rw [List.map_cons, List.lookup_cons, List.lookup_cons, ih]
      rfl

/-- An object whose names differ is a record of its members. -/
theorem asRecord_obj {members : List (String × Json)} (h : (members.map (·.1)).Nodup)
    (fields : List String) :
    asRecord fields (obj members) = some fun field => members.lookup field := by
  have hcount : (fields.all fun field => (members.map (·.1)).count field ≤ 1) = true := by
    rw [List.all_eq_true]
    exact fun field _ => decide_eq_true (List.nodup_iff_count.1 h field)
  simp only [obj, asRecord, mapM_name_obj, Option.bind_eq_bind, Option.bind_some, hcount, if_true]
  congr 1
  funext field
  exact lookup_obj members field

section

variable {α β : Type} {members : List (String × Json)} {field : String} {json : Json}
  {decode : Json → Option α} {a initial : α} {rest : α → Option β} {b : β}

/-- A field that must be there is read from its member, then the rest is read. -/
theorem Record.required_bind (hfield : members.lookup field = some json)
    (hdecode : decode json = some a) (hrest : rest a = some b) :
    (Record.required (fun field => members.lookup field) field decode >>= rest) = some b := by
  rw [required, hfield, Option.bind_some, hdecode]
  exact hrest

/-- The default of a field does not matter if the field is there. -/
theorem Record.optional_bind (hfield : members.lookup field = some json)
    (hdecode : decode json = some a) (hrest : rest a = some b) :
    (Record.optional (fun field => members.lookup field) field initial decode >>= rest) =
      some b := by
  rw [optional, hfield]
  exact Option.bind_eq_some_iff.2 ⟨a, hdecode, hrest⟩

end

/-! ### Values -/

@[simp] theorem asString_str (s : String) : asString (str s) = some s := rfl

@[simp] theorem asBool_bool (value : Bool) : asBool (.bool value) = some value := rfl

theorem asNatBelow_ofNat {bound n : Nat} (h : n < bound) : asNatBelow bound (ofNat n) = some n := by
  have hdigits : (digitsOf n).all Char.isDigit = true :=
    List.all_eq_true.2 fun c hc => isDigit_of_mem_digitsOf hc
  simp [asNatBelow, ofNat, hdigits, h]

/-- A value that may be missing is read back if `null` stands for no other value. -/
theorem asOption_ofOption {α : Type} {encode : α → Json} {decode : Json → Option α} {a : Option α}
    (hnull : ∀ a, encode a ≠ .null) (h : ∀ x ∈ a, decode (encode x) = some x) :
    asOption decode (ofOption encode a) = some a := by
  cases a with
  | none => rfl
  | some x =>
      have hx := h x rfl
      rw [ofOption, asOption]
      · rw [hx]
        rfl
      · exact hnull x

theorem eq_some_of_asOption {α : Type} {decode : Json → Option α} {json : Json} {a : α}
    (h : asOption decode json = some (some a)) : decode json = some a := by
  cases json <;> simp_all [asOption]

theorem asList_array {α : Type} {encode : α → Json} {decode : Json → Option α} {l : List α}
    (h : ∀ a ∈ l, decode (encode a) = some a) : asList decode (.array (l.map encode)) = some l := by
  show (l.map encode).mapM decode = some l
  induction l with
  | nil => rfl
  | cons a rest ih =>
      rw [List.map_cons, List.mapM_cons, h a List.mem_cons_self,
        ih fun x hx => h x (List.mem_cons_of_mem _ hx)]
      rfl

/-- The elements of a list that was read were read one by one. -/
theorem exists_of_mem_asList {α : Type} {decode : Json → Option α} {json : Json} {l : List α}
    (h : asList decode json = some l) {a : α} (ha : a ∈ l) : ∃ item, decode item = some a := by
  cases json with
  | array items =>
      change items.mapM decode = some l at h
      induction items generalizing l with
      | nil =>
          cases h
          cases ha
      | cons item rest ih =>
          rw [List.mapM_cons] at h
          obtain ⟨first, hfirst, h⟩ := Option.bind_eq_some_iff.1 h
          obtain ⟨others, hothers, h⟩ := Option.bind_eq_some_iff.1 h
          cases h
          rcases List.mem_cons.1 ha with rfl | ha
          · exact ⟨item, hfirst⟩
          · exact ih ha hothers
  | _ => cases h

/-! ### Writing -/

theorem writable_str (s : String) : (str s).Writable := by simp [str, Writable]

theorem writable_bool (value : Bool) : (bool value).Writable := by simp [Writable]

theorem writable_ofNat (n : Nat) : (ofNat n).Writable := by
  rw [ofNat, Writable]
  exact isNumber_digitsOf n

theorem writable_ofFloat (x : Float) : (ofFloat x).Writable := by
  rw [ofFloat]
  split
  · rename_i text htext
    rw [Writable]
    exact isNumber_json? htext
  · trivial

theorem writable_ofOption {α : Type} {encode : α → Json} (h : ∀ a, (encode a).Writable)
    (a : Option α) : (ofOption encode a).Writable := by
  cases a with
  | none => trivial
  | some a => exact h a

theorem writable_array {items : List Json} (h : ∀ item ∈ items, item.Writable) :
    (array items).Writable := by
  rw [Writable]
  induction items with
  | nil => trivial
  | cons item rest ih =>
      exact ⟨h item List.mem_cons_self, ih fun x hx => h x (List.mem_cons_of_mem _ hx)⟩

theorem writable_obj {members : List (String × Json)} (h : ∀ m ∈ members, m.2.Writable) :
    (obj members).Writable := by
  rw [obj, Writable]
  induction members with
  | nil => trivial
  | cons member rest ih =>
      exact ⟨rfl, h member List.mem_cons_self, ih fun x hx => h x (List.mem_cons_of_mem _ hx)⟩

end Triage.Json
