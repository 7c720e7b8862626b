/-
The table that sections amount to.

Sections are written one after the other, and each is below the one table that was opened last or at
the top.  So while lines are added, the place where they go is always the last entry of the last
entry, and so on; everything before it stays as it is.
-/
import Triage.Proofs.Toml.Lines

namespace Triage.Toml

variable {before inner : Entries} {name : String} {value : Toml}

/-! ### The last of several tables -/

theorem lookup_concat (h : before.lookup name = none) (value : Toml) :
    (before ++ [(name, value)]).lookup name = some value := by
  rw [List.lookup_append, h]
  simp

theorem replace_concat (h : before.lookup name = none) (value value' : Toml) :
    replace name value' (before ++ [(name, value)]) = before ++ [(name, value')] := by
  have hbefore : before.map (fun e => if e.1 == name then (name, value') else e) = before := by
    refine (List.map_congr_left fun e he => ?_).trans (List.map_id before)
    have hne := List.lookup_eq_none_iff.1 h e he
    have hother : ¬(e.1 == name) = true := by
      intro heq
      simp [beq_iff_eq.1 heq] at hne
    exact if_neg hother
  rw [replace, List.map_append, hbefore]
  simp

/-- Tables of which each is the last entry of the one around it, with the entries of the innermost
one. -/
def nested : List (Entries × String) → Entries → Entries
  | [], inner => inner
  | (before, name) :: way, inner => before ++ [(name, .table .headed (nested way inner))]

theorem nested_concat (way : List (Entries × String)) (before inner : Entries) (name : String) :
    nested (way ++ [(before, name)]) inner =
      nested way (before ++ [(name, .table .headed inner)]) := by
  induction way with
  | nil => rfl
  | cons step way ih => simp only [List.cons_append, nested, ih]

/-- The way to the innermost table takes the last entry each time. -/
theorem descend_nested {way : List (Entries × String)}
    (h : ∀ step ∈ way, step.1.lookup step.2 = none)
    (change : Origin → Entries → Option Entries) (inner : Entries) :
    descend false change (way.map Prod.snd) .headed (nested way inner) =
      (change .headed inner).map (nested way) := by
  induction way with
  | nil => simp [descend, nested]
  | cons step way ih =>
      have hstep := h step List.mem_cons_self
      rw [List.map_cons, descend, nested, lookup_concat hstep]
      dsimp only
      rw [if_neg (by decide), ih fun step hs => h step (List.mem_cons_of_mem _ hs),
        Option.map_map]
      refine Option.map_congr fun inner _ => ?_
      exact replace_concat hstep _ _

/-! ### Sections -/

/-- What settings under a header are read as. -/
def content (settings : List (String × Setting)) : Entries :=
  settings.map fun e => (e.1, e.2.toToml)

theorem foldlM_entries (way : List (Entries × String)) (inner : Entries)
    {settings : List (String × Setting)} (hway : ∀ step ∈ way, step.1.lookup step.2 = none)
    (hnodup : (settings.map Prod.fst).Nodup) (hnew : ∀ e ∈ settings, inner.lookup e.1 = none) :
    (settings.map fun (name, setting) => Line.entry [name] setting.toToml).foldlM Draft.add
        ⟨nested way inner, way.map Prod.snd⟩ =
      some ⟨nested way (inner ++ content settings), way.map Prod.snd⟩ := by
  induction settings generalizing inner with
  | nil => simp [content]
  | cons e settings ih =>
      obtain ⟨hfirst, hnodup⟩ := List.nodup_cons.1 hnodup
      have he := hnew e List.mem_cons_self
      have hadd : Draft.add ⟨nested way inner, way.map Prod.snd⟩ (.entry [e.1] e.2.toToml) =
          some ⟨nested way (inner ++ [(e.1, e.2.toToml)]), way.map Prod.snd⟩ := by
        have hassign : assign [e.1] e.2.toToml .headed inner =
            some (inner ++ [(e.1, e.2.toToml)]) := by
          show addEntry false e.1 e.2.toToml .headed inner = _
          rw [addEntry, if_pos (by rw [he]; rfl)]
        rw [Draft.add, descend_nested hway, hassign]
        rfl
      have hnew' : ∀ other ∈ settings, (inner ++ [(e.1, e.2.toToml)]).lookup other.1 = none := by
        intro other hother
        have hne : (other.1 == e.1) = false :=
          beq_eq_false_iff_ne.2 fun heq => hfirst (heq ▸ List.mem_map_of_mem hother)
        rw [List.lookup_append, hnew other (List.mem_cons_of_mem _ hother)]
        simp [List.lookup_cons, hne]
      rw [List.map_cons, List.foldlM_cons, hadd]
      refine (ih _ hnodup hnew').trans ?_
      simp [content]

/-- **A section is added below the last of several tables**, if that has no such entry yet. -/
theorem foldlM_section (way : List (Entries × String)) (inner : Entries) (current : List String)
    {name : String} {settings : List (String × Setting)}
    (hway : ∀ step ∈ way, step.1.lookup step.2 = none) (hname : inner.lookup name = none)
    (hnodup : (settings.map Prod.fst).Nodup) :
    (Section.lines ⟨way.map Prod.snd ++ [name], settings⟩).foldlM Draft.add
        ⟨nested way inner, current⟩ =
      some ⟨nested way (inner ++ [(name, .table .headed (content settings))]),
        way.map Prod.snd ++ [name]⟩ := by
  have hopen : Draft.add ⟨nested way inner, current⟩ (.header (way.map Prod.snd ++ [name])) =
      some ⟨nested (way ++ [(inner, name)]) [], (way ++ [(inner, name)]).map Prod.snd⟩ := by
    have hsplit : splitLast (way.map Prod.snd ++ [name]) = (way.map Prod.snd, name) := by
      simp [splitLast]
    have htable : openTable name inner = some (inner ++ [(name, .table .headed [])]) := by
      rw [openTable, hname]
    rw [Draft.add, hsplit]
    dsimp only
    rw [descend_nested hway, htable, nested_concat, List.map_append]
    rfl
  have hinner : ∀ step ∈ way ++ [(inner, name)], step.1.lookup step.2 = none := by
    intro step hstep
    rcases List.mem_append.1 hstep with hstep | hstep
    · exact hway step hstep
    · rw [List.mem_singleton.1 hstep]
      exact hname
  rw [Section.lines, List.foldlM_cons, hopen]
  refine (foldlM_entries _ [] hinner hnodup fun _ _ => rfl).trans ?_
  rw [nested_concat, List.nil_append, List.map_append]
  rfl

end Triage.Toml
