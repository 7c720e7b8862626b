/-
Whole numbers of a settings file fit in a word.

There is one place where such a number is made, and it refuses those that do not fit.  All else that
the reader does is to put values that it has read into lists and tables, one into the other.
-/
import Triage.Toml.Reading

namespace Triage.Toml

variable {t : Toml} {cs rest : List Char} {entries entries' : Entries}

/-- All whole numbers in a value fit in a word. -/
inductive Fits : Toml → Prop
  | scalar {s : Scalar} (h : ∀ n, s = .integer n → fitsWord n = true) : Fits (.scalar s)
  | moment : Fits .moment
  | array {items : List Toml} (h : ∀ item ∈ items, Fits item) : Fits (.array items)
  | tables {items : List Toml} (h : ∀ item ∈ items, Fits item) : Fits (.tables items)
  | table {origin : Origin} {entries : Entries} (h : ∀ e ∈ entries, Fits e.2) :
      Fits (.table origin entries)

/-- All whole numbers in some entries fit in a word. -/
def Entries.Fit (entries : Entries) : Prop := ∀ e ∈ entries, Fits e.2

theorem fits_of_table {origin : Origin} (h : Fits (.table origin entries)) : entries.Fit := by
  cases h
  assumption

/-! ### Words -/

theorem fits_of_integer? {n : Int} (h : integer? n = some t) : t.Fits := by
  unfold integer? at h
  split at h
  · rename_i hfits
    cases h
    refine .scalar fun m hm => ?_
    cases hm
    exact hfits
  · cases h

theorem fits_float (x : Float) : Fits (.scalar (.float x)) := .scalar nofun

theorem fits_of_double? {negative : Bool} {whole fraction : List Char} {exponent : Int}
    (h : double? negative whole fraction exponent = some t) : t.Fits := by
  rw [double?] at h
  split at h
  · cases h
  · cases h
    exact fits_float _

theorem fits_of_afterWhole? {negative : Bool} {whole : List Char}
    (h : afterWhole? negative whole cs = some t) : t.Fits := by
  unfold afterWhole? at h
  split at h
  · exact fits_of_integer? h
  · dsimp only at h
    obtain ⟨fraction, -, h⟩ := Option.bind_eq_some_iff.1 h
    split at h
    · exact fits_of_double? h
    · split at h
      · obtain ⟨_, -, h⟩ := Option.bind_eq_some_iff.1 h
        exact fits_of_double? h
      · cases h
  · split at h
    · obtain ⟨_, -, h⟩ := Option.bind_eq_some_iff.1 h
      exact fits_of_double? h
    · cases h

theorem fits_of_decimal? (h : decimal? cs = some t) : t.Fits := by
  unfold decimal? at h
  dsimp only at h
  split at h
  · cases h
    exact fits_float _
  · split at h
    · cases h
      exact fits_float _
    · obtain ⟨_, -, h⟩ := Option.bind_eq_some_iff.1 h
      exact fits_of_afterWhole? h

theorem fits_of_based? {base : Nat} (h : based? base cs = some t) : t.Fits := by
  obtain ⟨_, -, h⟩ := Option.bind_eq_some_iff.1 h
  exact fits_of_integer? h

theorem fits_of_word? (h : word? cs = some t) : t.Fits := by
  unfold word? at h
  split at h
  · cases h
    exact .scalar nofun
  · cases h
    exact .scalar nofun
  · exact fits_of_based? h
  · exact fits_of_based? h
  · exact fits_of_based? h
  · split at h
    · cases h
      exact .moment
    · exact fits_of_decimal? h

theorem fits_of_readWord (h : readWord cs = some (t, rest)) : t.Fits := by
  have hword {word rest' : List Char} (h : (word? word).map (·, rest') = some (t, rest)) :
      t.Fits := by
    obtain ⟨_, ht, heq⟩ := Option.map_eq_some_iff.1 h
    cases heq
    exact fits_of_word? ht
  unfold readWord at h
  dsimp only at h
  split at h
  · split at h
    · cases h
      exact .moment
    · exact hword h
  · exact hword h

theorem fits_of_readPlain (h : readPlain cs = some (t, rest)) : t.Fits := by
  have hstring {found : Option (String × List Char)}
      (h : (found.map fun text => (scalar (.string text.1), text.2)) = some (t, rest)) :
      t.Fits := by
    obtain ⟨_, -, heq⟩ := Option.map_eq_some_iff.1 h
    cases heq
    exact .scalar nofun
  unfold readPlain at h
  split at h
  · exact hstring h
  · exact hstring h
  · exact fits_of_readWord h

/-! ### Tables -/

/-- Steps that keep a property keep it all along a list. -/
theorem keeps_of_foldlM {α β : Type} {step : β → α → Option β} {P : β → Prop} {l : List α}
    {b b' : β} (hstep : ∀ a ∈ l, ∀ b b', P b → step b a = some b' → P b') (hb : P b)
    (h : l.foldlM step b = some b') : P b' := by
  induction l generalizing b with
  | nil =>
      cases h
      exact hb
  | cons a l ih =>
      rw [List.foldlM_cons] at h
      obtain ⟨next, hnext, h⟩ := Option.bind_eq_some_iff.1 h
      exact ih (fun a ha => hstep a (List.mem_cons_of_mem _ ha))
        (hstep a List.mem_cons_self b next hb hnext) h

theorem fit_nil : Entries.Fit [] := List.forall_mem_nil _

theorem Entries.Fit.append (h : entries.Fit) (h' : entries'.Fit) : Fit (entries ++ entries') := by
  intro e he
  rcases List.mem_append.1 he with he | he
  · exact h e he
  · exact h' e he

theorem Entries.Fit.concat (h : entries.Fit) {key : String} (ht : t.Fits) :
    Fit (entries ++ [(key, t)]) := by
  refine h.append fun e he => ?_
  rw [List.mem_singleton.1 he]
  exact ht

theorem Entries.Fit.replace (h : entries.Fit) {key : String} (ht : t.Fits) :
    Fit (Toml.replace key t entries) := by
  intro e he
  obtain ⟨e', he', rfl⟩ := List.mem_map.1 he
  split
  · exact ht
  · exact h e' he'

theorem Entries.Fit.lookup (h : entries.Fit) {key : String} (hkey : entries.lookup key = some t) :
    t.Fits := by
  obtain ⟨before, after, heq, -⟩ := List.lookup_eq_some_iff.1 hkey
  exact h (key, t) (by simp [heq])

/-- Changes below keep what the changes at the end of the way keep. -/
theorem fit_of_descend {byKey : Bool} {change : Origin → Entries → Option Entries}
    (hchange : ∀ origin entries entries', Entries.Fit entries →
      change origin entries = some entries' → Entries.Fit entries')
    {path : List String} {origin : Origin} (h : entries.Fit)
    (hdescend : descend byKey change path origin entries = some entries') : entries'.Fit := by
  induction path generalizing origin entries entries' with
  | nil => exact hchange _ _ _ h hdescend
  | cons key path ih =>
      rw [descend] at hdescend
      split at hdescend
      · obtain ⟨inner, hinner, rfl⟩ := Option.map_eq_some_iff.1 hdescend
        exact h.concat (.table (ih fit_nil hinner))
      · rename_i origin' inner hkey
        split at hdescend
        · cases hdescend
        · obtain ⟨inner', hinner, rfl⟩ := Option.map_eq_some_iff.1 hdescend
          exact h.replace (.table (ih (fits_of_table (h.lookup hkey)) hinner))
      · rename_i items hkey
        split at hdescend
        · rename_i origin' inner hlast
          have hitems : ∀ item ∈ items, Fits item := by
            cases h.lookup hkey
            assumption
          obtain ⟨before, rfl⟩ := List.getLast?_eq_some_iff.1 hlast
          obtain ⟨inner', hinner, rfl⟩ := Option.map_eq_some_iff.1 hdescend
          have htable := ih (fits_of_table (hitems (.table origin' inner) (by simp))) hinner
          refine h.replace (.tables fun item hitem => ?_)
          rw [List.dropLast_concat] at hitem
          rcases List.mem_append.1 hitem with hitem | hitem
          · exact hitems item (List.mem_append_left _ hitem)
          · rw [List.mem_singleton.1 hitem]
            exact .table htable
        · cases hdescend
      · cases hdescend

theorem fit_of_addEntry {isDotted : Bool} {key : String} {origin : Origin} (ht : t.Fits)
    (h : entries.Fit) (hadd : addEntry isDotted key t origin entries = some entries') :
    entries'.Fit := by
  unfold addEntry at hadd
  split at hadd
  · cases hadd
    exact h.concat ht
  · cases hadd

theorem fit_of_assign {path : List String} {origin : Origin} (ht : t.Fits) (h : entries.Fit)
    (hassign : assign path t origin entries = some entries') : entries'.Fit :=
  fit_of_descend (fun _ _ _ h hadd => fit_of_addEntry ht h hadd) h hassign

theorem fit_of_openTable {key : String} (h : entries.Fit)
    (hopen : openTable key entries = some entries') : entries'.Fit := by
  unfold openTable at hopen
  split at hopen
  · cases hopen
    exact h.concat (.table fit_nil)
  · rename_i inner hkey
    cases hopen
    exact h.replace (.table (fits_of_table (h.lookup hkey)))
  · cases hopen

theorem fit_of_openElement {key : String} (h : entries.Fit)
    (hopen : openElement key entries = some entries') : entries'.Fit := by
  have hempty : Fits (.table .headed []) := .table fit_nil
  unfold openElement at hopen
  split at hopen
  · cases hopen
    refine h.concat (.tables fun item hitem => ?_)
    rw [List.mem_singleton.1 hitem]
    exact hempty
  · rename_i items hkey
    cases hopen
    have hitems : ∀ item ∈ items, Fits item := by
      cases h.lookup hkey
      assumption
    refine h.replace (.tables fun item hitem => ?_)
    rcases List.mem_append.1 hitem with hitem | hitem
    · exact hitems item hitem
    · rw [List.mem_singleton.1 hitem]
      exact hempty
  · cases hopen

theorem fits_of_ofPairs {pairs : List (List String × Toml)} (h : ∀ pair ∈ pairs, Fits pair.2)
    (hread : ofPairs pairs = some t) : t.Fits := by
  obtain ⟨entries, hfold, rfl⟩ := Option.map_eq_some_iff.1 hread
  exact .table (keeps_of_foldlM
    (fun pair hpair _ _ hentries hassign => fit_of_assign (h pair hpair) hentries hassign)
    fit_nil hfold)

/-! ### Values -/

section

variable {read : List Char → Option (Toml × List Char)}
  (hread : ∀ cs t rest, read cs = some (t, rest) → t.Fits)

include hread

theorem fits_of_readPair {pair : List String × Toml} (h : readPair read cs = some (pair, rest)) :
    Fits pair.2 := by
  obtain ⟨⟨path, after⟩, -, h⟩ := Option.bind_eq_some_iff.1 h
  dsimp only at h
  split at h
  · obtain ⟨⟨value, after⟩, hvalue, h⟩ := Option.bind_eq_some_iff.1 h
    cases h
    exact hread _ _ _ hvalue
  · cases h

theorem fits_of_readItems {fuel : Nat} {items : List Toml} (hitems : ∀ item ∈ items, Fits item)
    (h : readItems read fuel items cs = some (t, rest)) : t.Fits := by
  have hdone {items : List Toml} (hitems : ∀ item ∈ items, Fits item) :
      Fits (.array items.reverse) := .array fun item hitem => hitems item (List.mem_reverse.1 hitem)
  induction fuel generalizing items cs with
  | zero => cases h
  | succ fuel ih =>
      rw [readItems] at h
      split at h
      · cases h
        exact hdone hitems
      · obtain ⟨⟨item, after⟩, hitem, h⟩ := Option.bind_eq_some_iff.1 h
        have hmore := List.forall_mem_cons.2 ⟨hread _ _ _ hitem, hitems⟩
        dsimp only at h
        split at h
        · exact ih hmore h
        · cases h
          exact hdone hmore
        · cases h

theorem fits_of_readPairs {fuel : Nat} {pairs : List (List String × Toml)}
    (hpairs : ∀ pair ∈ pairs, Fits pair.2) (h : readPairs read fuel pairs cs = some (t, rest)) :
    t.Fits := by
  induction fuel generalizing pairs cs with
  | zero => cases h
  | succ fuel ih =>
      obtain ⟨⟨pair, after⟩, hpair, h⟩ := Option.bind_eq_some_iff.1 h
      have hmore : ∀ p ∈ pair :: pairs, Fits p.2 :=
        List.forall_mem_cons.2 ⟨fits_of_readPair hread hpair, hpairs⟩
      dsimp only at h
      split at h
      · exact ih hmore h
      · obtain ⟨table, htable, h⟩ := Option.bind_eq_some_iff.1 h
        cases h
        exact fits_of_ofPairs (fun pair hp => hmore pair (List.mem_reverse.1 hp)) htable
      · cases h

end

theorem fits_of_readValue {limit : Nat} (h : readValue limit cs = some (t, rest)) : t.Fits := by
  induction limit generalizing cs t rest with
  | zero =>
      unfold readValue at h
      split at h
      · cases h
      · cases h
      · exact fits_of_readPlain h
  | succ limit ih =>
      have hread (cs : List Char) (t : Toml) (rest : List Char)
          (h : readValue limit cs = some (t, rest)) : t.Fits := ih h
      unfold readValue at h
      split at h
      · exact fits_of_readItems hread (List.forall_mem_nil _) h
      · split at h
        · cases h
          exact .table fit_nil
        · exact fits_of_readPairs hread (List.forall_mem_nil _) h
      · exact fits_of_readPlain h

/-! ### Files -/

/-- The value that a line holds fits, if it holds one. -/
def Line.Fits : Line → Prop
  | .entry _ value => Toml.Fits value
  | _ => True

theorem fits_of_readLine {line : Line} (h : readLine cs = some (line, rest)) : line.Fits := by
  unfold readLine at h
  split at h
  · obtain ⟨_, -, h⟩ := Option.bind_eq_some_iff.1 h
    dsimp only at h
    split at h
    · obtain ⟨_, -, heq⟩ := Option.map_eq_some_iff.1 h
      cases heq
      trivial
    · cases h
  · obtain ⟨_, -, h⟩ := Option.bind_eq_some_iff.1 h
    dsimp only at h
    split at h
    · obtain ⟨_, -, heq⟩ := Option.map_eq_some_iff.1 h
      cases heq
      trivial
    · cases h
  · obtain ⟨⟨pair, after⟩, hpair, h⟩ := Option.bind_eq_some_iff.1 h
    obtain ⟨_, -, heq⟩ := Option.map_eq_some_iff.1 h
    cases heq
    exact fits_of_readPair (fun _ _ _ h => fits_of_readValue h) hpair

theorem fits_of_readLines {fuel : Nat} {lines : List Line} (h : readLines fuel cs = some lines) :
    ∀ line ∈ lines, line.Fits := by
  induction fuel generalizing cs lines with
  | zero => cases h
  | succ fuel ih =>
      rw [readLines] at h
      split at h
      · cases h
        exact List.forall_mem_nil _
      · split at h
        · cases h
          exact List.forall_mem_nil _
        · cases h
      · obtain ⟨⟨line, after⟩, hline, h⟩ := Option.bind_eq_some_iff.1 h
        obtain ⟨others, hothers, h⟩ := Option.bind_eq_some_iff.1 h
        cases h
        exact List.forall_mem_cons.2 ⟨fits_of_readLine hline, ih hothers⟩

theorem fit_of_add {d d' : Draft} {line : Line} (hline : line.Fits) (h : d.entries.Fit)
    (hadd : d.add line = some d') : d'.entries.Fit := by
  cases line with
  | header path =>
      obtain ⟨entries, hentries, rfl⟩ := Option.map_eq_some_iff.1 hadd
      exact fit_of_descend (fun _ _ _ h hopen => fit_of_openTable h hopen) h hentries
  | element path =>
      obtain ⟨entries, hentries, rfl⟩ := Option.map_eq_some_iff.1 hadd
      exact fit_of_descend (fun _ _ _ h hopen => fit_of_openElement h hopen) h hentries
  | entry path value =>
      obtain ⟨entries, hentries, rfl⟩ := Option.map_eq_some_iff.1 hadd
      exact fit_of_descend (fun _ _ _ h hassign => fit_of_assign hline h hassign) h hentries

theorem fits_of_ofLines {lines : List Line} (hlines : ∀ line ∈ lines, line.Fits)
    (h : ofLines lines = some t) : t.Fits := by
  obtain ⟨d, hfold, rfl⟩ := Option.map_eq_some_iff.1 h
  have hkeep : ∀ line ∈ lines, ∀ d d' : Draft, d.entries.Fit → d.add line = some d' →
      d'.entries.Fit := fun line hline _ _ => fit_of_add (hlines line hline)
  exact .table (keeps_of_foldlM hkeep fit_nil hfold)

/-- **Whole numbers of a settings file fit in a word.** -/
theorem fits_of_read? {text : String} (h : read? text = some t) : t.Fits := by
  obtain ⟨lines, hlines, h⟩ := Option.bind_eq_some_iff.1 h
  exact fits_of_ofLines (fits_of_readLines hlines) h

end Triage.Toml
