/-
What saving a filter does to those that are saved.

A filter is saved only if its expression can be read, but it is read with the filters that were
saved before.  Saving it changes what its name stands for, in the expression itself as well: where
that comes across its own name, the filter it has replaced made sense of it and the new one does
not.  That is the only way for saving to go wrong; in particular no name ever goes missing.
-/
import Triage.CommandLine.Run
import Triage.Proofs.Pipeline.Kept
import Triage.Proofs.Query.Later
import Triage.Proofs.Query.Quoting
import Triage.Proofs.Query.Replacement
import Triage.Proofs.SortedMap
import Triage.Proofs.Text

namespace Triage

open Calendar Text

/-! ### Queries that are a name -/

namespace Query

theorem scan_of_plain {cs : List Char} (h : ∀ c ∈ cs, IsPlainChar c) (d : Draft) :
    scan d none cs = .ok { d with text := cs.reverse ++ d.text }.finish := by
  have hscan := scan_plain_append h d []
  rw [List.append_nil] at hscan
  exact hscan

theorem isPlainChar_of_isAlphanum {c : Char} (h : c.isAlphanum = true) : IsPlainChar c := by
  have hval : c.toNat = c.val.toNat := rfl
  delta Char.isAlphanum Char.isAlpha Char.isUpper Char.isLower Char.isDigit at h
  simp only [Bool.or_eq_true, Bool.and_eq_true, decide_eq_true_eq, ge_iff_le,
    UInt32.le_iff_toNat_le] at h
  simp only [IsPlainChar, isBlank, ne_eq, Char.ext_iff, ← UInt32.toNat_inj, ← hval] at h ⊢
  simp at h ⊢
  omega

theorem isPlainChar_of_isName {name : String} (h : SavedFilter.isName name = true) :
    ∀ c ∈ ("@" ++ name).toList, IsPlainChar c := by
  intro c hc
  simp only [SavedFilter.isName, Bool.and_eq_true, List.all_eq_true, Bool.or_eq_true,
    beq_iff_eq] at h
  rw [String.toList_append] at hc
  rcases List.mem_append.1 hc with hc | hc
  · rw [List.mem_singleton.1 hc]
    unfold IsPlainChar
    decide
  · rcases h.2 c hc with (halnum | rfl) | rfl
    · exact isPlainChar_of_isAlphanum halnum
    all_goals
      unfold IsPlainChar
      decide

theorem trim_reference {name : String} (h : SavedFilter.isName name = true) :
    trim ("@" ++ name) = "@" ++ name :=
  trim_of_plain fun c hc => (isPlainChar_of_isName h c hc).2.2.2.2

/-- A name after its sign is a word of its own. -/
theorem tokens_reference {name : String} (h : SavedFilter.isName name = true) :
    tokens ("@" ++ name) = .ok [.term (.word ("@" ++ name))] := by
  have hne : ∀ other : String, other.toList.head? ≠ some '@' → "@" ++ name ≠ other := by
    rintro other hother rfl
    exact hother (by simp)
  rw [tokens, scan_of_plain (isPlainChar_of_isName h)]
  simp [Draft.finish, Except.mapError, hne "AND" (by decide), hne "OR" (by decide),
    hne "NOT" (by decide)]

theorem reference?_append (name : String) : reference? ("@" ++ name) = some name := by
  simp [reference?]

/-- A name after its sign is a query that is nothing else. -/
theorem isReference_of_isName {name : String} (h : SavedFilter.isName name = true) :
    IsReference ("@" ++ name) name := by
  have htokens : tokens (trim ("@" ++ name)) = .ok [.term (.word ("@" ++ name))] := by
    rw [trim_reference h, tokens_reference h]
  refine ⟨fun other => ?_, fun ctx => ?_⟩
  · rw [references_iff, referenced, htokens]
    simp [reference?_append]
  · have hname : name ≠ "" := by
      rintro rfl
      cases h
    have hblank : trim ("@" ++ name) ≠ "" := by
      rw [trim_reference h]
      intro hempty
      have := congrArg String.toList hempty
      simp at this
    have hleaf : ∀ t, .term t ∈ [Token.term (.word ("@" ++ name))] →
        filterOfTerm ctx.now (fun name => .ok (.atom (.ofText name))) t =
          .ok (.atom (.ofText name)) := by
      intro t ht
      cases List.mem_singleton.1 ht
      exact filterOfTerm_reference (reference?_append name) hname
    have hderives : Derives .disjunction [.term (.word ("@" ++ name))]
        (.term (.word ("@" ++ name))) := .conjunction (.negation (.primary (.term _)))
    exact ⟨_, by rw [filterWith_of_tokens hblank htokens, formulaOf_of_derives hderives hleaf]; rfl⟩

end Query

/-! ### The saved filters as a whole -/

namespace SavedFilters

variable {filters filters' : SavedFilters} {now : Instant} {name expression : String}

/-- What queries depend on at a time with these filters. -/
def context (filters : SavedFilters) (now : Instant) : Query.Context :=
  ⟨now, some filters.expressions⟩

/-- Each saved filter can be used: the query that is its name is read. -/
def AllRead (filters : SavedFilters) (now : Instant) : Prop :=
  ∀ name, (filters.get? name).isSome = true →
    ∃ f, Query.filterOf (filters.context now) ("@" ++ name) = .ok f

/-- Nothing is missing for any of the saved filters. -/
def AllWhole (filters : SavedFilters) (now : Instant) : Prop :=
  ∀ name, (filters.get? name).isSome = true → Query.Whole (filters.context now) ("@" ++ name)

theorem expression?_context (filters : SavedFilters) (now : Instant) (name : String) :
    (filters.context now).expression? name = (filters.get? name).map SavedFilter.expression :=
  (Query.Context.expression?_of_saved rfl name).trans (SortedMap.get?_map _ _ _)

theorem AllRead.later (h : filters.AllRead now) {later : Instant} (hclock : now.Forward later) :
    filters.AllRead later := by
  intro name hname
  obtain ⟨f, hf⟩ := h name hname
  exact Query.filterOf_later hclock hf

theorem AllRead.allWhole (h : filters.AllRead now) : filters.AllWhole now := by
  intro name hname
  obtain ⟨f, hf⟩ := h name hname
  exact Query.whole_of_ok hf

theorem AllWhole.later (h : filters.AllWhole now) {later : Instant} (hclock : now.Forward later) :
    filters.AllWhole later :=
  fun name hname => (h name hname).later hclock rfl

/-! ### Saving one filter -/

/-- A filter was saved under a name: the others are as they were. -/
structure IsSaved (filters filters' : SavedFilters) (name expression : String) : Prop where
  isName : SavedFilter.isName name = true
  saved : (filters'.get? name).map SavedFilter.expression = some expression
  kept : ∀ other, other ≠ name → filters'.get? other = filters.get? other

theorem isSaved_of_save {description : Option String}
    (h : filters.save now name expression description = .ok filters') :
    IsSaved filters filters' name expression := by
  rw [SavedFilters.save] at h
  split at h
  · rename_i hname
    cases h
    exact ⟨hname, by rw [SortedMap.get?_insert, if_pos rfl]; rfl,
      fun other hother => by rw [SortedMap.get?_insert, if_neg hother]⟩
  · cases h

namespace IsSaved

theorem saves (h : IsSaved filters filters' name expression) (now : Instant) :
    (filters.context now).Saves (filters'.context now) name expression :=
  ⟨rfl, (expression?_context _ _ _).trans h.saved, fun other hother => by
    rw [expression?_context, expression?_context, h.kept other hother]⟩

theorem isSome (h : IsSaved filters filters' name expression) : (filters'.get? name).isSome = true := by
  have hsaved := h.saved
  cases hget : filters'.get? name with
  | none => simp [hget] at hsaved
  | some filter => rfl

/-- Nothing goes missing. -/
theorem allWhole (h : IsSaved filters filters' name expression) (hall : filters.AllWhole now)
    (hexpression : Query.Whole (filters.context now) expression) : filters'.AllWhole now := by
  intro other hother
  by_cases hname : other = name
  · subst hname
    exact (Query.isReference_of_isName h.isName).whole (h.saves now).saved
      (hexpression.save hexpression (h.saves now))
  · rw [h.kept other hname] at hother
    exact (hall other hother).save hexpression (h.saves now)

/-- Every filter can still be used exactly if the new one does not come across itself. -/
theorem allRead_iff (h : IsSaved filters filters' name expression) (hall : filters.AllRead now)
    {f : Filter} (hf : Query.filterOf (filters.context now) expression = .ok f) :
    filters'.AllRead now ↔ ¬(filters.context now).Reaches expression name := by
  have hself := (Query.isReference_of_isName h.isName).ok_iff_of_saves (h.saves now) hf
  constructor
  · intro hread
    exact hself.1 (hread name h.isSome)
  · intro hapart other hother
    by_cases hname : other = name
    · subst hname
      exact hself.2 hapart
    · rw [h.kept other hname] at hother
      obtain ⟨g, hg⟩ := hall other hother
      exact (Query.ok_iff_of_saves (h.saves now) hg hf).2 fun hboth => hapart hboth.2

end IsSaved

end SavedFilters

/-! ### Saving one after the other -/

namespace CommandLine

open SavedFilters

/-- A filter to save, with the time and the settings of the command that saves it. -/
structure Save where
  now : Instant
  config : Config
  name : String
  expression : String
  description : Option String

/-- What the command makes of the saved filters. -/
def Save.apply (s : Save) (filters : SavedFilters) : Except Failure SavedFilters :=
  addFilter s.now s.config filters s.name s.expression s.description

/-- What commands make of the saved filters that all succeed, each on what the one before it has
written. -/
def saveAll (filters : SavedFilters) (saves : List Save) : Except Failure SavedFilters :=
  saves.foldlM (fun filters s => s.apply filters) filters

/-- After each of the commands every saved filter can be used. -/
def ReadThroughout : SavedFilters → List Save → Prop
  | _, [] => True
  | filters, s :: rest =>
    ∀ filters', s.apply filters = .ok filters' → filters'.AllRead s.now ∧ ReadThroughout filters' rest

/-- None of the expressions comes across the name that it is saved under, by the filters that it is
read with. -/
def Apart : SavedFilters → List Save → Prop
  | _, [] => True
  | filters, s :: rest =>
    ∀ filters', s.apply filters = .ok filters' →
      ¬(filters.context s.now).Reaches s.expression s.name ∧ Apart filters' rest

variable {filters filters' result : SavedFilters} {start now : Instant} {s : Save}
  {saves : List Save}

theorem saved_of_ofConfig {config : Config} {saved : Option (SortedMap String)} {p : Pipeline}
    (h : Pipeline.ofConfig config saved = .ok p) : p.saved = saved := by
  obtain ⟨_, -, h⟩ := bind_ok_iff.1 h
  obtain ⟨_, -, h⟩ := bind_ok_iff.1 h
  obtain ⟨_, -, h⟩ := bind_ok_iff.1 h
  obtain ⟨_, -, h⟩ := bind_ok_iff.1 h
  obtain ⟨pipeline, hmake, h⟩ := bind_ok_iff.1 h
  obtain ⟨_, -, hmake⟩ := bind_ok_iff.1 hmake
  cases hmake
  cases h
  rfl

theorem parse_ok {config : Config} {query : String} {f : Filter}
    (h : parse now config filters query = .ok f) :
    Query.filterOf (filters.context now) query = .ok f := by
  obtain ⟨p, hp, hf⟩ := bind_ok_iff.1 h
  have hsaved := saved_of_ofConfig (mapError_ok_iff.1 hp)
  have hread := mapError_ok_iff.1 hf
  rwa [Pipeline.filterOf, hsaved] at hread

theorem Save.apply_ok (h : s.apply filters = .ok filters') :
    (∃ f, Query.filterOf (filters.context s.now) s.expression = .ok f) ∧
      IsSaved filters filters' s.name s.expression := by
  obtain ⟨f, hf, hsave⟩ := bind_ok_iff.1 h
  exact ⟨⟨f, parse_ok hf⟩, isSaved_of_save (mapError_ok_iff.1 hsave)⟩

/-- With a budget beyond the number of saved filters it is found whether a query can be read. -/
theorem exists_filterOf {text : String} (h : (Query.filterUpTo (filters.context now)
    (.deadline 0 0) (filters.keys.length + 1) [] text).isOk = true) :
    ∃ f, Query.filterOf (filters.context now) text = .ok f := by
  have hnames : (filters.context now).names.length = filters.keys.length := by
    simp [Query.Context.names, context, SavedFilters.expressions, SortedMap.keys, SortedMap.map]
  have hbudget : (filters.context now).unexpanded [] < filters.keys.length + 1 :=
    Nat.lt_succ_of_le (hnames ▸ List.countP_le_length)
  rw [Query.filterUpTo_eq _ hbudget] at h
  exact exists_of_isOk h

/-- A command with the initial settings, and what it makes of the saved filters. -/
theorem Save.apply_initial {name expression : String} (hname : SavedFilter.isName name = true)
    (h : (Query.filterUpTo (filters.context now) (.deadline 0 0) (filters.keys.length + 1) []
      expression).isOk = true) :
    (Save.mk now {} name expression none).apply filters =
      .ok (filters.insert name ⟨expression, none, now⟩) := by
  obtain ⟨f, hf⟩ := exists_filterOf h
  rw [apply, addFilter, parse, Pipeline.ofConfig_initial]
  have hread : (Pipeline.initial (some filters.expressions)).filterOf now expression = .ok f := hf
  simp only [orFail, Except.mapError, bind, Except.bind, hread, SavedFilters.save, hname, if_true]

theorem saveAll_cons_iff : saveAll filters (s :: saves) = .ok result ↔
    ∃ filters', s.apply filters = .ok filters' ∧ saveAll filters' saves = .ok result := by
  rw [saveAll, List.foldlM_cons]
  exact bind_ok_iff

/-- Whatever is saved, nothing goes missing. -/
theorem allWhole_saveAll (hall : filters.AllWhole start)
    (hclock : (start :: saves.map Save.now).IsChain Instant.Forward)
    (hsaved : saveAll filters saves = .ok result)
    (hnow : ∀ time ∈ start :: saves.map Save.now, time.Forward now) : result.AllWhole now := by
  induction saves generalizing filters start with
  | nil =>
      cases hsaved
      exact hall.later (hnow start List.mem_cons_self)
  | cons s rest ih =>
      obtain ⟨filters', happly, hrest⟩ := saveAll_cons_iff.1 hsaved
      obtain ⟨⟨f, hf⟩, hone⟩ := Save.apply_ok happly
      obtain ⟨hfirst, hclock⟩ := List.isChain_cons_cons.1 hclock
      exact ih (hone.allWhole (hall.later hfirst) (Query.whole_of_ok hf)) hclock hrest
        fun time htime => hnow time (List.mem_cons_of_mem _ htime)

/-- All filters can be used all the time exactly if none is saved that comes across itself. -/
theorem readThroughout_iff (hall : filters.AllRead start)
    (hclock : (start :: saves.map Save.now).IsChain Instant.Forward)
    (hsaved : saveAll filters saves = .ok result) :
    ReadThroughout filters saves ↔ Apart filters saves := by
  induction saves generalizing filters start with
  | nil => rfl
  | cons s rest ih =>
      obtain ⟨filters', happly, hrest⟩ := saveAll_cons_iff.1 hsaved
      obtain ⟨⟨f, hf⟩, hone⟩ := Save.apply_ok happly
      obtain ⟨hfirst, hclock⟩ := List.isChain_cons_cons.1 hclock
      have hstep := hone.allRead_iff (hall.later hfirst) hf
      simp only [ReadThroughout, Apart, happly, Except.ok.injEq, forall_eq']
      rw [hstep]
      exact and_congr_right fun hapart => ih (hstep.2 hapart) hclock hrest

/--
**Saving breaks saved filters only by a filter that comes across itself.**  Filters are saved one
after the other, each read with those that are saved at its time, starting from filters that can
all be used.  After every one of the commands all of them can still be used, if and only if none of
the expressions comes across the name that it is saved under.  In any case no name is missing: a
saved filter that cannot be used any more is refused for a cycle.
-/
theorem saveAll_reads (hall : filters.AllRead start)
    (hclock : (start :: saves.map Save.now).IsChain Instant.Forward)
    (hsaved : saveAll filters saves = .ok result) :
    (ReadThroughout filters saves ↔ Apart filters saves) ∧
    ∀ now, (∀ time ∈ start :: saves.map Save.now, time.Forward now) →
      ∀ name, (result.get? name).isSome = true →
        (∃ f, Query.filterOf (result.context now) ("@" ++ name) = .ok f) ∨
          ∃ other walked, Query.filterOf (result.context now) ("@" ++ name) =
            .error (.reference (.cycle other walked)) := by
  refine ⟨readThroughout_iff hall hclock hsaved, fun now hnow name hname => ?_⟩
  exact (allWhole_saveAll hall.allWhole hclock hsaved hnow name hname).ok_or_cycle

/-- A name is given another meaning while a second filter refers to it. -/
theorem saveAll_reads_redefined :
    let save (time : Int) (name expression : String) : Save :=
      ⟨⟨time, 0⟩, {}, name, expression, none⟩
    let saves := [save 0 "a" "is:unread", save 60 "b" "@a OR x", save 120 "a" "type:pr"]
    let result : SavedFilters := .ofList
      [("a", ⟨"type:pr", none, ⟨120, 0⟩⟩), ("b", ⟨"@a OR x", none, ⟨60, 0⟩⟩)]
    AllRead .empty ⟨0, 0⟩ ∧ (⟨0, 0⟩ :: saves.map Save.now).IsChain Instant.Forward ∧
      saveAll .empty saves = .ok result ∧ ReadThroughout .empty saves := by
  intro save saves result
  have hempty : AllRead .empty ⟨0, 0⟩ := fun name hname => nomatch hname
  have hclock : (⟨0, 0⟩ :: saves.map Save.now).IsChain Instant.Forward :=
    .cons_cons (by decide) (.cons_cons (by decide) (.cons_cons (by decide) (.singleton _)))
  let one : SavedFilters := .ofList [("a", ⟨"is:unread", none, ⟨0, 0⟩⟩)]
  let two : SavedFilters := .ofList
    [("a", ⟨"is:unread", none, ⟨0, 0⟩⟩), ("b", ⟨"@a OR x", none, ⟨60, 0⟩⟩)]
  have hone : (save 0 "a" "is:unread").apply .empty = .ok one :=
    Save.apply_initial (by decide) (by decide +kernel)
  have htwo : (save 60 "b" "@a OR x").apply one = .ok two :=
    Save.apply_initial (by decide) (by decide +kernel)
  have hthree : (save 120 "a" "type:pr").apply two = .ok result :=
    Save.apply_initial (by decide) (by decide +kernel)
  have hsaved : saveAll .empty saves = .ok result :=
    saveAll_cons_iff.2 ⟨one, hone, saveAll_cons_iff.2 ⟨two, htwo,
      saveAll_cons_iff.2 ⟨result, hthree, rfl⟩⟩⟩
  have hapart : Apart .empty saves := by
    simp only [Apart, saves, hone, htwo, hthree, Except.ok.injEq, forall_eq', and_true]
    refine ⟨fun h => ?_, fun h => ?_, fun h => ?_⟩
    · have hmem : "a" ∈ [] := h.mem_of_closed (by decide +kernel) (by decide +kernel)
      cases hmem
    · have hmem : "b" ∈ ["a"] := h.mem_of_closed (by decide +kernel) (by decide +kernel)
      exact absurd hmem (by decide)
    · have hmem : "a" ∈ [] := h.mem_of_closed (by decide +kernel) (by decide +kernel)
      cases hmem
  exact ⟨hempty, hclock, hsaved, (saveAll_reads hempty hclock hsaved).1.2 hapart⟩

/-- The filter under a name is replaced by one that leads back to it: the expression can be read, by
the meaning that the name has until then, and with it the name cannot be used any more. -/
theorem saveAll_reads_cycle :
    let now : Instant := ⟨1750000000, 0⟩
    let save (name expression : String) : Save := ⟨now, {}, name, expression, none⟩
    let filters : SavedFilters := .ofList [("a", ⟨"x", none, now⟩), ("b", ⟨"@a", none, now⟩)]
    let result : SavedFilters := .ofList [("a", ⟨"@b", none, now⟩), ("b", ⟨"@a", none, now⟩)]
    saveAll .empty [save "a" "x", save "b" "@a"] = .ok filters ∧ filters.AllRead now ∧
      (save "a" "@b").apply filters = .ok result ∧ ¬result.AllRead now ∧
      Query.filterOf (result.context now) "@a" = .error (.reference (.cycle "a" ["a", "b"])) := by
  intro now save filters result
  have hone : (save "a" "x").apply .empty = .ok (SortedMap.ofList [("a", ⟨"x", none, now⟩)]) :=
    Save.apply_initial (by decide) (by decide +kernel)
  have htwo : (save "b" "@a").apply (SortedMap.ofList [("a", ⟨"x", none, now⟩)]) = .ok filters :=
    Save.apply_initial (by decide) (by decide +kernel)
  have hthree : (save "a" "@b").apply filters = .ok result := by
    have hinsert : filters.insert "a" ⟨"@b", none, now⟩ = result := by decide +kernel
    rw [← hinsert]
    exact Save.apply_initial (by decide) (by decide +kernel)
  have hall : filters.AllRead now := by
    intro name hname
    have hkeys : filters.keys = ["a", "b"] := by decide +kernel
    have hmem := Query.Context.mem_keys_of_get? (Option.eq_some_of_isSome hname)
    rw [hkeys] at hmem
    rcases List.mem_pair.1 hmem with rfl | rfl
    · exact exists_filterOf (by decide +kernel)
    · exact exists_filterOf (by decide +kernel)
  have hcycle : Query.filterOf (result.context now) "@a" =
      .error (.reference (.cycle "a" ["a", "b"])) := by
    have hbroken : (match Query.filterUpTo (result.context now) (.deadline 0 0) 3 [] "@a" with
        | .error (.reference broken) => some broken
        | _ => none) = some (.cycle "a" ["a", "b"]) := by decide +kernel
    rw [Query.filterOf, ← Query.filterUpTo_eq (.deadline 0 0)
      (show (result.context now).unexpanded [] < 3 by decide +kernel)]
    split at hbroken
    · rename_i broken h
      rw [h, Option.some.inj hbroken]
    · cases hbroken
  refine ⟨saveAll_cons_iff.2 ⟨_, hone, saveAll_cons_iff.2 ⟨filters, htwo, rfl⟩⟩, hall, hthree,
    fun hread => ?_, hcycle⟩
  obtain ⟨f, hf⟩ := hread "a" (by decide +kernel)
  cases hcycle.symm.trans hf

end CommandLine

end Triage
