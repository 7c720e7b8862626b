/-
The text of a filter is a query for it.

A filter is told by its text when all its conditions come back from theirs.  That is so for the
read state, for kinds, reasons and repositories whose text needs no quotes, for one bound on the
score, and for words that quotes show as they are.  Nodes print parentheses only around two
members or more, and `NOT` prints none at all; that is enough, because every part prints as a
phrase that binds at least as tight as a negation.  The filter that is read back may be another
tree, since chains are flattened, but it accepts the same.
-/
import Triage.Proofs.Decimal.Digits
import Triage.Proofs.Notification
import Triage.Proofs.Query.Meaning
import Triage.Proofs.Query.Positions

namespace Triage

open Text Query

/-! ### Texts that come back -/

namespace Query

/-- Printable ASCII without quotes and backslashes. -/
def IsWordChar (c : Char) : Prop := 0x20 ≤ c.toNat ∧ c.toNat < 0x7F ∧ c ≠ '"' ∧ c ≠ '\\'

/-- A word that quotes show as it is, and that is not the name of a saved filter. -/
structure IsPlainWord (word : String) : Prop where
  nonempty : word ≠ ""
  chars : ∀ c ∈ word.toList, IsWordChar c
  unnamed : word.toList.head? ≠ some '@'

instance (c : Char) : Decidable (IsWordChar c) :=
  inferInstanceAs (Decidable (0x20 ≤ c.toNat ∧ c.toNat < 0x7F ∧ c ≠ '"' ∧ c ≠ '\\'))

instance (word : String) : Decidable (IsPlainWord word) :=
  haveI := List.decidableBAll IsWordChar word.toList
  decidable_of_iff (word ≠ "" ∧ (∀ c ∈ word.toList, IsWordChar c) ∧ word.toList.head? ≠ some '@')
    ⟨fun ⟨h, h', h''⟩ => ⟨h, h', h''⟩, fun ⟨h, h', h''⟩ => ⟨h, h', h''⟩⟩

end Query

namespace Predicate

/-- The conditions that come back from their text. -/
inductive Tellable : Predicate → Prop
  | unread (value : Bool) : Tellable (unread value)
  | type {text : String} (h : IsPlainValue text) : Tellable (ofType text)
  | reason {text : String} (h : IsPlainValue text) : Tellable (ofReason text)
  | repository {text : String} {p : Predicate} (h : IsPlainValue text)
      (hp : ofRepository text = .ok p) : Tellable p
  | organization {text : String} {p : Predicate} (h : IsPlainValue text)
      (hp : ofOrganization text = .ok p) : Tellable p
  | atLeast {n : Nat} (h : n ≤ 100) : Tellable (.score ⟨some n, none⟩)
  | atMost {n : Nat} (h : n ≤ 100) : Tellable (.score ⟨none, some n⟩)
  | exactly {n : Nat} (h : n ≤ 100) : Tellable (.score ⟨some n, some n⟩)
  | text {word : String} (h : IsPlainWord word) : Tellable (ofText word)

end Predicate

/-- The filters over such conditions whose nodes all join something. -/
inductive Filter.Tellable : Filter → Prop
  | atom {p : Predicate} (h : p.Tellable) : Tellable (.atom p)
  | all {members : List Filter} (hne : members ≠ []) (h : ∀ m ∈ members, Tellable m) :
      Tellable (.all members)
  | any {members : List Filter} (hne : members ≠ []) (h : ∀ m ∈ members, Tellable m) :
      Tellable (.any members)
  | not {member : Filter} (h : Tellable member) : Tellable (.not member)

namespace Query

/-! ### Spellings -/

section spellings

variable {c : Char} {text word : String}

theorem IsValueChar.toLower (h : IsValueChar c) : IsValueChar c.toLower := by
  rcases toLower_eq_or c with heq | hrange
  · rwa [heq]
  · refine ⟨?_, ?_, ?_, ?_⟩
    iterate 3
      intro heq
      rw [heq] at hrange
      exact absurd hrange (by decide)
    simp [isBlank]
    omega

theorem IsWordChar.toLower (h : IsWordChar c) : IsWordChar c.toLower := by
  rcases toLower_eq_or c with heq | hrange
  · rwa [heq]
  · refine ⟨by omega, by omega, ?_, ?_⟩
    all_goals
      intro heq
      rw [heq] at hrange
      exact absurd hrange (by decide)

/-- A character of the name of a reason. -/
def reasonChar (c : Char) : Char := if c.toLower == '-' then '_' else c.toLower

theorem reasonChar_reasonChar (c : Char) : reasonChar (reasonChar c) = reasonChar c := by
  by_cases h : c.toLower = '-'
  · simp [reasonChar, h]
  · have hkept : reasonChar c = c.toLower := by simp [reasonChar, h]
    rw [hkept, reasonChar, toLower_toLower, if_neg (by simpa using h)]

theorem IsValueChar.reasonChar (h : IsValueChar c) : IsValueChar (reasonChar c) := by
  unfold Query.reasonChar
  split
  · decide
  · exact h.toLower

theorem ofReason_of_isPlainValue (h : IsPlainValue text) :
    Predicate.ofReason text = .reason (String.ofList (text.toList.map reasonChar)) := by
  rw [Predicate.ofReason, trim_of_plain fun c hc => (h.2 c hc).2.2.2, toList_asciiLower,
    List.map_map]
  rfl

theorem quoteChar_of_isWordChar (h : IsWordChar c) : quoteChar c = [c] := by
  obtain ⟨hlow, hhigh, hquote, hbackslash⟩ := h
  have hshown : isShown c = true := by
    rw [isShown, if_pos (by omega)]
    simp [hlow, hhigh]
  unfold quoteChar
  split
  · exact absurd rfl hquote
  · exact absurd rfl hbackslash
  iterate 4 exact absurd hlow (by decide)
  rw [if_pos hshown]

theorem toList_quote (h : ∀ c ∈ word.toList, IsWordChar c) :
    (quote word).toList = inQuotes word := by
  have hchars : word.toList.flatMap quoteChar = word.toList.flatMap fun c => [c] :=
    List.flatMap_congr fun c hc => quoteChar_of_isWordChar (h c hc)
  rw [quote, String.toList_ofList, hchars, List.flatMap_singleton', inQuotes]
  rfl

theorem IsPlainWord.lowercase_eq (h : IsPlainWord word) : lowercase word = Text.asciiLower word :=
  lowercase_of_isAscii fun c hc => by
    have hhigh := (h.chars c hc).2.1
    simp only [isAscii, decide_eq_true_eq]
    omega

theorem IsPlainWord.asciiLower (h : IsPlainWord word) : IsPlainWord (asciiLower word) := by
  refine ⟨by simpa [Text.asciiLower] using h.nonempty, fun c hc => ?_, ?_⟩
  · rw [toList_asciiLower] at hc
    obtain ⟨d, hd, rfl⟩ := List.mem_map.1 hc
    exact (h.chars d hd).toLower
  · rw [toList_asciiLower, List.head?_map]
    intro hat
    obtain ⟨c, hc, hlower⟩ := Option.map_eq_some_iff.1 hat
    rcases toLower_eq_or c with heq | hrange
    · exact h.unnamed (hc.trans (congrArg some (heq.symm.trans hlower)))
    · rw [hlower] at hrange
      exact absurd hrange (by decide)

theorem ofText_asciiLower (h : IsPlainWord word) :
    Predicate.ofText (asciiLower word) = .ofText word := by
  rw [Predicate.ofText, Predicate.ofText, h.lowercase_eq, h.asciiLower.lowercase_eq,
    asciiLower_asciiLower]

end spellings

/-! ### Conditions -/

section conditions

variable {ctx : Context} {chain : List String} {value word : String} {p : Predicate}

theorem tells_unread (state : Bool) :
    Tells (termFilter ctx chain) .primary (Predicate.describe (.unread state))
      (.atom (.unread state)) := by
  cases state with
  | true => exact tells_of_field "is" "unread" (by decide) (by decide) rfl
  | false => exact tells_of_field "is" "read" (by decide) (by decide) rfl

theorem tells_type (h : IsPlainValue value) :
    Tells (termFilter ctx chain) .primary (Predicate.ofType value).describe
      (.atom (.ofType value)) := by
  have hname : IsPlainValue (SubjectType.ofText value).name := by
    cases hkind : SubjectType.ofText value with
    | other name =>
        rw [SubjectType.eq_of_ofText_eq_other hkind]
        exact h
    | pullRequest | issue | discussion | release | commit | checkSuite => decide
  refine tells_of_field "type" _ (by decide) hname ?_
  rw [fieldPredicate, if_neg hname.1]
  show Except.ok (Predicate.ofType (SubjectType.ofText value).name) = _
  rw [Predicate.ofType, SubjectType.ofText_name_ofText]
  rfl

theorem tells_repository (h : IsPlainValue value) (hp : Predicate.ofRepository value = .ok p) :
    Tells (termFilter ctx chain) .primary p.describe (.atom p) := by
  have hfield : fieldPredicate ctx.now "repo" value = .ok p := by
    rw [fieldPredicate, if_neg h.1, ← hp]
    rfl
  obtain ⟨glob, hglob, rfl⟩ := Predicate.ofRepository_ok_iff.1 hp
  rw [Predicate.describe, Glob.text_of_ofText hglob]
  exact tells_of_field "repo" _ (by decide) h hfield

theorem tells_organization (h : IsPlainValue value) (hp : Predicate.ofOrganization value = .ok p) :
    Tells (termFilter ctx chain) .primary p.describe (.atom p) := by
  have hfield : fieldPredicate ctx.now "org" value = .ok p := by
    rw [fieldPredicate, if_neg h.1, ← hp]
    rfl
  obtain ⟨glob, hglob, rfl⟩ := Predicate.ofOrganization_ok_iff.1 hp
  rw [Predicate.describe, Glob.text_of_ofText hglob]
  exact tells_of_field "org" _ (by decide) h hfield

theorem tells_reason (h : IsPlainValue value) :
    Tells (termFilter ctx chain) .primary (Predicate.ofReason value).describe
      (.atom (.ofReason value)) := by
  have hname : IsPlainValue (String.ofList (value.toList.map reasonChar)) := by
    refine ⟨by simpa using h.1, fun c hc => ?_⟩
    rw [String.toList_ofList] at hc
    obtain ⟨d, hd, rfl⟩ := List.mem_map.1 hc
    exact (h.2 d hd).reasonChar
  have hsame : Predicate.ofReason (String.ofList (value.toList.map reasonChar)) =
      .ofReason value := by
    have htwice : reasonChar ∘ reasonChar = reasonChar := funext reasonChar_reasonChar
    rw [ofReason_of_isPlainValue hname, ofReason_of_isPlainValue h, String.toList_ofList,
      List.map_map, htwice]
  rw [ofReason_of_isPlainValue h] at hsame ⊢
  refine tells_of_field "reason" _ (by decide) hname ?_
  rw [fieldPredicate, if_neg hname.1, ← hsame]
  rfl

theorem toString_natCast (n : Nat) : toString (n : Int) = String.ofList (Decimal.digitsOf n) :=
  Nat.toString_eq_ofList_toDigits

theorem split_digitsOf {n : Nat} :
    Comparison.split (Decimal.digitsOf n) = (.exactly, Decimal.digitsOf n) := by
  have hfirst (c : Char) (rest : List Char) (heq : Decimal.digitsOf n = c :: rest) :
      c.isDigit = true := Decimal.isDigit_of_mem_digitsOf (heq ▸ List.mem_cons_self)
  unfold Comparison.split
  split
  case h_5 => rfl
  all_goals
    rename_i heq
    exact absurd (hfirst _ _ heq) (by decide)

/-- A number after a comparison is read as the range of the scores that compare so. -/
theorem scoreRange?_digitsOf {n : Nat} (h : n ≤ 100) {value : String} {comparison : Comparison}
    (hsplit : Comparison.split value.toList = (comparison, Decimal.digitsOf n)) :
    scoreRange? value = some (comparison.range n) := by
  have htrim : trim (String.ofList (Decimal.digitsOf n)) = String.ofList (Decimal.digitsOf n) := by
    refine trim_of_plain fun c hc => Calendar.not_isBlank_of_isDigit ?_
    rw [String.toList_ofList] at hc
    exact Decimal.isDigit_of_mem_digitsOf hc
  have hbounds : (0 : Int) ≤ n ∧ (n : Int) ≤ 100 := by omega
  rw [scoreRange?, hsplit]
  simp only
  rw [htrim, Decimal.readIntWithin?, Decimal.readInt?_of_isDigit (Decimal.digitsOf_ne_nil n)
    fun c => Decimal.isDigit_of_mem_digitsOf]
  simp [hbounds]

theorem tells_score {n : Nat} (h : n ≤ 100) (sign : String) (comparison : Comparison)
    (hsign : IsValueText sign)
    (hsplit : Comparison.split (sign.toList ++ Decimal.digitsOf n) =
      (comparison, Decimal.digitsOf n)) :
    Tells (termFilter ctx chain) .primary ("score:" ++ (sign ++ toString (n : Int)))
      (.atom (.score (comparison.range n))) := by
  have hlist : (sign ++ toString (n : Int)).toList = sign.toList ++ Decimal.digitsOf n := by
    rw [String.toList_append, toString_natCast, String.toList_ofList]
  have hvalue : IsPlainValue (sign ++ toString (n : Int)) := by
    refine ⟨fun hnil => ?_, fun c hc => ?_⟩
    · rw [hnil] at hlist
      exact Decimal.digitsOf_ne_nil n (List.append_eq_nil_iff.1 hlist.symm).2
    · rw [hlist] at hc
      rcases List.mem_append.1 hc with hc | hc
      · exact hsign c hc
      · exact isValueChar_of_isDigit (Decimal.isDigit_of_mem_digitsOf hc)
  refine tells_of_field "score" _ (by decide) hvalue ?_
  have hkey : Key.ofText "score" = .score := rfl
  have hrange := scoreRange?_digitsOf h ((congrArg Comparison.split hlist).trans hsplit)
  rw [fieldPredicate, if_neg hvalue.1]
  simp only [hkey, hrange]

theorem tells_text (h : IsPlainWord word) :
    Tells (termFilter ctx chain) .primary (Predicate.ofText word).describe
      (.atom (.ofText word)) := by
  have hlower := h.asciiLower
  have hquote : '"' ∉ (asciiLower word).toList := fun hmem => (hlower.chars _ hmem).2.2.1 rfl
  have hname : reference? (asciiLower word) = none := by
    unfold reference?
    split
    · rename_i name heq
      exact absurd (by rw [heq]; rfl) hlower.unnamed
    · rfl
  refine ⟨[.term (.word (asciiLower word))], ?_, .term ?_⟩
  · rw [Predicate.ofText, Predicate.describe, h.lowercase_eq,
      toList_quote hlower.chars]
    exact .word hquote
  · rw [termFilter, filterOfTerm, hname]
    simp only [if_neg hlower.nonempty, ofText_asciiLower h]

/-- A condition that can be told is told by its text. -/
theorem tells_of_tellable (h : p.Tellable) :
    Tells (termFilter ctx chain) .primary p.describe (.atom p) := by
  cases h with
  | unread value => exact tells_unread value
  | type h => exact tells_type h
  | reason h => exact tells_reason h
  | repository h hp => exact tells_repository h hp
  | organization h hp => exact tells_organization h hp
  | atLeast h => exact tells_score h ">=" .atLeast (by decide) rfl
  | atMost h => exact tells_score h "<=" .atMost (by decide) rfl
  | @exactly n h =>
      have htext : Predicate.describe (.score ⟨some n, some n⟩) =
          "score:" ++ ("" ++ toString (n : Int)) := by
        simp [Predicate.describe, ScoreRange.describe]
      rw [htext]
      exact tells_score h "" .exactly (by decide) split_digitsOf
  | text h => exact tells_text h

end conditions

/-! ### Filters -/

section filters

variable {leaf : Term → Except Error Filter} {text : String} {f : Filter} {members : List Filter}

/-- Members that are joined one after the other to what a text says already. -/
theorem tells_all (h : Tells leaf .conjunction text f)
    (hmembers : ∀ m ∈ members, Tells leaf .negation (Filter.describe m) m) :
    Tells leaf .conjunction
      (String.intercalate " AND " (text :: Formula.describeEach Predicate.describe members))
      (.all (f :: members)) := by
  induction members generalizing text f with
  | nil => exact h.of_holds fun test => by simp [Formula.holds, Formula.holdsAll]
  | cons m rest ih =>
      -- the text so far and the next member make one text, and that goes on with the rest
      obtain ⟨hm, hrest⟩ := List.forall_mem_cons.1 hmembers
      refine (ih (h.and hm) hrest).of_holds fun test => ?_
      simp [Formula.holds, Formula.holdsAll, Bool.and_assoc]

theorem tells_any (h : Tells leaf .disjunction text f)
    (hmembers : ∀ m ∈ members, Tells leaf .negation (Filter.describe m) m) :
    Tells leaf .disjunction
      (String.intercalate " OR " (text :: Formula.describeEach Predicate.describe members))
      (.any (f :: members)) := by
  induction members generalizing text f with
  | nil => exact h.of_holds fun test => by simp [Formula.holds, Formula.holdsAny]
  | cons m rest ih =>
      obtain ⟨hm, hrest⟩ := List.forall_mem_cons.1 hmembers
      refine (ih (h.or (hm.lift (by decide))) hrest).of_holds fun test => ?_
      simp [Formula.holds, Formula.holdsAny, Bool.or_assoc]

/-- A conjunction is told by its text if its members are by theirs: it is in parentheses, or it has
one member and says what that says. -/
theorem tells_describe_all (hne : members ≠ [])
    (h : ∀ m ∈ members, Tells leaf .negation (Filter.describe m) m) :
    Tells leaf .negation (Filter.describe (.all members)) (.all members) := by
  obtain ⟨m, rest, rfl⟩ := List.exists_cons_of_ne_nil hne
  obtain ⟨hm, hrest⟩ := List.forall_mem_cons.1 h
  cases rest with
  | nil => exact hm.of_holds fun test => by simp [Formula.holds, Formula.holdsAll]
  | cons m' rest =>
      have hjoined := tells_all (hm.lift (by decide)) hrest
      exact (hjoined.lift (by decide)).group.lift (by decide)

theorem tells_describe_any (hne : members ≠ [])
    (h : ∀ m ∈ members, Tells leaf .negation (Filter.describe m) m) :
    Tells leaf .negation (Filter.describe (.any members)) (.any members) := by
  obtain ⟨m, rest, rfl⟩ := List.exists_cons_of_ne_nil hne
  obtain ⟨hm, hrest⟩ := List.forall_mem_cons.1 h
  cases rest with
  | nil => exact hm.of_holds fun test => by simp [Formula.holds, Formula.holdsAny]
  | cons m' rest =>
      have hjoined := tells_any (hm.lift (by decide)) hrest
      exact hjoined.group.lift (by decide)

theorem tells_describe {ctx : Context} {chain : List String} (h : f.Tellable) :
    Tells (termFilter ctx chain) .negation f.describe f := by
  induction h with
  | atom h => exact (tells_of_tellable h).lift (by decide)
  | all hne _ ih => exact tells_describe_all hne ih
  | any hne _ ih => exact tells_describe_any hne ih
  | not _ ih => exact ih.not

end filters

/-- **The text of a filter is a query for it.**  The text of a filter that can be told is read, and
what is read accepts the same notifications. -/
theorem filterOf_describe (ctx : Context) (f : Filter) (h : f.Tellable) :
    ∃ f', filterOf ctx f.describe = .ok f' ∧
      ∀ score n, f'.accepts score n = f.accepts score n :=
  ((tells_describe h).lift (by decide)).exists_filter

/-- A node with one member shows no parentheses, and a word is shown in lower case. -/
theorem filterOf_describe_nested :
    let f : Filter := .all [.any [.atom (.ofType "pr"), .not (.all [.atom (.unread true)])],
      .not (.any [.atom (.ofText "Build (1)"), .atom (.score ⟨some 40, some 40⟩)])]
    f.describe = "((type:PullRequest OR NOT is:unread) AND NOT (\"build (1)\" OR score:40))" ∧
      f.Tellable ∧ ∃ f', filterOf ⟨⟨0, 0⟩, none⟩ f.describe = .ok f' ∧
        ∀ score n, f'.accepts score n = f.accepts score n := by
  intro f
  have htype : Predicate.Tellable (.ofType "pr") := .type (by decide)
  have htext : Predicate.Tellable (.ofText "Build (1)") := .text (by decide)
  have hscore : Predicate.Tellable (.score ⟨some 40, some 40⟩) := .exactly (n := 40) (by decide)
  have hunread : Filter.Tellable (.all [.atom (.unread true)]) :=
    .all nofun (by simpa using .atom (.unread true))
  have hleft : Filter.Tellable (.any [.atom (.ofType "pr"), .not (.all [.atom (.unread true)])]) :=
    .any nofun (by simpa using ⟨.atom htype, .not hunread⟩)
  have hright : Filter.Tellable
      (.any [.atom (.ofText "Build (1)"), .atom (.score ⟨some 40, some 40⟩)]) :=
    .any nofun (by simpa using ⟨.atom htext, .atom hscore⟩)
  have hf : f.Tellable := .all nofun (by simpa [f] using ⟨hleft, .not hright⟩)
  exact ⟨by decide +kernel, hf, filterOf_describe _ f hf⟩

end Query

end Triage
