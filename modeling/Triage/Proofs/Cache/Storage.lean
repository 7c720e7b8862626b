/-
Tables and partitions of one bucket.

Tables are seen through `table?` and partitions through `partition?`, with one equation
for each operation.  A bucket of partitions is in a generation when that generation is
recorded and is the only one that has a partition; opening the bucket again keeps it
there, and emptying the bucket moves it on to a partition that is new.
-/
import Triage.Cache.Storage
import Triage.Proofs.MessagePack
import Triage.Proofs.SortedMap

namespace Triage.Cache.Storage

open Triage.MessagePack

variable {s : Storage} {bucket : String}

/-! ### Tables -/

theorem table?_putTable (s : Storage) (bucket : String) (table : Table) :
    (s.putTable bucket table).table? bucket = some table := by
  rw [table?, putTable, SortedMap.get?_insert, if_pos rfl]

theorem table?_ensureTable (s : Storage) (bucket : String) :
    (s.ensureTable bucket).table? bucket = some ((s.table? bucket).getD .empty) := by
  unfold ensureTable
  cases htable : s.table? bucket with
  | none => exact table?_putTable s bucket .empty
  | some table => exact htable

theorem table?_updateTable? {table : Table} (h : s.table? bucket = some table)
    (f : Table → Table) :
    ∃ s', s.updateTable? bucket f = some s' ∧ s'.table? bucket = some (f table) := by
  refine ⟨s.putTable bucket (f table), ?_, table?_putTable s bucket (f table)⟩
  rw [updateTable?, h, Option.map_some]

/-! ### Partitions -/

theorem partition?_putPartition (s : Storage) (name other : String) (partition : Partition) :
    (s.putPartition name partition).partition? other =
      if other = name then some partition else s.partition? other :=
  SortedMap.get?_insert s.partitions name other partition

theorem partition?_ensurePartition (s : Storage) (name other : String) :
    (s.ensurePartition name).partition? other =
      if other = name then some ((s.partition? name).getD .empty) else s.partition? other := by
  unfold ensurePartition
  cases hname : s.partition? name with
  | none => exact partition?_putPartition s name other .empty
  | some partition =>
      rw [if_pos Option.isSome_some, Option.getD_some]
      by_cases hother : other = name
      · rw [if_pos hother, hother, hname]
      · rw [if_neg hother]

theorem partition?_dropPartition (s : Storage) (name other : String) :
    (s.dropPartition name).partition? other =
      if other = name then none else s.partition? other :=
  SortedMap.get?_erase s.partitions name other

/-! ### Names of partitions -/

theorem toString_nat_inj {m n : Nat} (h : toString m = toString n) : m = n := by
  rw [Nat.toString_eq_ofList_toDigits, Nat.toString_eq_ofList_toDigits, String.ofList_inj] at h
  have hdigits := congrArg (Nat.ofDigitChars 10 · 0) h
  simpa only [Nat.ofDigitChars_ten_toDigits] using hdigits

theorem ne_append {text : String} (hne : text ≠ "") (bucket : String) : bucket ≠ bucket ++ text := by
  intro h
  have hlength := congrArg String.length h
  rw [String.length_append] at hlength
  exact hne (String.length_eq_zero_iff.1 (by omega))

/-- Every generation has a name of its own. -/
theorem partitionName_inj {m n : Nat} (h : partitionName bucket m = partitionName bucket n) :
    m = n := by
  unfold partitionName at h
  split at h
  · split at h
    · omega
    · rw [String.append_assoc] at h
      exact absurd h (ne_append (by simp) bucket)
  · split at h
    · rw [String.append_assoc] at h
      exact absurd h.symm (ne_append (by simp) bucket)
    · exact toString_nat_inj ((String.append_right_inj _).1 h)

theorem partitionName_ne_metaName (bucket : String) (n : Nat) :
    partitionName bucket n ≠ metaName bucket := by
  unfold partitionName metaName
  split
  · exact ne_append (by simp) bucket
  · intro h
    rw [String.append_assoc, String.append_right_inj] at h
    have hlist := congrArg String.toList h
    rw [String.toList_append] at hlist
    exact absurd (List.cons.inj hlist).1 (by decide)

/-! ### Generations -/

/-- Whether a bucket is in a generation with some entries: the generation is recorded, and no other
one has a partition. -/
structure InGeneration (s : Storage) (bucket : String) (number : Nat) (entries : Partition) :
    Prop where
  small : number < UInt64.size
  recorded : s.generation bucket = number
  live : s.partition? (partitionName bucket number) = some entries
  alone : ∀ n < UInt64.size, n ≠ number → s.partition? (partitionName bucket n) = none

theorem generation_congr {s s' : Storage}
    (h : (s'.partition? (metaName bucket)).bind (·.get? generationKey) =
      (s.partition? (metaName bucket)).bind (·.get? generationKey)) :
    s'.generation bucket = s.generation bucket := by
  rw [generation, generation, h]

/-- Making sure of the partition that tells the generation does not change what it tells. -/
theorem generation_ensurePartition_metaName (s : Storage) (bucket : String) :
    (s.ensurePartition (metaName bucket)).generation bucket = s.generation bucket := by
  refine generation_congr ?_
  rw [partition?_ensurePartition, if_pos rfl]
  cases s.partition? (metaName bucket) with
  | none => rfl
  | some info => rfl

/-- Changing the entries of a bucket keeps its generation. -/
theorem InGeneration.update {number : Nat} {entries : Partition}
    (h : s.InGeneration bucket number entries) (f : Partition → Partition) :
    ∃ s', s.updatePartition? (partitionName bucket number) f = some s' ∧
      s'.InGeneration bucket number (f entries) := by
  refine ⟨s.putPartition (partitionName bucket number) (f entries), ?_, h.small, ?_, ?_, ?_⟩
  · rw [updatePartition?, h.live, Option.map_some]
  · refine (generation_congr ?_).trans h.recorded
    rw [partition?_putPartition, if_neg (partitionName_ne_metaName bucket number).symm]
  · rw [partition?_putPartition, if_pos rfl]
  · intro n hn hne
    rw [partition?_putPartition, if_neg fun heq => hne (partitionName_inj heq)]
    exact h.alone n hn hne

/-- Dropping the partition of another generation changes nothing. -/
theorem InGeneration.dropPartition {number other : Nat} {entries : Partition}
    (h : s.InGeneration bucket number entries) (hne : number ≠ other) :
    (s.dropPartition (partitionName bucket other)).InGeneration bucket number entries := by
  refine ⟨h.small, ?_, ?_, fun n hn hnumber => ?_⟩
  · refine (generation_congr ?_).trans h.recorded
    rw [partition?_dropPartition, if_neg (partitionName_ne_metaName bucket other).symm]
  · rw [partition?_dropPartition, if_neg fun heq => hne (partitionName_inj heq), h.live]
  · rw [partition?_dropPartition, h.alone n hn hnumber, ite_self]

/-- Opening a bucket takes over the entries of the generation that is recorded, if there are no
others. -/
theorem inGeneration_openPartitions {number : Nat} (hsmall : number < UInt64.size)
    (hrecorded : s.generation bucket = number)
    (halone : ∀ n < UInt64.size, n ≠ number → s.partition? (partitionName bucket n) = none) :
    (s.openPartitions bucket).2 = number ∧
      (s.openPartitions bucket).1.InGeneration bucket number
        ((s.partition? (partitionName bucket number)).getD .empty) := by
  have hmeta := generation_ensurePartition_metaName s bucket
  have hkept : ∀ n, (s.ensurePartition (metaName bucket)).partition? (partitionName bucket n) =
      s.partition? (partitionName bucket n) := by
    intro n
    rw [partition?_ensurePartition, if_neg (partitionName_ne_metaName bucket n)]
  unfold openPartitions
  generalize s.ensurePartition (metaName bucket) = s₁ at hmeta hkept
  rw [hrecorded] at hmeta
  have hopen : (s₁.ensurePartition (partitionName bucket number)).InGeneration bucket number
      ((s.partition? (partitionName bucket number)).getD .empty) := by
    refine ⟨hsmall, (generation_congr ?_).trans hmeta, ?_, fun n hn hne => ?_⟩
    · rw [partition?_ensurePartition, if_neg (partitionName_ne_metaName bucket number).symm]
    · rw [partition?_ensurePartition, if_pos rfl, hkept]
    · rw [partition?_ensurePartition, if_neg fun heq => hne (partitionName_inj heq), hkept,
        halone n hn hne]
  simp only [hmeta]
  refine ⟨trivial, ?_⟩
  split
  · exact hopen
  · exact hopen.dropPartition (by omega)

/-- A generation is read off the bytes that were recorded for it. -/
theorem generation_of_recorded {number : Nat} {info : Partition} (hsmall : number < UInt64.size)
    (hmeta : s.partition? (metaName bucket) =
      some (info.insert generationKey (bigEndian 8 number))) :
    s.generation bucket = number := by
  rw [generation, hmeta, Option.bind_some, SortedMap.get?_insert, if_pos rfl]
  simp only [length_bigEndian, if_pos]
  exact natOf_bigEndian hsmall

/-- Emptying a bucket moves it on to a new generation without entries. -/
theorem InGeneration.nextGeneration {number : Nat} {entries : Partition}
    (h : s.InGeneration bucket number entries) :
    (s.nextGeneration bucket number).1.InGeneration bucket (s.nextGeneration bucket number).2
      .empty := by
  have hsmall : (number + 1) % UInt64.size < UInt64.size := Nat.mod_lt _ (by decide)
  have hnew : (number + 1) % UInt64.size ≠ number := by
    have := h.small
    rw [UInt64.size] at this ⊢
    omega
  unfold Storage.nextGeneration
  simp only
  generalize (number + 1) % UInt64.size = next at hsmall hnew
  refine ⟨hsmall, ?_, ?_, fun n hn hne => ?_⟩
  · apply generation_of_recorded hsmall
    rw [partition?_dropPartition, if_neg (partitionName_ne_metaName bucket number).symm,
      partition?_putPartition, if_pos rfl]
  · rw [partition?_dropPartition, if_neg fun heq => hnew (partitionName_inj heq),
      partition?_putPartition, if_neg (partitionName_ne_metaName bucket next),
      partition?_ensurePartition, if_pos rfl, h.alone next hsmall hnew]
    rfl
  · rw [partition?_dropPartition, partition?_putPartition,
      if_neg (partitionName_ne_metaName bucket n), partition?_ensurePartition,
      if_neg fun heq => hne (partitionName_inj heq)]
    by_cases hold : n = number
    · rw [if_pos (by rw [hold])]
    · rw [h.alone n hn hold, ite_self]

end Triage.Cache.Storage
