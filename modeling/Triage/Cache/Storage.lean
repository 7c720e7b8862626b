/-
What a directory of caches holds.

One kind of store keeps tables of rows. A row holds an envelope as bytes and a copy of its expiry,
so that expired rows can be swept without looking into the envelopes. Names of tables do not depend
on ASCII case.

The other kind keeps partitions of plain bytes, named exactly. Each bucket has a partition for its
entries in each generation and one that tells the current generation; emptying a bucket starts a
new generation and drops the old one.
-/
import Triage.Cache.Envelope
import Triage.SortedMap
import Triage.Text.Ascii
namespace Triage.Cache

open Triage.MessagePack Triage.Text

/-- A row of a table. -/
structure Row where
  blob : Bytes
  expiresAt : Option Int
  deriving Repr, DecidableEq

/-- A table by its keys. -/
abbrev Table := SortedMap Row

/-- A partition by its keys. -/
abbrev Partition := SortedMap Bytes

/-- All tables and partitions of a directory. -/
structure Storage where
  tables : SortedMap Table := .empty
  partitions : SortedMap Partition := .empty

namespace Storage

instance : Inhabited Storage := ⟨{}⟩

/-! ### Tables -/

/-- The table of a bucket. -/
def table? (s : Storage) (bucket : String) : Option Table := s.tables.get? (asciiLower bucket)

/-- Puts a table in the place of the one that a bucket has. -/
def putTable (s : Storage) (bucket : String) (table : Table) : Storage :=
  { s with tables := s.tables.insert (asciiLower bucket) table }

/-- Makes an empty table for a bucket that has none. -/
def ensureTable (s : Storage) (bucket : String) : Storage :=
  if (s.table? bucket).isSome then s else s.putTable bucket .empty

/-- Drops the table of a bucket. -/
def dropTable (s : Storage) (bucket : String) : Storage :=
  { s with tables := s.tables.erase (asciiLower bucket) }

/-- Changes the table of a bucket, if there is one. -/
def updateTable? (s : Storage) (bucket : String) (f : Table → Table) : Option Storage :=
  (s.table? bucket).map fun table => s.putTable bucket (f table)

/-- Names that start so are kept for the store's own tables. -/
def reservedStart : List Char := "sqlite_".toList

/-- Whether there can be a table of this name: it must not be kept for the store itself, and quotes
in it come in pairs. -/
def isTableName (bucket : String) : Bool :=
  !reservedStart.isPrefixOf (asciiLower bucket).toList &&
    (bucket.toList.splitBy fun a b => (a == '"') == (b == '"')).all fun run =>
      run.head? != some '"' || run.length % 2 == 0

/-! ### Partitions -/

/-- The name of the partition that tells the generation of a bucket. -/
def metaName (bucket : String) : String := bucket ++ "$meta"

/-- The name of the partition for a bucket's entries in a generation. -/
def partitionName (bucket : String) (generation : Nat) : String :=
  if generation = 0 then bucket else bucket ++ "#" ++ toString generation

/-- The key under which the generation is kept. -/
def generationKey : String := "generation"

/-- The partition with a name. -/
def partition? (s : Storage) (name : String) : Option Partition := s.partitions.get? name

/-- Puts a partition in the place of the one with its name. -/
def putPartition (s : Storage) (name : String) (partition : Partition) : Storage :=
  { s with partitions := s.partitions.insert name partition }

/-- Makes an empty partition where there is none of this name. -/
def ensurePartition (s : Storage) (name : String) : Storage :=
  if (s.partition? name).isSome then s else s.putPartition name .empty

/-- Drops a partition. -/
def dropPartition (s : Storage) (name : String) : Storage :=
  { s with partitions := s.partitions.erase name }

/-- Changes a partition, if there is one of this name. -/
def updatePartition? (s : Storage) (name : String) (f : Partition → Partition) : Option Storage :=
  (s.partition? name).map fun partition => s.putPartition name (f partition)

/-- The current generation of a bucket: eight bytes, or the first one. -/
def generation (s : Storage) (bucket : String) : Nat :=
  match (s.partition? (metaName bucket)).bind (·.get? generationKey) with
  | some bytes => if bytes.length = 8 then natOf bytes else 0
  | none => 0

/-- Opens the partitions of a bucket. What is left of the generation before is dropped. -/
def openPartitions (s : Storage) (bucket : String) : Storage × Nat :=
  let s := s.ensurePartition (metaName bucket)
  let number := s.generation bucket
  let s := s.ensurePartition (partitionName bucket number)
  (if number = 0 then s else s.dropPartition (partitionName bucket (number - 1)), number)

/-- Starts the generation after a given one. Their numbers are words of 64 bits, and the first one
comes after the last. -/
def nextGeneration (s : Storage) (bucket : String) (number : Nat) : Storage × Nat :=
  let next := (number + 1) % UInt64.size
  let s := s.ensurePartition (partitionName bucket next)
  let info := (s.partition? (metaName bucket)).getD .empty
  let s := s.putPartition (metaName bucket) (info.insert generationKey (bigEndian 8 next))
  (s.dropPartition (partitionName bucket number), next)

end Storage
end Triage.Cache
