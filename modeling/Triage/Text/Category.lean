/-
General categories.

Every code point has one general category: a kind of letter, mark, number, punctuation, symbol,
separator or other. The constructors carry the two-letter codes of the Unicode Standard.
-/
import Triage.Text.Runs
import Triage.Text.Category.Table
namespace Triage.Text

/-- The general category of a code point, under its two-letter code. -/
inductive Category
  | lu | ll | lt | lm | lo
  | mn | mc | me
  | nd | nl | no
  | pc | pd | ps | pe | pi | pf | po
  | sm | sc | sk | so
  | zs | zl | zp
  | cc | cf | cs | co | cn
  deriving Repr, DecidableEq, Inhabited

namespace Category

/-- The two-letter codes, with the categories they stand for. -/
def codes : List (String × Category) :=
  [("Lu", lu), ("Ll", ll), ("Lt", lt), ("Lm", lm), ("Lo", lo), ("Mn", mn), ("Mc", mc), ("Me", me),
   ("Nd", nd), ("Nl", nl), ("No", no), ("Pc", pc), ("Pd", pd), ("Ps", ps), ("Pe", pe), ("Pi", pi),
   ("Pf", pf), ("Po", po), ("Sm", sm), ("Sc", sc), ("Sk", sk), ("So", so), ("Zs", zs), ("Zl", zl),
   ("Zp", zp), ("Cc", cc), ("Cf", cf), ("Cs", cs), ("Co", co), ("Cn", cn)]

/-- What holds on one run of the table. -/
inductive Kind
  | constant (category : Category)
  | alternating (upperAtEven : Bool)
  deriving Inhabited

/-- Reads the code at the end of a table entry. -/
def Kind.decode (code : List Char) : Kind :=
  match String.ofList code with
  | "Ul" => .alternating true
  | "Lx" => .alternating false
  | other => .constant ((codes.lookup other).getD cn)

/-- The categories of all code points. -/
def table : Runs Kind := Runs.read 2 Kind.decode runs

/-- The general category of a code point. -/
def ofCode (n : Nat) : Category :=
  match table.get? n with
  | some (.constant category) => category
  | some (.alternating upperAtEven) => if (n % 2 == 0) == upperAtEven then lu else ll
  | none => cn

/-- The general category of a character. -/
def ofChar (c : Char) : Category := ofCode c.toNat

/-- Letters of any kind. -/
def isLetter : Category → Bool
  | lu | ll | lt | lm | lo => true
  | _ => false

/-- Combining marks of any kind. -/
def isMark : Category → Bool
  | mn | mc | me => true
  | _ => false

/-- Categories whose characters leave no mark of their own on paper. -/
def isInvisible : Category → Bool
  | cc | cf | cs | co | cn | zl | zp | zs => true
  | _ => false

end Category
end Triage.Text
