/-
Sets of characters by name.

The Unicode Standard names general categories and groups of them, scripts, and yes-or-no
properties. Names are matched loosely: case, blanks, hyphens, underscores and a leading `is` do
not matter.
-/
import Triage.Text.Ascii
import Triage.Text.CharSet
import Triage.Text.Property.Table
namespace Triage.Text.Property

open CharSet

/-- The letters and digits of a name in lower case, without a leading `is`. The abbreviation `isc`
keeps its first letters, so that it does not become the name of a category. -/
def loose (name : String) : String :=
  let kept := fun (cs : List Char) =>
    (cs.filter fun c => isAscii c && c != ' ' && c != '_' && c != '-').map Char.toLower
  match name.toList with
  | i :: s :: rest =>
    if i.toLower == 'i' && s.toLower == 's' then
      let rest := kept rest
      String.ofList (if rest == ['c'] then ['i', 's', 'c'] else rest)
    else String.ofList (kept (i :: s :: rest))
  | cs => String.ofList (kept cs)

/-- Groups of general categories and the categories themselves, under their loose names. -/
def categoryNames : List (List String × CharSet) :=
  let lc : List Category := [.lu, .ll, .lt]
  let l := lc ++ [.lm, .lo]
  let m : List Category := [.mn, .mc, .me]
  let n : List Category := [.nd, .nl, .no]
  let p : List Category := [.pc, .pd, .ps, .pe, .pi, .pf, .po]
  let s : List Category := [.sm, .sc, .sk, .so]
  let z : List Category := [.zs, .zl, .zp]
  let c : List Category := [.cc, .cf, .cs, .co, .cn]
  [(["any"], everything),
   (["assigned"], compl (category .cn)),
   (["ascii"], ranges [(0, 0x7F)]),
   (["lc", "casedletter"], categories lc),
   (["l", "letter"], categories l),
   (["m", "mark", "combiningmark"], categories m),
   (["n", "number"], categories n),
   (["p", "punctuation", "punct"], categories p),
   (["s", "symbol"], categories s),
   (["z", "separator"], categories z),
   (["c", "other"], categories c),
   (["lu", "uppercaseletter"], category .lu),
   (["ll", "lowercaseletter"], category .ll),
   (["lt", "titlecaseletter"], category .lt),
   (["lm", "modifierletter"], category .lm),
   (["lo", "otherletter"], category .lo),
   (["mn", "nonspacingmark"], category .mn),
   (["mc", "spacingmark"], category .mc),
   (["me", "enclosingmark"], category .me),
   (["nd", "decimalnumber", "digit"], category .nd),
   (["nl", "letternumber"], category .nl),
   (["no", "othernumber"], category .no),
   (["pc", "connectorpunctuation"], category .pc),
   (["pd", "dashpunctuation"], category .pd),
   (["ps", "openpunctuation"], category .ps),
   (["pe", "closepunctuation"], category .pe),
   (["pi", "initialpunctuation"], category .pi),
   (["pf", "finalpunctuation"], category .pf),
   (["po", "otherpunctuation"], category .po),
   (["sm", "mathsymbol"], category .sm),
   (["sc", "currencysymbol"], category .sc),
   (["sk", "modifiersymbol"], category .sk),
   (["so", "othersymbol"], category .so),
   (["zs", "spaceseparator"], category .zs),
   (["zl", "lineseparator"], category .zl),
   (["zp", "paragraphseparator"], category .zp),
   (["cc", "control", "cntrl"], category .cc),
   (["cf", "format"], category .cf),
   (["cs", "surrogate"], category .cs),
   (["co", "privateuse"], category .co),
   (["cn", "unassigned"], category .cn)]

/-- Letters. -/
def letters : CharSet := categories [.lu, .ll, .lt, .lm, .lo]

/-- Combining marks. -/
def marks : CharSet := categories [.mn, .mc, .me]

/-- Letters, letter numbers and the other alphabetic characters. -/
def alphabetic : CharSet :=
  unions [letters, category .nl, ranges (readRanges otherAlphabetic)]

/-- Lower case letters and the other lower case characters. -/
def lowercase : CharSet := union (category .ll) (ranges (readRanges otherLowercase))

/-- Upper case letters and the other upper case characters. -/
def uppercase : CharSet := union (category .lu) (ranges (readRanges otherUppercase))

/-- Characters that may begin an identifier. -/
def identifierStart : CharSet :=
  diff (unions [letters, category .nl, ranges (readRanges otherStart)]) (ranges [(0x2E2F, 0x2E2F)])

/-- Characters that may occur inside an identifier. -/
def identifierContinue : CharSet :=
  unions [identifierStart, category .mn, category .mc, category .nd, category .pc,
    ranges (readRanges otherContinue)]

/-- Characters that merge with the one before them. -/
def attaching : CharSet :=
  unions [category .mn, category .me, ranges (readRanges otherAttaching)]

/-- The ranges of a listed property. -/
def listedRanges (name : String) : CharSet :=
  match listed.find? fun (names, _) => (names.splitOn "/").contains name with
  | some (_, table) => ranges (readRanges table)
  | none => nothing

/-- White space. -/
def whiteSpace : CharSet := listedRanges "White_Space"

/-- The two characters that control joining. -/
def joinControl : CharSet := listedRanges "Join_Control"

/-- Decimal digits. -/
def decimalDigits : CharSet := category .nd

/-- Characters of words: alphabetic characters, marks, digits, connectors and joiners. -/
def wordChars : CharSet :=
  unions [alphabetic, marks, decimalDigits, category .pc, joinControl]

/-- Yes-or-no properties under their loose names. -/
def binaryNames : List (List String × CharSet) :=
  [(["alphabetic", "alpha"], alphabetic),
   (["lowercase", "lower"], lowercase),
   (["uppercase", "upper"], uppercase),
   (["cased"], unions [lowercase, uppercase, category .lt]),
   (["math"], union (category .sm) (ranges (readRanges otherMath))),
   (["idstart", "ids"], identifierStart),
   (["idcontinue", "idc"], identifierContinue),
   (["xidstart", "xids"], diff identifierStart (ranges (readRanges unstableStart))),
   (["xidcontinue", "xidc"], diff identifierContinue (ranges (readRanges unstableContinue))),
   (["graphemeextend", "grext"], attaching),
   (["graphemebase", "grbase"],
    compl (unions [categories [.cc, .cf, .cs, .co, .cn, .zl, .zp], attaching]))] ++
  listed.map fun (names, table) =>
    ((names.splitOn "/").map loose, ranges (readRanges table))

/-- The set with a loose name in a table of sets. -/
def lookup (table : List (List String × CharSet)) (name : String) : Option CharSet :=
  (table.find? fun (names, _) => names.contains name).map (·.2)

/-- Scripts under their loose names. -/
def script? (make : String → CharSet) (name : String) : Option CharSet :=
  (Script.named.find? fun (_, names) => names.any fun n => loose n == name).map fun (code, _) =>
    make code

/-- The set that a name stands for: a yes-or-no property, a general category, or a script. Three
abbreviations that would fit several of them stand for categories. -/
def ofName? (name : String) : Option CharSet :=
  let name := loose name
  let binary := if ["cf", "sc", "lc"].contains name then none else lookup binaryNames name
  match binary with
  | some set => some set
  | none =>
    match lookup categoryNames name with
    | some set => some set
    | none => script? CharSet.script name

/-- The set of the characters for which a property has a value. -/
def ofValue? (property value : String) : Option CharSet :=
  let value := loose value
  match loose property with
  | "gc" | "generalcategory" => lookup categoryNames value
  | "sc" | "script" => script? CharSet.script value
  | "scx" | "scriptextensions" => script? CharSet.usedWith value
  | _ => none

end Triage.Text.Property
