/-
Weights and scores as JSON.

Weights are written one by one in their order, those of single repositories last. When they are
read, weights that are absent have their initial values.
-/
import Triage.Json.Decoding
import Triage.Json.Reading
import Triage.Json.Writing
import Triage.Score.Basic
namespace Triage

namespace Factors

/-- Numbers by name. -/
def numbersToJson (numbers : SortedMap Float) : Json :=
  .obj (numbers.toList.map fun (name, x) => (name, .ofFloat x))

/-- Reads numbers by name; the last one under each name stays. -/
def numbersOfJson (json : Json) : Option (SortedMap Float) :=
  (json.asMembers Json.asFloat).map .ofList

/-- All weights. -/
def toJson (f : Factors) : Json :=
  .obj ((Weight.all.map fun w => (w.name, .ofFloat (f.weight w))) ++
    [(repositoriesName, numbersToJson f.repositories)])

/-- Reads the weights one by one. -/
def readWeights (r : Json.Record) (f : Factors) : List Weight → Option Factors
  | [] => some f
  | w :: rest => do
    let value ← r.optional w.name (initial.weight w) Json.asFloat
    readWeights r (f.put w value) rest

/-- Reads all weights. -/
def ofJson (json : Json) : Option Factors := do
  let r ← json.asRecord (Weight.all.map Weight.name ++ [repositoriesName])
  let f ← readWeights r .initial Weight.all
  let repositories ← r.optional repositoriesName .empty numbersOfJson
  some { f with repositories }

end Factors

namespace Score

/-- A score with its components and weights. -/
def toJson (s : Score) : Json :=
  .obj [("total", .ofNat s.total.toNat), ("components", Factors.numbersToJson s.components),
    ("factors", s.factors.toJson)]

/-- Reads a score. -/
def ofJson (json : Json) : Option Score := do
  let r ← json.asRecord ["total", "components", "factors"]
  let total ← r.required "total" (Json.asNatBelow 256)
  let components ← r.required "components" Factors.numbersOfJson
  let factors ← r.required "factors" Factors.ofJson
  some { total := UInt8.ofNat total, components, factors }

end Score
end Triage
