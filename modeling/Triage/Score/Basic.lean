/-
Relevance scores.

The score of a notification is a weighted sum of six components, scaled to whole numbers from 0 to
100. It falls with age: the share of the age decays exponentially with the days since the last
change, until the oldest age that counts is reached.
-/
import Triage.Score.Factors
namespace Triage

open Triage.Calendar

/-- A score: the total, the weighted components by name, and the weights it was computed with. -/
structure Score where
  total : UInt8
  components : SortedMap Float
  factors : Factors

namespace Score

/-- The share of things that are not measured. -/
def unmeasured : Float := 0.5

/-- Hours since a notification changed; changes in the future count as just now. -/
def ageHours (n : Notification) (now : Instant) : Float :=
  Float.ofInt (max (n.updatedAt.secondsBetween now) 0) / 3600.0

/-- The share of the age. -/
def ageShare (f : Factors) (hours : Float) : Float :=
  let counted := if f.maxAgeHours < hours then f.maxAgeHours else hours
  Float.exp (-f.ageDecay * counted / 24.0)

/-- The weighted components of a notification, by name. -/
def componentsOf (f : Factors) (n : Notification) (now : Instant) : SortedMap Float :=
  .ofList
    [("activity", unmeasured * f.activity),
     ("age", ageShare f (ageHours n now) * f.age),
     ("involvement", unmeasured * f.involvement),
     ("reason", f.reasonShare n.reason * f.reason),
     ("repository", f.repositoryShare n.repo * f.repo),
     ("type", f.typeShare n.subject.type * f.type)]

/-- The whole number from 0 to 100 for a sum of components; what is not a number counts as 0. -/
def totalOf (sum : Float) : UInt8 :=
  let scaled := sum * 100.0
  let clamped := if scaled < 0.0 then 0.0 else if 100.0 < scaled then 100.0 else scaled
  clamped.toUInt8

/-- The score of a notification at a time. Components are summed in the order of their names. -/
def compute (f : Factors) (n : Notification) (now : Instant) : Score :=
  let components := componentsOf f n now
  let sum := components.toList.foldl (fun sum (_, value) => sum + value) 0.0
  { total := totalOf sum, components, factors := f }

end Score
end Triage
