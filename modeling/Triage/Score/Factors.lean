/-
Weights of the relevance score.

Twenty-one weights have names; each is a slot of its own that can be read and set by its name.
Besides them single repositories may have weights. A weight may be any finite number, and nothing
asks that weights sum to one.

The names are listed three times: as those that there are, with the slot that each of them reads,
and with the slot that it sets. Where all weights are written or read in one go they go by their
slots, each under the name that it has there.
-/
import Triage.Error
import Triage.Notification
import Triage.SortedMap
namespace Triage

/-- All weights: a number for each name, and numbers for single repositories. -/
structure Factors where
  age : Float
  activity : Float
  involvement : Float
  type : Float
  reason : Float
  repo : Float
  ageDecay : Float
  maxAgeHours : Float
  pullRequest : Float
  issue : Float
  release : Float
  discussion : Float
  commit : Float
  assignee : Float
  author : Float
  mention : Float
  teamMention : Float
  review : Float
  comment : Float
  stateChange : Float
  subscribed : Float
  repositories : SortedMap Float

namespace Factors

/-- The weights that hold if nothing is set. -/
def initial : Factors where
  age := 0.25
  activity := 0.15
  involvement := 0.20
  type := 0.15
  reason := 0.15
  repo := 0.10
  ageDecay := 0.1
  maxAgeHours := 720.0
  pullRequest := 0.8
  issue := 0.6
  release := 0.7
  discussion := 0.5
  commit := 0.4
  assignee := 0.9
  author := 0.7
  mention := 0.8
  teamMention := 0.6
  review := 0.9
  comment := 0.6
  stateChange := 0.5
  subscribed := 0.3
  repositories := .empty

instance : Inhabited Factors := ⟨initial⟩

/-! ### Weights by name -/

/-- The names of the weights. -/
def names : List String :=
  ["age_weight", "activity_weight", "involvement_weight", "type_weight", "reason_weight",
   "repo_weight", "age_decay", "max_age_hours", "pr_weight", "issue_weight", "release_weight",
   "discussion_weight", "commit_weight", "assignee_weight", "author_weight", "mention_weight",
   "team_mention_weight", "review_weight", "comment_weight", "state_change_weight",
   "subscribed_weight"]

/-- The value of the weight with this name. -/
def get? (f : Factors) : String → Option Float
  | "age_weight" => some f.age
  | "activity_weight" => some f.activity
  | "involvement_weight" => some f.involvement
  | "type_weight" => some f.type
  | "reason_weight" => some f.reason
  | "repo_weight" => some f.repo
  | "age_decay" => some f.ageDecay
  | "max_age_hours" => some f.maxAgeHours
  | "pr_weight" => some f.pullRequest
  | "issue_weight" => some f.issue
  | "release_weight" => some f.release
  | "discussion_weight" => some f.discussion
  | "commit_weight" => some f.commit
  | "assignee_weight" => some f.assignee
  | "author_weight" => some f.author
  | "mention_weight" => some f.mention
  | "team_mention_weight" => some f.teamMention
  | "review_weight" => some f.review
  | "comment_weight" => some f.comment
  | "state_change_weight" => some f.stateChange
  | "subscribed_weight" => some f.subscribed
  | _ => none

/-- The weights with the one of this name replaced, if there is one. -/
def replace? (f : Factors) (name : String) (value : Float) : Option Factors :=
  match name with
  | "age_weight" => some { f with age := value }
  | "activity_weight" => some { f with activity := value }
  | "involvement_weight" => some { f with involvement := value }
  | "type_weight" => some { f with type := value }
  | "reason_weight" => some { f with reason := value }
  | "repo_weight" => some { f with repo := value }
  | "age_decay" => some { f with ageDecay := value }
  | "max_age_hours" => some { f with maxAgeHours := value }
  | "pr_weight" => some { f with pullRequest := value }
  | "issue_weight" => some { f with issue := value }
  | "release_weight" => some { f with release := value }
  | "discussion_weight" => some { f with discussion := value }
  | "commit_weight" => some { f with commit := value }
  | "assignee_weight" => some { f with assignee := value }
  | "author_weight" => some { f with author := value }
  | "mention_weight" => some { f with mention := value }
  | "team_mention_weight" => some { f with teamMention := value }
  | "review_weight" => some { f with review := value }
  | "comment_weight" => some { f with comment := value }
  | "state_change_weight" => some { f with stateChange := value }
  | "subscribed_weight" => some { f with subscribed := value }
  | _ => none

/-- Sets the weight with this name to a finite number. -/
def set (f : Factors) (name : String) (value : Float) : Except ConfigFault Factors :=
  if !value.isFinite then .error (.infiniteWeight name value)
  else
    match f.replace? name value with
    | some replaced => .ok replaced
    | none => .error (.unknownWeight name)

/-- Sets the weight of one repository. -/
def putRepository (f : Factors) (repository : String) (value : Float) : Factors :=
  { f with repositories := f.repositories.insert repository value }

/-- Checks that all weights are finite; the named ones come first. -/
def validate (f : Factors) : Except ConfigFault Unit :=
  match names.find? fun name => (f.get? name).any fun value => !value.isFinite with
  | some name => .error (.invalidWeight name)
  | none =>
    match f.repositories.toList.find? fun (_, value) => !value.isFinite with
    | some (repository, _) => .error (.invalidRepositoryWeight repository)
    | none => .ok ()

/-! ### Shares -/

/-- The share of things that no weight is set for. -/
def neutral : Float := 0.5

/-- The share of a notification's kind. -/
def typeShare (f : Factors) : SubjectType → Float
  | .pullRequest => f.pullRequest
  | .issue => f.issue
  | .release => f.release
  | .discussion => f.discussion
  | .commit => f.commit
  | _ => neutral

/-- The share of a notification's reason. -/
def reasonShare (f : Factors) : Reason → Float
  | .assign => f.assignee
  | .author => f.author
  | .mention => f.mention
  | .teamMention => f.teamMention
  | .reviewRequested => f.review
  | .comment => f.comment
  | .stateChange => f.stateChange
  | .subscribed => f.subscribed
  | _ => neutral

/-- The share of a notification's repository. -/
def repositoryShare (f : Factors) (fullName : String) : Float :=
  (f.repositories.get? fullName).getD neutral

end Factors

/-! ### Weights in their order -/

/-- The slots of the named weights. -/
inductive Weight
  | age
  | activity
  | involvement
  | type
  | reason
  | repo
  | ageDecay
  | maxAgeHours
  | pullRequest
  | issue
  | release
  | discussion
  | commit
  | assignee
  | author
  | mention
  | teamMention
  | review
  | comment
  | stateChange
  | subscribed
  deriving Repr, DecidableEq

namespace Weight

/-- The name under which a weight is written. -/
def name : Weight → String
  | age => "age_weight"
  | activity => "activity_weight"
  | involvement => "involvement_weight"
  | type => "type_weight"
  | reason => "reason_weight"
  | repo => "repo_weight"
  | ageDecay => "age_decay"
  | maxAgeHours => "max_age_hours"
  | pullRequest => "pr_weight"
  | issue => "issue_weight"
  | release => "release_weight"
  | discussion => "discussion_weight"
  | commit => "commit_weight"
  | assignee => "assignee_weight"
  | author => "author_weight"
  | mention => "mention_weight"
  | teamMention => "team_mention_weight"
  | review => "review_weight"
  | comment => "comment_weight"
  | stateChange => "state_change_weight"
  | subscribed => "subscribed_weight"

/-- The weights in the order in which they are written. -/
def all : List Weight :=
  [age, activity, involvement, type, reason, repo, ageDecay, maxAgeHours, pullRequest, issue,
   release, discussion, commit, assignee, author, mention, teamMention, review, comment,
   stateChange, subscribed]

/-- The weight that is written under a name. -/
def ofName? (name : String) : Option Weight := all.find? (·.name == name)

end Weight

namespace Factors

/-- The name under which the weights of single repositories are written. -/
def repositoriesName : String := "custom_repo_weights"

/-- The number in a slot. -/
def weight (f : Factors) : Weight → Float
  | .age => f.age
  | .activity => f.activity
  | .involvement => f.involvement
  | .type => f.type
  | .reason => f.reason
  | .repo => f.repo
  | .ageDecay => f.ageDecay
  | .maxAgeHours => f.maxAgeHours
  | .pullRequest => f.pullRequest
  | .issue => f.issue
  | .release => f.release
  | .discussion => f.discussion
  | .commit => f.commit
  | .assignee => f.assignee
  | .author => f.author
  | .mention => f.mention
  | .teamMention => f.teamMention
  | .review => f.review
  | .comment => f.comment
  | .stateChange => f.stateChange
  | .subscribed => f.subscribed

/-- The weights with the number in one slot replaced. -/
def put (f : Factors) (w : Weight) (value : Float) : Factors :=
  match w with
  | .age => { f with age := value }
  | .activity => { f with activity := value }
  | .involvement => { f with involvement := value }
  | .type => { f with type := value }
  | .reason => { f with reason := value }
  | .repo => { f with repo := value }
  | .ageDecay => { f with ageDecay := value }
  | .maxAgeHours => { f with maxAgeHours := value }
  | .pullRequest => { f with pullRequest := value }
  | .issue => { f with issue := value }
  | .release => { f with release := value }
  | .discussion => { f with discussion := value }
  | .commit => { f with commit := value }
  | .assignee => { f with assignee := value }
  | .author => { f with author := value }
  | .mention => { f with mention := value }
  | .teamMention => { f with teamMention := value }
  | .review => { f with review := value }
  | .comment => { f with comment := value }
  | .stateChange => { f with stateChange := value }
  | .subscribed => { f with subscribed := value }

/-- Equality of numbers weight by weight; a zero equals its negative. -/
instance : BEq Factors :=
  ⟨fun a b => (Weight.all.all fun w => a.weight w == b.weight w) &&
    a.repositories == b.repositories⟩

end Factors
end Triage
