import Flotilla.Verdict

/-!
# Upgrade plans

An upgrade may go ahead when no verdict blocks it. A plan adds the direction of the
change, which needs the two game versions to be comparable, and is safe if its gate
is open and it does not go back to an older version. The release dates of the
registry decide the direction where the numbers cannot; without them the plan makes
do with the numbers.
-/

namespace Flotilla

/-- The joint decision over a set of verdicts. -/
inductive Gate where
  | safe
  /-- The keys of the blocking verdicts, ascending. -/
  | blocked (blocking : List String)
  deriving DecidableEq

namespace Gate

/-- The gate of a set of verdicts. -/
def ofVerdicts (verdicts : Verdicts) : Gate :=
  match (verdicts.entries.filter fun entry => entry.2.isBlocking).map (·.1) with
  | [] => .safe
  | key :: keys => .blocked (key :: keys)

/-- A gate as a JSON value. -/
def toJson : Gate → Json
  | .safe => .record [("gate", .str "safe")]
  | .blocked blocking => .record [("gate", .str "blocked"), ("blocking", .strings blocking)]

end Gate

/-- Where a change of game version leads. -/
inductive Direction where
  | upgrade
  | unchanged
  | downgrade
  deriving DecidableEq

namespace Direction

/-- The direction from a version to another that compares to it as given. -/
def ofOrdering : Ordering → Direction
  | .lt => .upgrade
  | .eq => .unchanged
  | .gt => .downgrade

/-- The name of a direction. -/
def name : Direction → String
  | .upgrade => "upgrade"
  | .unchanged => "unchanged"
  | .downgrade => "downgrade"

end Direction

/-- A checked change of game version. -/
structure Plan where
  current : String
  target : String
  direction : Direction
  verdicts : Verdicts
  gate : Gate
  deriving DecidableEq

/-- Why there is no plan. -/
inductive PlanError where
  | incomparable (current target : String)
  deriving DecidableEq

namespace PlanError

/-- The wording of a plan error. -/
def message : PlanError → String
  | .incomparable current target =>
    "cannot order game versions " ++ current ++ " and " ++ target

end PlanError

namespace Plan

/-- Whether the change may go ahead. -/
def isSafe (plan : Plan) : Bool := plan.gate = .safe && plan.direction ≠ .downgrade

/-- The plan of a change from one game version to another. -/
def make (registry : Registry) (loader : Loader) (current target : String)
    (extensions : List Extension) : Except PlanError Plan :=
  let dates := registry.catalog.dates
  match GameVersion.compare dates current target with
  | none => .error (.incomparable current target)
  | some order =>
    let verdicts := Verdicts.resolve registry dates loader target extensions
    .ok ⟨current, target, .ofOrdering order, verdicts, .ofVerdicts verdicts⟩

/-- The queries made for a plan; none are made if the versions are incomparable. -/
def queries (registry : Registry) (loader : Loader) (current target : String)
    (extensions : List Extension) : List Query :=
  let dates := registry.catalog.dates
  match GameVersion.compare dates current target with
  | none => []
  | some _ => Verdicts.queries registry dates loader target extensions

/-- A plan as a JSON value. -/
def toJson (plan : Plan) : Json :=
  .record [("current", .str plan.current), ("target", .str plan.target),
    ("direction", .str plan.direction.name), ("verdicts", plan.verdicts.toJson),
    ("gate", plan.gate.toJson)]

end Plan

end Flotilla
