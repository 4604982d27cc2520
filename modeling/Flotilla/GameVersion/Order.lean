import Flotilla.GameVersion
import Flotilla.Instant

/-!
# The order of game versions

Numbered versions are ordered by their numbers, and on one base by stage: snapshots
before pre-releases before release candidates before the release. A weekly snapshot
has no base, so it is ordered against anything else by release dates, when both are
known. Equal texts are equal versions even if they name none. All other pairs are
incomparable.
-/

namespace Flotilla

/-- What is known of release dates, by the text of a version. -/
abbrev ReleaseDates := String → Option Instant

namespace ReleaseDates

/-- No date is known. -/
def unknown : ReleaseDates := fun _ => none

end ReleaseDates

namespace Stage

/-- The rank of a stage, ascending towards the release. -/
def rank : Stage → Nat
  | .snapshot => 0
  | .pre => 1
  | .rc => 2
  | .release => 3

end Stage

namespace NumberedVersion

/-- The order of numbered versions. -/
def compare (a b : NumberedVersion) : Ordering :=
  (Ord.compare a.major b.major).then <| (Ord.compare a.minor b.minor).then <|
    (Ord.compare a.patch b.patch).then <| (Ord.compare a.stage.rank b.stage.rank).then <|
      Ord.compare a.ordinal b.ordinal

end NumberedVersion

namespace GameVersion

/-- The order of two version texts, or `none` if they are incomparable. -/
def compare (dates : ReleaseDates) (a b : String) : Option Ordering :=
  if a = b then some .eq
  else
    match parse a, parse b with
    | .ok (.numbered v), .ok (.numbered w) => some (v.compare w)
    | .ok _, .ok _ => do return (← dates a).compare (← dates b)
    | _, _ => none

end GameVersion

end Flotilla
