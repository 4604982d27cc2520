import Flotilla.Text.Digits
import Flotilla.Text.Split

/-!
# Game versions

A numbered version has a base of two or three numbers and may be a snapshot, a
pre-release or a release candidate of that base. Legacy versions have major `1`;
modern ones have a major of `2` or more, and only these have numbered snapshots.
A weekly snapshot such as `23w45a` names a year, a week and a revision, and no base.

Numbers are written with ASCII digits and stay below `2 ^ 32`. A missing patch and a
missing ordinal count as zero, and the hyphen before a pre-release number may be
left out, so a version has several spellings; `GameVersion.text` is one of them.
-/

namespace Flotilla

/-- How finished a numbered version is. -/
inductive Stage where
  | snapshot
  | pre
  | rc
  | release
  deriving DecidableEq

/-- The two numbering schemes. -/
inductive Numbering where
  | legacy
  | modern
  deriving DecidableEq

/-- A version with a base. -/
structure NumberedVersion where
  major : Nat
  minor : Nat
  patch : Nat
  stage : Stage
  /-- The number behind the stage; zero for releases. -/
  ordinal : Nat
  deriving DecidableEq

/-- A game version. -/
inductive GameVersion where
  | weekly (year week : Nat) (revision : Char)
  | numbered (version : NumberedVersion)
  deriving DecidableEq

/-- Why a text is no game version. -/
inductive VersionError where
  | unrecognized (text : String)
  deriving DecidableEq

namespace VersionError

/-- The wording of a version error. -/
def message : VersionError → String
  | .unrecognized text => "unrecognized game version: " ++ text

end VersionError

namespace NumberedVersion

/-- The scheme of a numbered version follows from its major number. -/
def numbering (v : NumberedVersion) : Numbering := if v.major = 1 then .legacy else .modern

end NumberedVersion

namespace GameVersion

/-- Version numbers stay below this bound. -/
def numberBound : Nat := Nat.pow 2 32

/-- Whether a version is a release. -/
def isRelease : GameVersion → Bool
  | .numbered v => v.stage = .release
  | .weekly .. => false

/-- A weekly snapshot: two digits, `w`, two digits and a lower-case letter. -/
def weekly? : List Char → Option GameVersion
  | [y₁, y₂, 'w', w₁, w₂, revision] => do
    let year ← Digits.read? 100 [y₁, y₂]
    let week ← Digits.read? 100 [w₁, w₂]
    if 'a' ≤ revision ∧ revision ≤ 'z' then some (.weekly year week revision) else none
  | _ => none

/-- The two or three numbers of a base, a missing third one being zero. -/
def base? (cs : List Char) : Option (Nat × Nat × Nat) :=
  match Split.every '.' cs with
  | [major, minor] => do
    return (← Digits.read? numberBound major, ← Digits.read? numberBound minor, 0)
  | [major, minor, patch] => do
    return (← Digits.read? numberBound major, ← Digits.read? numberBound minor,
      ← Digits.read? numberBound patch)
  | _ => none

/-- The number behind `pre` or `rc`: an optional hyphen, then digits, or nothing for zero. -/
def ordinal? (cs : List Char) : Option Nat :=
  let digits :=
    match cs with
    | '-' :: rest => rest
    | _ => cs
  if digits.isEmpty then some 0 else Digits.read? numberBound digits

/-- The stage and the number that the part behind the first hyphen names. -/
def stage? (cs : List Char) : Option (Stage × Nat) :=
  match Split.after? "pre".toList cs, Split.after? "rc".toList cs,
    Split.after? "snapshot-".toList cs with
  | some rest, _, _ => (ordinal? rest).map fun n => (.pre, n)
  | none, some rest, _ => (ordinal? rest).map fun n => (.rc, n)
  | none, none, some rest => (Digits.read? numberBound rest).map fun n => (.snapshot, n)
  | none, none, none => none

/-- A base and a stage, unless the major number is zero or a legacy version claims to be
a numbered snapshot. -/
def assemble? (base : Nat × Nat × Nat) (stage : Stage × Nat) : Option GameVersion :=
  if base.1 = 0 ∨ (base.1 = 1 ∧ stage.1 = .snapshot) then none
  else some (.numbered ⟨base.1, base.2.1, base.2.2, stage.1, stage.2⟩)

/-- A numbered version: a base, and a stage behind the first hyphen if there is one. -/
def numbered? (cs : List Char) : Option GameVersion :=
  match Split.first '-' cs with
  | none => do assemble? (← base? cs) (.release, 0)
  | some (base, stage) => do assemble? (← base? base) (← stage? stage)

/-- The version that a text names. -/
def ofChars? (cs : List Char) : Option GameVersion := (weekly? cs).or (numbered? cs)

/-- The version that a string names. -/
def parse (s : String) : Except VersionError GameVersion :=
  match ofChars? s.toList with
  | some v => .ok v
  | none => .error (.unrecognized s)

/-- The part behind the base that names a stage. -/
def renderStage (stage : Stage) (ordinal : Nat) : List Char :=
  match stage with
  | .release => []
  | .pre => "-pre".toList ++ Digits.render ordinal
  | .rc => "-rc".toList ++ Digits.render ordinal
  | .snapshot => "-snapshot-".toList ++ Digits.render ordinal

/-- The spelling of a version that writes all its numbers. -/
def render : GameVersion → List Char
  | .weekly year week revision =>
    Digits.padded 2 year ++ 'w' :: (Digits.padded 2 week ++ [revision])
  | .numbered v =>
    Digits.render v.major ++ '.' :: (Digits.render v.minor ++ '.' :: (Digits.render v.patch ++
      renderStage v.stage v.ordinal))

/-- The full spelling of a version as a string. -/
def text (v : GameVersion) : String := String.ofList v.render

end GameVersion

end Flotilla
