import Flotilla.Registry

/-!
# Compatibility verdicts

Each installed extension is checked against a target game version. The registry is
asked for versions that list the target itself; only if there are none is it asked
for every version of the loader, of which those count that support some game version
equal to the target in the order of versions. The verdict says whether the installed
version is among the versions found, which others are, newest first, or what failed.
-/

namespace Flotilla

/-- An extension on a server. -/
structure Extension where
  /-- The key its verdict is reported under. -/
  id : String
  project : String
  /-- The installed version, if it came from the registry. -/
  installed : Option String
  deriving DecidableEq

namespace Extension

/-- An extension as a JSON value. -/
def toJson (e : Extension) : Json :=
  .record [("id", .str e.id), ("project_id", .str e.project),
    ("version_id", (e.installed.map Json.str).getD .null)]

/-- An extension in a JSON text. -/
def decode : Decoder Extension := fun depth tree => do
  let row ← Row.read
    [.required "id" Decoder.string, .required "project_id" Decoder.string,
      .required "version_id" (Decoder.optional Decoder.string)] depth tree
  return ⟨← row.required "id" Decoder.string, ← row.required "project_id" Decoder.string,
    ← row.optional "version_id" Decoder.string⟩

end Extension

/-- How an extension stands towards the target. -/
inductive Standing where
  | upToDate
  | updateAvailable
  | noCompatibleVersions
  | error
  deriving DecidableEq

namespace Standing

/-- Every standing. -/
def all : List Standing := [.upToDate, .updateAvailable, .noCompatibleVersions, .error]

/-- The name of a standing. -/
def name : Standing → String
  | .upToDate => "up_to_date"
  | .updateAvailable => "update_available"
  | .noCompatibleVersions => "no_compatible_versions"
  | .error => "error"

/-- The standing of a name. -/
def parse? (s : String) : Option Standing := all.find? fun standing => standing.name = s

/-- A standing as a JSON value. -/
def toJson (standing : Standing) : Json := .str standing.name

/-- A standing in a JSON text. -/
def decode : Decoder Standing := Decoder.choice parse?

end Standing

/-- How versions were matched to the target. -/
inductive Confidence where
  /-- They list the target itself. -/
  | exact
  /-- They list a game version that equals the target in the order of versions. -/
  | degraded
  deriving DecidableEq

namespace Confidence

/-- The name of a confidence. -/
def name : Confidence → String
  | .exact => "exact"
  | .degraded => "degraded"

/-- The confidence of a name. -/
def parse? (s : String) : Option Confidence :=
  [exact, degraded].find? fun confidence => confidence.name = s

/-- A confidence as a JSON value. -/
def toJson (confidence : Confidence) : Json := .str confidence.name

/-- A confidence in a JSON text. -/
def decode : Decoder Confidence := Decoder.choice parse?

end Confidence

/-- What was found out about one extension. -/
structure Verdict where
  standing : Standing
  /-- Versions to update to, newest first. -/
  candidates : List String
  /-- The game versions of each candidate, in the same order. -/
  gameVersions : List (List String)
  confidence : Confidence
  /-- The failure of the registry, if it failed. -/
  failure : Option String
  deriving DecidableEq

namespace Verdict

/-- A verdict that names no candidates. -/
def bare (standing : Standing) (confidence : Confidence) : Verdict :=
  ⟨standing, [], [], confidence, none⟩

/-- The verdict on an extension whose look-up failed. -/
def failed (error : RegistryError) : Verdict :=
  ⟨.error, [], [], .exact, some error.message⟩

/-- Whether a verdict stands in the way of an upgrade. -/
def isBlocking (v : Verdict) : Bool :=
  match v.standing with
  | .noCompatibleVersions | .error => true
  | .upToDate | .updateAvailable => false

/-- A verdict as a JSON value; a missing failure is left out. -/
def toJson (v : Verdict) : Json :=
  .record ([("status", v.standing.toJson), ("candidate_ids", .strings v.candidates),
    ("game_versions", .arr (v.gameVersions.map .strings)), ("confidence", v.confidence.toJson)] ++
    (v.failure.map fun text => ("error", Json.str text)).toList)

/-- A verdict in a JSON text. -/
def decode : Decoder Verdict := fun depth tree => do
  let texts := Decoder.list Decoder.string
  let row ← Row.read
    [.required "status" Standing.decode, .required "candidate_ids" texts,
      .required "game_versions" (Decoder.list texts), .required "confidence" Confidence.decode,
      .defaulted "error" (Decoder.optional Decoder.string)] depth tree
  return ⟨← row.required "status" Standing.decode, ← row.required "candidate_ids" texts,
    ← row.required "game_versions" (Decoder.list texts),
    ← row.required "confidence" Confidence.decode, ← row.optional "error" Decoder.string⟩

end Verdict

/-- The versions of a project that support the target, and how they were matched. -/
structure Finding where
  publications : List Publication
  confidence : Confidence
  deriving DecidableEq

/-- The outcome of looking for an extension, with the queries that were made for it. -/
structure Lookup where
  asked : List Query
  found : Except RegistryError Finding

namespace Publication

/-- Whether a version supports some game version that equals the target. -/
def supports (dates : ReleaseDates) (target : String) (p : Publication) : Bool :=
  p.gameVersions.any fun supported => GameVersion.compare dates supported target = some .eq

/-- Versions by descending date of publication; of equal dates the first stays first. -/
def newestFirst (publications : List Publication) : List Publication :=
  publications.mergeSort fun a b => (a.published.compare b.published).isGE

end Publication

namespace Lookup

/-- Asks for the target itself, and if no version lists it, for every version of the
loader that supports a game version equal to the target. -/
def run (registry : Registry) (dates : ReleaseDates) (loader : Loader) (target project : String) :
    Lookup :=
  let exact := Query.exact project loader.tag target
  let broad := Query.broad project loader.tag
  match registry.publications exact with
  | .error e => ⟨[exact], .error e⟩
  | .ok (first :: rest) => ⟨[exact], .ok ⟨first :: rest, .exact⟩⟩
  | .ok [] =>
    match registry.publications broad with
    | .error e => ⟨[exact, broad], .error e⟩
    | .ok all => ⟨[exact, broad], .ok ⟨all.filter (·.supports dates target), .degraded⟩⟩

end Lookup

namespace Finding

/-- The verdict on an extension for which these versions were found. -/
def verdict (finding : Finding) (e : Extension) : Verdict :=
  if finding.publications.isEmpty then .bare .noCompatibleVersions finding.confidence
  else if finding.publications.any fun p => some p.id = e.installed then
    .bare .upToDate finding.confidence
  else
    let sorted := Publication.newestFirst finding.publications
    ⟨.updateAvailable, sorted.map (·.id), sorted.map (·.gameVersions), finding.confidence, none⟩

end Finding

namespace Extension

/-- The outcome of looking for an extension. -/
def lookup (registry : Registry) (dates : ReleaseDates) (loader : Loader) (target : String)
    (e : Extension) : Lookup :=
  Lookup.run registry dates loader target e.project

/-- The verdict on an extension. -/
def verdict (registry : Registry) (dates : ReleaseDates) (loader : Loader) (target : String)
    (e : Extension) : Verdict :=
  match (e.lookup registry dates loader target).found with
  | .ok finding => finding.verdict e
  | .error error => .failed error

end Extension

/-- The verdicts on the extensions of a server, by key. -/
abbrev Verdicts := Index String Verdict

namespace Verdicts

/-- The verdicts on a list of extensions; of those with one key the last counts. -/
def resolve (registry : Registry) (dates : ReleaseDates) (loader : Loader) (target : String)
    (extensions : List Extension) : Verdicts :=
  Index.ofList (extensions.map fun e => (e.id, e.verdict registry dates loader target))

/-- The queries made for a list of extensions, in order. -/
def queries (registry : Registry) (dates : ReleaseDates) (loader : Loader) (target : String)
    (extensions : List Extension) : List Query :=
  extensions.flatMap fun e => (e.lookup registry dates loader target).asked

/-- Verdicts as a JSON value. -/
def toJson (verdicts : Verdicts) : Json :=
  .record (verdicts.entries.map fun entry => (entry.1, entry.2.toJson))

end Verdicts

end Flotilla
