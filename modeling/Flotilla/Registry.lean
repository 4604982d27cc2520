import Flotilla.GameVersion.Order
import Flotilla.Server

/-!
# Extension registries

A registry lists the published versions of extension projects and the game versions
with their release dates. It is asked by `Query`, and a query without game versions
accepts any. A `Registry` is such a service seen from outside: a function from
queries to answers.

The plainest registry is a `Shelf` per project: a fixed list of published versions,
of which a query gets those that carry every tag and every game version it names.
-/

namespace Flotilla

/-- What a registry is asked for. -/
structure Query where
  project : String
  /-- Loader tags that a version must carry. -/
  loaders : List String
  /-- Game versions that a version must list. -/
  gameVersions : List String
  deriving DecidableEq

namespace Query

/-- Versions of a project for one loader on one game version. -/
def exact (project tag target : String) : Query := ⟨project, [tag], [target]⟩

/-- Versions of a project for one loader on any game version. -/
def broad (project tag : String) : Query := ⟨project, [tag], []⟩

end Query

/-- One published version of an extension project. -/
structure Publication where
  id : String
  project : String
  number : String
  /-- The game versions it supports. -/
  gameVersions : List String
  /-- The tags of the loaders it supports. -/
  loaders : List String
  published : Instant
  deriving DecidableEq

/-- A game version with its release date. -/
structure Release where
  version : String
  date : Instant
  deriving DecidableEq

/-- Why a registry gave no answer. -/
inductive RegistryError where
  | unavailable (reason : String)
  | notFound (project : String)
  | malformed (reason : String)
  deriving DecidableEq

namespace RegistryError

/-- The wording of a registry error. -/
def message : RegistryError → String
  | .unavailable reason => "registry unavailable: " ++ reason
  | .notFound project => "project not found: " ++ project
  | .malformed reason => "malformed registry response: " ++ reason

end RegistryError

namespace Publication

/-- A published version as a JSON value. -/
def toJson (p : Publication) : Json :=
  .record [("id", .str p.id), ("project_id", .str p.project), ("version_number", .str p.number),
    ("game_versions", .strings p.gameVersions), ("loaders", .strings p.loaders),
    ("date_published", p.published.toJson)]

/-- A published version in a JSON text. -/
def decode : Decoder Publication := fun depth tree => do
  let texts := Decoder.list Decoder.string
  let row ← Row.read
    [.required "id" Decoder.string, .required "project_id" Decoder.string,
      .required "version_number" Decoder.string, .required "game_versions" texts,
      .required "loaders" texts, .required "date_published" Instant.decode] depth tree
  return ⟨← row.required "id" Decoder.string, ← row.required "project_id" Decoder.string,
    ← row.required "version_number" Decoder.string, ← row.required "game_versions" texts,
    ← row.required "loaders" texts, ← row.required "date_published" Instant.decode⟩

/-- Whether a published version carries every tag and game version of a query. -/
def answers (p : Publication) (q : Query) : Bool :=
  q.loaders.all (p.loaders.contains ·) && q.gameVersions.all (p.gameVersions.contains ·)

end Publication

namespace Release

/-- A release as a JSON value. -/
def toJson (r : Release) : Json :=
  .record [("version", .str r.version), ("date", r.date.toJson)]

/-- A release in a JSON text. -/
def decode : Decoder Release := fun depth tree => do
  let row ← Row.read
    [.required "version" Decoder.string, .required "date" Instant.decode] depth tree
  return ⟨← row.required "version" Decoder.string, ← row.required "date" Instant.decode⟩

end Release

/-- Release dates by version text. -/
abbrev Catalog := Index String Instant

namespace Catalog

/-- The catalog of a list of releases, the last one of a version winning. -/
def ofReleases (releases : List Release) : Catalog :=
  Index.ofList (releases.map fun r => (r.version, r.date))

/-- The dates of a catalog. -/
def dates (catalog : Catalog) : ReleaseDates := catalog.get?

@[simp] theorem dates_empty : dates Index.empty = ReleaseDates.unknown := rfl

end Catalog

/-- An extension registry: what it answers to a query, and its list of releases. -/
structure Registry where
  publications : Query → Except RegistryError (List Publication)
  releases : Except RegistryError (List Release)

/-- How a registry answers about one project. -/
inductive Shelf where
  /-- The versions of a fixed list that match the query. -/
  | stock (publications : List Publication)
  /-- One answer to queries that name game versions, another to those that name none. -/
  | prepared (exact broad : Except RegistryError (List Publication))

namespace Shelf

/-- What a shelf answers to a query. -/
def answer (shelf : Shelf) (q : Query) : Except RegistryError (List Publication) :=
  match shelf with
  | .stock publications => .ok (publications.filter (·.answers q))
  | .prepared exact broad => if q.gameVersions.isEmpty then broad else exact

end Shelf

namespace Registry

/-- The registry with a shelf for each known project. -/
def ofShelves (shelves : String → Option Shelf)
    (releases : Except RegistryError (List Release)) : Registry where
  publications q :=
    match shelves q.project with
    | some shelf => shelf.answer q
    | none => .error (.notFound q.project)
  releases := releases

/-- The release dates of a registry; none if it has no answer. -/
def catalog (registry : Registry) : Catalog :=
  match registry.releases with
  | .ok releases => Catalog.ofReleases releases
  | .error _ => Index.empty

end Registry

end Flotilla
