import Flotilla.Json.Value
import Flotilla.Text.Split

/-!
# Routes

What the gateway can be asked to do, by which method and under which path. A path is
a sequence of pieces behind slashes; some are fixed, others stand for a parameter,
which may be anything but empty. Some routes are documented, and the documentation is
made from this table.
-/

namespace Flotilla

/-- What the gateway can be asked to do. -/
inductive Operation where
  | health
  | trackServer
  | listServers
  | untrackServer
  | invalidateStatus
  | readStatus
  | readConnection
  | publishEvent
  | grantRole
  | revokeViewer
  | watch
  | readDocumentation
  deriving DecidableEq

/-- A piece of a path. -/
inductive Segment where
  | fixed (text : String)
  | parameter (name : String)
  deriving DecidableEq

/-- What the documentation says about a route. -/
structure RouteNote where
  tag : String
  summary : String
  /-- The statuses that a client has to expect. -/
  statuses : List Nat

/-- One thing the gateway can be asked to do. -/
structure Route where
  operation : Operation
  method : String
  path : List Segment
  note : Option RouteNote

namespace Segment

/-- The written form of a piece. -/
def text : Segment → String
  | .fixed text => text
  | .parameter name => "\x7b" ++ name ++ "\x7d"

end Segment

namespace Route

/-- The path of everything about one server. -/
def server : List Segment :=
  [.fixed "api", .fixed "v1", .fixed "instances", .parameter "id"]

/-- The path of everything about one viewer. -/
def viewer : List Segment :=
  [.fixed "api", .fixed "v1", .fixed "viewers", .parameter "viewer"]

/-- Every route. -/
def all : List Route :=
  [⟨.health, "GET", [.fixed "health"], some ⟨"System", "Health check", [200]⟩⟩,
    ⟨.trackServer, "POST", [.fixed "api", .fixed "v1", .fixed "instances"],
      some ⟨"Instances", "Track an instance", [200, 201]⟩⟩,
    ⟨.listServers, "GET", [.fixed "api", .fixed "v1", .fixed "instances"],
      some ⟨"Instances", "List tracked instances", [200]⟩⟩,
    ⟨.untrackServer, "DELETE", server, some ⟨"Instances", "Untrack an instance", [204]⟩⟩,
    ⟨.invalidateStatus, "DELETE", server ++ [.fixed "status"],
      some ⟨"Instances", "Invalidate cached status", [204]⟩⟩,
    ⟨.readStatus, "GET", server ++ [.fixed "status", .parameter "key"],
      some ⟨"Instances", "Read instance status", [200, 404]⟩⟩,
    ⟨.readConnection, "GET", server ++ [.fixed "connection"],
      some ⟨"Instances", "Connection state", [200, 404]⟩⟩,
    ⟨.publishEvent, "POST", [.fixed "api", .fixed "v1", .fixed "events"],
      some ⟨"Events", "Publish a lifecycle event", [202, 400]⟩⟩,
    ⟨.grantRole, "PUT", viewer ++ [.fixed "roles", .parameter "id"],
      some ⟨"Viewers", "Set viewer role", [200]⟩⟩,
    ⟨.revokeViewer, "DELETE", viewer, some ⟨"Viewers", "Revoke viewer", [204, 404]⟩⟩,
    ⟨.watch, "GET", [.fixed "ws"], none⟩,
    ⟨.readDocumentation, "GET", [.fixed "api-docs", .fixed "openapi.json"], none⟩]

/-- The parameters of a path, in order, if its pieces fit. -/
def parameters? : List Segment → List (List Char) → Option (List (List Char))
  | [], [] => some []
  | .fixed text :: segments, piece :: pieces =>
    if text.toList = piece then parameters? segments pieces else none
  | .parameter _ :: segments, piece :: pieces =>
    if piece.isEmpty then none else (parameters? segments pieces).map (piece :: ·)
  | _, _ => none

/-- The pieces of a path. -/
def pieces (path : List Char) : List (List Char) :=
  match path with
  | '/' :: rest => Split.every '/' rest
  | _ => []

/-- The routes under a path, with the parameters they find in it. -/
def under (path : List Char) : List (Route × List (List Char)) :=
  all.filterMap fun route =>
    (parameters? route.path (pieces path)).map fun parameters => (route, parameters)

/-- The written form of a path. -/
def pathText (route : Route) : String :=
  String.join (route.path.map fun segment => "/" ++ segment.text)

/-- The kinds of value that the documentation describes. -/
def schemas : List String :=
  ["ConnectionState", "ConnectionStatusDto", "DomainEvent", "ErrorBody", "ErrorResponse",
    "GrantRoleRequest", "GrantRoleResponse", "HealthResponse", "InstanceId",
    "InstanceListResponse", "InstanceSummaryDto", "Loader", "PaginationMeta", "Player", "PlayerBan",
    "PublishEventResponse", "Role", "StatusKey", "StatusValueResponse", "TrackInstanceRequest",
    "TrackInstanceResponse", "ViewerId"]

/-- The name under which the gateway is documented. -/
def title : String := "fleet-gateway"

/-- The version of the gateway. -/
def version : String := "0.1.0"

/-- What the documentation says about one route. -/
def noteJson (note : RouteNote) : Json :=
  .record [("tags", .strings [note.tag]), ("summary", .str note.summary),
    ("responses", .strings (note.statuses.map toString))]

/-- What the documentation says about the routes of one path. -/
def pathJson (path : String) : Json :=
  .record (all.filterMap fun route =>
    if route.pathText = path then
      route.note.map fun note =>
        (String.ofList (route.method.toList.map Char.toLower), noteJson note)
    else none)

/-- The documentation of the gateway. -/
def documentation : Json :=
  let paths := (all.filter (·.note.isSome)).map pathText
  .record [("title", .str title), ("version", .str version),
    ("paths", .record (paths.eraseDups.map fun path => (path, pathJson path))),
    ("schemas", .strings schemas)]

end Route

end Flotilla
