import Flotilla.Gateway
import Flotilla.Http.Call

/-!
# The gateway as a service

What the gateway does when it is called and what it answers. A request that makes no
call is answered without the gateway, and so is the question what may be asked. What
a call sets off beyond its answer (channels that begin, watchers who are told) is left
to those who come after it.

There is no answer at all to a watcher for whom no queue can be made.
-/

namespace Flotilla

namespace EventKind

/-- Whether only the channels of the gateway tell of events of a kind. -/
def isReported : EventKind → Bool
  | .playersChanged | .banListChanged => true
  | .created | .updated | .deleted => false

end EventKind

namespace Tracking

/-- A followed server in a list, as a JSON value. -/
def toJson (tracking : Tracking) : Json :=
  .record [("instance_id", tracking.id.toJson), ("loader", tracking.loader.toJson),
    ("state", .str tracking.status.state.name)]

end Tracking

namespace ChannelStatus

/-- The status of the channel to a server, as a JSON value. -/
def toJson (status : ChannelStatus) (server : ServerId) : Json :=
  .record [("instance_id", server.toJson), ("state", .str status.state.name),
    ("consecutive_failures", .nat status.failures),
    ("current_backoff_secs", .float status.backoff.secondsFloat)]

end ChannelStatus

namespace Gateway

/-- How the gateway is. -/
def health (g : Gateway) (now : Instant) : Json :=
  .record [("status", .str "healthy"), ("timestamp", .str now.offsetText),
    ("version", .str Route.version), ("tracked_instances", .nat g.fleet.list.length),
    ("observers", .nat g.observatory.bus.receivers)]

/-- One page of the followed servers. -/
def page (g : Gateway) (request : PageRequest) : Json :=
  .record [("data", .arr ((request.items g.fleet.list).map Tracking.toJson)),
    ("pagination", (request.info g.fleet.list).toJson)]

/-- Begins to follow a server. -/
def track (g : Gateway) (server : Server) : HttpResponse × Gateway :=
  let (started, fleet) := g.fleet.track server
  (.json (if started then 201 else 200)
      (.record [("instance_id", server.id.toJson), ("started", .bool started)]),
    { g with fleet := fleet })

/-- Publishes an event for somebody outside the gateway. -/
def announce (g : Gateway) (event : Event) : HttpResponse × Gateway :=
  if event.kind.isReported then
    let reason := event.kind.name ++ " events are produced by the gateway"
    ((Refusal.invalidRequest reason).response, g)
  else
    let (delivered, published) := g.publish event
    (.json 202
        (.record [("kind", event.kind.toJson), ("channel", .str g.observatory.bus.name),
          ("receivers", .nat delivered)]),
      published)

/-- Strikes a viewer off the record. -/
def dismiss (g : Gateway) (now : Instant) (viewer : ViewerId) : HttpResponse × Gateway :=
  match g.revoke now viewer with
  | (true, revoked) => (.bare 204, revoked)
  | (false, _) => ((Refusal.unknownViewer viewer).response, g)

/-- Admits a watcher with the roles they hold now; a viewer without record has none. -/
def accept (g : Gateway) (viewer : ViewerId) (name : String) : Option HttpResponse × Gateway :=
  let (answer, source) := g.observatory.source.load viewer
  let asked := { g with observatory := { g.observatory with source := source } }
  let enter (roles : Roles) : Option HttpResponse × Gateway :=
    match asked.observatory.accept? name viewer roles with
    | some observatory => (some (.bare 101), { asked with observatory := observatory })
    | none => (none, asked)
  match answer with
  | .ok roles => enter roles
  | .error (.unknownViewer _) => enter .empty
  | .error error => (some (Refusal.ofAuthorityError error).response, asked)

/-- The last report of a server on one of its lists. -/
def lookUp (g : Gateway) (server : ServerId) (key : StatusKey) : HttpResponse :=
  match g.fleet.store.get? server key with
  | some value =>
    .json 200
      (.record [("instance_id", server.toJson), ("key", key.toJson), ("value", value)])
  | none => (Refusal.statusUnknown server key).response

/-- What is to be seen of the channel to a server. -/
def inspect (g : Gateway) (server : ServerId) : HttpResponse :=
  match g.fleet.status? server with
  | some status => .json 200 (status.toJson server)
  | none => (Refusal.instanceNotTracked server).response

/-- Does what a call asks for at the instant `now`. -/
def perform (g : Gateway) (now : Instant) : Call → Option HttpResponse × Gateway
  | .health => (some (.json 200 (g.health now)), g)
  | .trackServer server =>
    let (response, g) := g.track server
    (some response, g)
  | .listServers request => (some (.json 200 (g.page request)), g)
  | .untrackServer server => (some (.bare 204), { g with fleet := (g.fleet.untrack server).2 })
  | .invalidateStatus server =>
    (some (.bare 204), { g with fleet := (g.fleet.invalidate server).2 })
  | .readStatus server key => (some (g.lookUp server key), g)
  | .readConnection server => (some (g.inspect server), g)
  | .publishEvent event =>
    let (response, g) := g.announce event
    (some response, g)
  | .grantRole viewer server role =>
    (some (.json 200
        (.record [("viewer_id", viewer.toJson), ("instance_id", server.toJson),
          ("role", role.toJson)])),
      g.grant now viewer server role)
  | .revokeViewer viewer =>
    let (response, g) := g.dismiss now viewer
    (some response, g)
  | .watch viewer name => g.accept viewer name
  | .readDocumentation => (some (.json 200 Route.documentation), g)

/-- The answer to a request that comes at the instant `now`, and the gateway after it. -/
def respond (g : Gateway) (now : Instant) (request : HttpRequest) :
    Option HttpResponse × Gateway :=
  if request.method = "OPTIONS" then (some (.bare 200), g)
  else
    let (response, g) :=
      match Call.ofRequest now request with
      | .ok call => g.perform now call
      | .error rejection => (some rejection.response, g)
    (if request.method = "HEAD" then response.map .stripped else response, g)

end Gateway

end Flotilla
