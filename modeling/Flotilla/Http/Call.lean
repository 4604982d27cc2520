import Flotilla.Event
import Flotilla.Http.MediaType
import Flotilla.Http.Percent
import Flotilla.Http.Rejection
import Flotilla.Http.Route
import Flotilla.Page
import Flotilla.Server

/-!
# Calls

A call is what a request asks of the gateway, with everything it needs already read:
the parameters of the path, the query and the body. The parameters are read before
the body. Whoever only asks for the head of an answer asks for the same thing as
whoever asks for all of it.
-/

namespace Flotilla

/-- What a request asks of the gateway. -/
inductive Call where
  | health
  | trackServer (server : Server)
  | listServers (page : PageRequest)
  | untrackServer (server : ServerId)
  | invalidateStatus (server : ServerId)
  | readStatus (server : ServerId) (key : StatusKey)
  | readConnection (server : ServerId)
  | publishEvent (event : Event)
  | grantRole (viewer : ViewerId) (server : ServerId) (role : Role)
  | revokeViewer (viewer : ViewerId)
  /-- To watch, from then on under a name. -/
  | watch (viewer : ViewerId) (name : String)
  | readDocumentation

namespace HttpRequest

/-- No body has more bytes. -/
def maxBody : Nat := 2097152

/-- Whether the body is declared to be JSON. -/
def isJson (request : HttpRequest) : Bool :=
  match (Header.first? request.headers "content-type").bind Header.asciiText? with
  | some text => MediaType.isJson text
  | none => false

/-- The value that the body holds. -/
def content {α : Type} (request : HttpRequest) (decode : Decoder α) : Except Rejection α :=
  if request.isJson = false then .error .mediaType
  else if maxBody < request.body.utf8ByteSize then .error .length
  else (decodeText decode request.body).mapError .ofFault

/-- The number in a field of the query, or `usual` if there is none. -/
def number (request : HttpRequest) (name : String) (usual : Nat) : Except Rejection Nat :=
  match (Percent.fields (request.uri.query.getD [])).filter fun field => field.1 = some name with
  | [] => .ok usual
  | [(_, some value)] =>
    match Digits.readSigned? PageRequest.bound value.toList with
    | some n => .ok n
    | none => .error .query
  | _ => .error .query

/-- The page that the query asks for. -/
def page (request : HttpRequest) : Except Rejection PageRequest := do
  return ⟨← request.number "page" PageRequest.usual.page,
    ← request.number "per_page" PageRequest.usual.perPage⟩

/-- Who wants to watch, and under what name. -/
def watcher (request : HttpRequest) : Except Rejection (ViewerId × String) := do
  let name ← request.handshake.mapError .handshake
  match Header.viewer? request.headers with
  | some viewer => return (viewer, name)
  | none => throw .anonymous

end HttpRequest

namespace Call

/-- The value of a parameter in the path. -/
def parameter {α : Type} (parse? : String → Option α) (piece : List Char) :
    Except Rejection α :=
  match (Percent.text? piece).bind parse? with
  | some a => .ok a
  | none => .error .parameter

/-- The call that a request makes to an operation, with the parameters of its path. As
every route finds as many parameters as its path has, the last case does not arise. -/
def read (now : Instant) (request : HttpRequest) :
    Operation → List (List Char) → Except Rejection Call
  | .health, [] => return .health
  | .trackServer, [] => return .trackServer (← request.content Server.decode)
  | .listServers, [] => return .listServers (← request.page)
  | .untrackServer, [id] => return .untrackServer (← parameter Id.parse? id)
  | .invalidateStatus, [id] => return .invalidateStatus (← parameter Id.parse? id)
  | .readStatus, [id, key] =>
    return .readStatus (← parameter Id.parse? id) (← parameter StatusKey.ofName? key)
  | .readConnection, [id] => return .readConnection (← parameter Id.parse? id)
  | .publishEvent, [] => return .publishEvent (← request.content (Event.decode now))
  | .grantRole, [viewer, id] =>
    return .grantRole (← parameter Id.parse? viewer) (← parameter Id.parse? id)
      (← request.content Role.decodeGrant)
  | .revokeViewer, [viewer] => return .revokeViewer (← parameter Id.parse? viewer)
  | .watch, [] => do
    let (viewer, name) ← request.watcher
    return .watch viewer name
  | .readDocumentation, [] => return .readDocumentation
  | _, _ => throw .path

/-- The method whose routes serve a method. -/
def serving (method : String) : String := if method = "HEAD" then "GET" else method

/-- The call that a request makes at the instant `now`. -/
def ofRequest (now : Instant) (request : HttpRequest) : Except Rejection Call :=
  match Route.under request.uri.path with
  | [] => throw .path
  | routes =>
    match routes.find? fun found => found.1.method = serving request.method with
    | some (route, parameters) => read now request route.operation parameters
    | none => throw .method

end Call

end Flotilla
