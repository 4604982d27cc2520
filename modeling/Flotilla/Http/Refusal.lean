import Flotilla.Authority
import Flotilla.Http.Message
import Flotilla.Status

/-!
# Refusals

What clients of the gateway are told when it does not do what they ask. Every kind of
refusal has a number of its own and a status of the transfer protocol.
-/

namespace Flotilla

/-- Why a request is refused. -/
inductive Refusal where
  | invalidRequest (reason : String)
  | instanceNotTracked (server : ServerId)
  /-- Nothing has been reported for this list yet. -/
  | statusUnknown (server : ServerId) (key : StatusKey)
  | unknownViewer (viewer : ViewerId)
  /-- The request does not say who it comes from. -/
  | unauthorized
  | authorizationUnavailable (reason : String)
  | internal (reason : String)
  deriving DecidableEq

namespace Refusal

/-- The number of a refusal. -/
def code : Refusal → Nat
  | .invalidRequest _ => 1001
  | .instanceNotTracked _ => 2001
  | .statusUnknown _ _ => 2002
  | .unknownViewer _ => 2003
  | .internal _ => 3000
  | .authorizationUnavailable _ => 3001
  | .unauthorized => 4001

/-- The status that a refusal is answered with. -/
def status : Refusal → Nat
  | .invalidRequest _ => 400
  | .instanceNotTracked _ | .statusUnknown _ _ | .unknownViewer _ => 404
  | .internal _ => 500
  | .authorizationUnavailable _ => 503
  | .unauthorized => 401

/-- The wording of a refusal. -/
def message : Refusal → String
  | .invalidRequest reason => "invalid request: " ++ reason
  | .instanceNotTracked server => "instance not tracked: " ++ server.text
  | .statusUnknown server key => "status " ++ key.name ++ " unknown for instance " ++ server.text
  | .unknownViewer viewer => "unknown viewer: " ++ viewer.text
  | .unauthorized => "missing or invalid viewer identity"
  | .authorizationUnavailable reason => "authorization unavailable: " ++ reason
  | .internal reason => "internal error: " ++ reason

/-- The body that a refusal is answered with. -/
def toJson (refusal : Refusal) : Json :=
  .record [("error",
    .record [("code", .nat refusal.code), ("message", .str refusal.message)])]

/-- The response that tells of a refusal. -/
def response (refusal : Refusal) : HttpResponse := .json refusal.status refusal.toJson

/-- The refusal that an error of the authority leads to. -/
def ofAuthorityError : AuthorityError → Refusal
  | .unknownViewer viewer => .unknownViewer viewer
  | .unavailable reason => .authorizationUnavailable reason

end Refusal

end Flotilla
