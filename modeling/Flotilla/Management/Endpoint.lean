import Flotilla.Http.Header
import Flotilla.Http.Uri
import Flotilla.Id
import Flotilla.Text.Placeholder

/-!
# Endpoints

Where a server is managed. All servers share one template; filling in the identifier
of a server gives the name of its endpoint. A name is usable if it is that of a
resource with an authority, and a secret is usable if it can stand in a header
field. Whether anything answers there is only found out by trying.
-/

namespace Flotilla

/-- Why nothing can be sent to an endpoint. -/
inductive EndpointError where
  /-- The text names no endpoint. -/
  | unreadable (url : String)
  /-- The secret cannot stand in a header field. -/
  | secret
  deriving DecidableEq

namespace EndpointError

/-- The wording of an error. -/
def message : EndpointError → String
  | .unreadable url => url
  | .secret => "secret is not a valid header value"

end EndpointError

namespace Endpoint

/-- The endpoint of a text, to be entered with a secret. The text is looked at first. -/
def resolve (url secret : String) : Except EndpointError Uri :=
  match Uri.parse? url with
  | none => .error (.unreadable url)
  | some uri =>
    if uri.authority.isEmpty then .error (.unreadable url)
    else if secret.toList.all Header.isValueChar then .ok uri
    else .error .secret

/-- What marks the place of the identifier in a template. -/
def mark : List Char := ['{', 'i', 'd', '}']

/-- Whether a template has a place for the identifier. -/
def isTemplate (template : String) : Bool := Placeholder.occurs mark template.toList

/-- The text of a server's endpoint. -/
def ofTemplate (template : String) (server : ServerId) : String :=
  String.ofList (Placeholder.fill '{' ['i', 'd', '}'] server.render template.toList)

end Endpoint

end Flotilla
