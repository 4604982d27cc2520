import Flotilla.Http.Header
import Flotilla.Http.Uri
import Flotilla.Json.Value

/-!
# Requests and responses

What comes to the gateway over the transfer protocol and what goes back. A connection
that carries a request may be one that can be handed over to a watcher, who then goes
by a name of its own.
-/

namespace Flotilla

/-- A request over the transfer protocol. -/
structure HttpRequest where
  method : String
  uri : Uri
  headers : List Header
  body : String
  /-- The name of a watcher who would take over the connection, if it can be taken over. -/
  handover : Option String

/-- What a response carries. -/
inductive HttpBody where
  | empty
  | text (text : String)
  | json (value : Json)

/-- A response over the transfer protocol. -/
structure HttpResponse where
  status : Nat
  body : HttpBody

namespace HttpResponse

/-- A response that carries nothing. -/
def bare (status : Nat) : HttpResponse := ⟨status, .empty⟩

/-- A response that carries a text. -/
def text (status : Nat) (text : String) : HttpResponse := ⟨status, .text text⟩

/-- A response that carries a value. -/
def json (status : Nat) (value : Json) : HttpResponse := ⟨status, .json value⟩

/-- The response without what it carries. -/
def stripped (response : HttpResponse) : HttpResponse := .bare response.status

/-- Whether a response tells of a failure. -/
def isFailure (response : HttpResponse) : Bool := 400 ≤ response.status

@[simp] theorem status_stripped (response : HttpResponse) :
    response.stripped.status = response.status := rfl

end HttpResponse

end Flotilla
