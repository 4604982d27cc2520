import Flotilla.Http.Message
import Flotilla.Text.Placeholder

/-!
# Taking over a connection

A viewer who wants to watch asks for the connection to be handed over to the socket
protocol. Four header fields have to say so, and they are looked at in a fixed order.
Last of all, the connection must be one that can be handed over.
-/

namespace Flotilla

/-- Why a connection is not handed over. -/
inductive HandshakeFault where
  /-- Only a plain read can ask for it. -/
  | method
  | connection
  | upgrade
  | key
  | version
  /-- The connection is none that can be handed over. -/
  | transport
  deriving DecidableEq

namespace HandshakeFault

/-- The status that a fault is answered with. -/
def status : HandshakeFault → Nat
  | .method => 405
  | .transport => 426
  | .connection | .upgrade | .key | .version => 400

/-- The wording of a fault. -/
def message : HandshakeFault → String
  | .method => "Request method must be \x60GET\x60"
  | .connection => "Connection header did not include 'upgrade'"
  | .upgrade => "\x60Upgrade\x60 header did not include 'websocket'"
  | .key => "\x60Sec-WebSocket-Key\x60 header missing"
  | .version => "\x60Sec-WebSocket-Version\x60 header did not include '13'"
  | .transport => "WebSocket request couldn't be upgraded since no upgrade state was present"

end HandshakeFault

namespace HttpRequest

/-- Whether the first value of a field is `wanted`, in either case. -/
def fieldIs (request : HttpRequest) (name wanted : String) : Bool :=
  match Header.first? request.headers name with
  | some value => Header.lower value = wanted
  | none => false

/-- Whether the first value of a field is a text that has `wanted` in it, in either case. -/
def fieldHas (request : HttpRequest) (name wanted : String) : Bool :=
  match (Header.first? request.headers name).bind Header.text? with
  | some value => Placeholder.occurs wanted.toList (Header.lower value).toList
  | none => false

/-- The name of the watcher whom the connection is handed over to. -/
def handshake (request : HttpRequest) : Except HandshakeFault String :=
  if request.method ≠ "GET" then .error .method
  else if request.fieldHas "connection" "upgrade" = false then .error .connection
  else if request.fieldIs "upgrade" "websocket" = false then .error .upgrade
  else if (Header.first? request.headers "sec-websocket-key").isNone then .error .key
  else if request.fieldIs "sec-websocket-version" "13" = false then .error .version
  else
    match request.handover with
    | some name => .ok name
    | none => .error .transport

end HttpRequest

end Flotilla
