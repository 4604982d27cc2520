import Flotilla.Backoff
import Flotilla.Management.Endpoint
import Flotilla.Role
import Flotilla.SocketAddress

/-!
# Settings

The gateway is set up by nine named texts, each of which may be missing. A number
that does not read as one counts as missing; every other text has to be right. The
texts are checked in a fixed order, and the first one that is wrong is reported,
along with what is wrong about it.
-/

namespace Flotilla

/-- What a channel to a server needs to know. -/
structure ChannelSettings where
  /-- The endpoint of a server, with a place for its identifier. -/
  template : String
  /-- How long an answer may take. -/
  timeout : Span
  backoff : BackoffPolicy
  deriving DecidableEq

/-- How the gateway is set up. -/
structure Settings where
  listen : SocketAddress
  busCapacity : Nat
  /-- The name under which events are announced. -/
  channelName : String
  template : String
  timeout : Span
  queueCapacity : Nat
  /-- The role needed to see the events of a server. -/
  minRole : Role
  backoff : BackoffPolicy

/-- Why the gateway cannot be set up. -/
inductive SettingsError where
  | listen
  /-- The template has no place for the identifier. -/
  | template (text : String)
  | zeroTimeout
  | minRole (fault : UnknownRole)
  | backoff (error : BackoffError)
  deriving DecidableEq

namespace SettingsError

/-- The wording of an error, and of what caused it. -/
def chain : SettingsError → List String
  | .listen => ["LISTEN_ADDR is not a socket address", "invalid socket address syntax"]
  | .template text => ["MANAGEMENT_URL_TEMPLATE must contain \x7bid\x7d: " ++ text]
  | .zeroTimeout => ["MANAGEMENT_REQUEST_TIMEOUT_SECS must be at least 1"]
  | .minRole fault => ["MIN_VIEWING_ROLE", fault.message]
  | .backoff error =>
    ["RECONNECT_BACKOFF_STEPS / RECONNECT_BACKOFF_CEILING_SECS", error.message]

/-- The wording of an error. -/
def message (error : SettingsError) : String := error.chain.headD ""

end SettingsError

namespace Settings

/-- The address to listen on, unless another one is given. -/
def usualListen : String := "0.0.0.0:3000"

/-- The name under which events are announced, unless another one is given. -/
def usualChannelName : String := "fleet-updates"

/-- The template of endpoints, unless another one is given. -/
def usualTemplate : String := "ws://instance-\x7bid\x7d:25585"

/-- Numbers stay below this bound. -/
def bound : Nat := Nat.pow 2 64

/-- The number of a text, or `usual` if it is missing or no number in bounds. -/
def number (text : Option String) (usual : Nat) : Nat :=
  (text.bind fun s => Digits.readSigned? bound s.toList).getD usual

/-- The settings that named texts describe. -/
def read (lookup : String → Option String) : Except SettingsError Settings := do
  let listen ←
    match SocketAddress.parse? ((lookup "LISTEN_ADDR").getD usualListen) with
    | some address => .ok address
    | none => .error .listen
  let busCapacity := number (lookup "EVENT_BUS_CAPACITY") 10000
  let channelName := (lookup "EVENT_CHANNEL_NAME").getD usualChannelName
  let template := (lookup "MANAGEMENT_URL_TEMPLATE").getD usualTemplate
  if Endpoint.isTemplate template = false then throw (.template template)
  let timeout := number (lookup "MANAGEMENT_REQUEST_TIMEOUT_SECS") 10
  if timeout = 0 then throw .zeroTimeout
  let queueCapacity := number (lookup "OBSERVER_QUEUE_CAPACITY") 256
  let minRole ←
    match lookup "MIN_VIEWING_ROLE" with
    | none => .ok Role.user
    | some name => (Role.parse name).mapError .minRole
  let steps := (lookup "RECONNECT_BACKOFF_STEPS").getD BackoffPolicy.usualText
  let ceiling := number (lookup "RECONNECT_BACKOFF_CEILING_SECS") 60
  let backoff ← (BackoffPolicy.parse steps (.ofSeconds ceiling)).mapError .backoff
  return ⟨listen, busCapacity, channelName, template, .ofSeconds timeout, queueCapacity, minRole,
    backoff⟩

/-- What the channels to the servers need of the settings. -/
def channel (settings : Settings) : ChannelSettings :=
  ⟨settings.template, settings.timeout, settings.backoff⟩

/-- The endpoint of a server. -/
def endpointOf (settings : Settings) (server : ServerId) : String :=
  Endpoint.ofTemplate settings.template server

end Settings

end Flotilla
