import Flotilla.Observatory
import Flotilla.Viewer.Envelope

/-!
# Viewer sockets

A socket connects one viewer with their subscription. Every text of the viewer gets
one reply: an answer or an error under the text's own name, or an error without name
if the text is no envelope. Every event of the subscription goes out in an envelope
of its own. Frames of other kinds are passed over. The socket closes when the viewer
leaves, when nothing more will come from the subscription, or when a frame cannot be
sent any more; a command that was read by then has taken effect.

`Socket.step` takes what happens at a socket to its next state and to what the socket
does, in order.
-/

namespace Flotilla

/-- A viewer's socket. -/
inductive Socket where
  | opened
  /-- Closed for good. -/
  | closed
  deriving DecidableEq

/-- What happens at a socket. -/
inductive SocketSignal where
  /-- The viewer sends a text. -/
  | text (text : String)
  /-- The viewer sends a frame of another kind. -/
  | other
  /-- The viewer leaves, or the connection breaks. -/
  | departure
  /-- The subscription has an event, to be sent under the given text. -/
  | event (id : String) (event : Event)
  /-- Nothing more will come from the subscription. -/
  | exhausted

/-- What a socket does. -/
inductive SocketEffect where
  | send (envelope : Envelope)
  /-- Asks the subscription to have the roles looked up again. -/
  | requestRefresh

namespace Socket

/-- The code of the error that a text gets that is no envelope. -/
def malformed : Nat := 400

/-- The code of the error that an envelope gets that holds no known command. -/
def unknown : Nat := 404

/-- The command that a text of a viewer gives, if it gives one, and the reply to it. -/
def reply (now : Instant) (text : String) : Option Command × Envelope :=
  match decodeText Envelope.decode text with
  | .error _ => (none, .failure "" now malformed "malformed JSON")
  | .ok envelope =>
    match Command.ofPayload? envelope.payload with
    | some command => (some command, .response envelope.id now command.answer)
    | none => (none, .failure envelope.id now unknown "unknown command")

/-- What a socket does for a command before it answers. -/
def effects : Option Command → List SocketEffect
  | some .refreshAuthorization => [.requestRefresh]
  | some .ping | none => []

/-- Sends a frame, or closes if frames cannot be sent any more. -/
def send (intact : Bool) (envelope : Envelope) : Socket × List SocketEffect :=
  if intact then (.opened, [.send envelope]) else (.closed, [])

/-- What happens at a socket at the instant `now` takes it to its next state, and makes it
do something; `intact` tells whether frames can still be sent. -/
def step (now : Instant) (intact : Bool) : Socket → SocketSignal → Socket × List SocketEffect
  | .closed, _ => (.closed, [])
  | .opened, .text text =>
    let (command, envelope) := reply now text
    let (socket, sent) := send intact envelope
    (socket, effects command ++ sent)
  | .opened, .other => (.opened, [])
  | .opened, .departure => (.closed, [])
  | .opened, .event id event => send intact (.ofEvent id now event)
  | .opened, .exhausted => (.closed, [])

@[simp] theorem step_closed (now : Instant) (intact : Bool) (signal : SocketSignal) :
    Socket.closed.step now intact signal = (.closed, []) := by
  cases signal <;> rfl

end Socket

namespace Observatory

/-- A watcher sends a text: the reply to it, and the observatory after it. -/
def hear (o : Observatory) (now : Instant) (name text : String) : Envelope × Observatory :=
  match Socket.reply now text with
  | (some .refreshAuthorization, envelope) => (envelope, o.requestRefresh name)
  | (_, envelope) => (envelope, o)

end Observatory

end Flotilla
