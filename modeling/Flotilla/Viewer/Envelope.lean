import Flotilla.Event

/-!
# Envelopes

Everything on a viewer's socket travels in an envelope: a text that tells messages
apart, the kind of the message, a time and a payload. Viewers send commands and get
responses and errors under the text of the command; events come under texts of the
gateway's own making.
-/

namespace Flotilla

/-- The kinds of message on a viewer's socket. -/
inductive MessageKind where
  | command
  | response
  | event
  | error
  deriving DecidableEq

namespace MessageKind

/-- Every kind. -/
def all : List MessageKind := [.command, .response, .event, .error]

/-- The name of a kind. -/
def name : MessageKind → String
  | .command => "command"
  | .response => "response"
  | .event => "event"
  | .error => "error"

/-- The kind of a name. -/
def ofName? (s : String) : Option MessageKind := all.find? fun kind => kind.name = s

/-- The name of a kind in a JSON text. -/
def decode : Decoder MessageKind := Decoder.choice ofName?

end MessageKind

/-- A message on a viewer's socket. -/
structure Envelope where
  id : String
  kind : MessageKind
  time : Instant
  payload : Json

namespace Envelope

/-- An envelope as a JSON value. -/
def toJson (envelope : Envelope) : Json :=
  .record [("id", .str envelope.id), ("type", .str envelope.kind.name),
    ("timestamp", envelope.time.toJson), ("payload", envelope.payload)]

/-- The columns of a written envelope. -/
def columns : List Column :=
  [.required "id" Decoder.string, .required "type" MessageKind.decode,
    .required "timestamp" Instant.decode, .required "payload" Decoder.json]

/-- An envelope in a JSON text. -/
def decode : Decoder Envelope := fun depth tree => do
  let row ← Row.read columns depth tree
  return ⟨← row.required "id" Decoder.string, ← row.required "type" MessageKind.decode,
    ← row.required "timestamp" Instant.decode, ← row.required "payload" Decoder.json⟩

/-- The envelope of an event. -/
def ofEvent (id : String) (now : Instant) (event : Event) : Envelope :=
  ⟨id, .event, now, event.toJson⟩

/-- The answer to the command that came under `id`. -/
def response (id : String) (now : Instant) (payload : Json) : Envelope :=
  ⟨id, .response, now, payload⟩

/-- The report that the command that came under `id` failed. -/
def failure (id : String) (now : Instant) (code : Nat) (message : String) : Envelope :=
  ⟨id, .error, now, .record [("code", .nat code), ("message", .str message)]⟩

end Envelope

/-- What a viewer can ask for on a socket. -/
inductive Command where
  /-- To have the roles looked up again before the next event is judged. -/
  | refreshAuthorization
  /-- To be answered. -/
  | ping
  deriving DecidableEq

namespace Command

/-- The name of a command. -/
def name : Command → String
  | .refreshAuthorization => "refresh_authorization"
  | .ping => "ping"

/-- The command of a name. -/
def ofName? (s : String) : Option Command :=
  [refreshAuthorization, ping].find? fun command => command.name = s

/-- A command in a JSON text: a record tagged with the name. As an object it may have
other members, as an array nothing may follow the name. -/
def decode : Decoder Command := fun depth tree => do
  let tagged ← Tagged.read "command" ofName? depth tree
  match tagged.body with
  | .array (_ :: _) _ => .error .mismatch
  | _ => return tagged.kind

/-- The command that a payload holds: the payload is taken as it is kept, and not as a text. -/
def ofPayload? (payload : Json) : Option Command :=
  match payload with
  | .arr [.str name] => ofName? name
  | payload =>
    match payload.member? "command" with
    | some (.str name) => ofName? name
    | _ => none

/-- The payload that answers a command. -/
def answer : Command → Json
  | .refreshAuthorization => .record [("refresh_requested", .bool true)]
  | .ping => .record [("pong", .bool true)]

end Command

end Flotilla
