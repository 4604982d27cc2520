import Flotilla.Instant
import Flotilla.Role
import Flotilla.Status

/-!
# Events

Everything that happens to the fleet is told as an event: a server appears, is
reconfigured or disappears, or one of its lists changes. A reconfiguration may
concern the whole fleet and then names no server. The first three kinds may list
the viewers whose roles changed along with them; such a viewer has to look their
roles up again before the event is judged for them.

An event may be written without its time, in which case it happens when it is read.
-/

namespace Flotilla

/-- The kinds of event. -/
inductive EventKind where
  | created
  | updated
  | deleted
  | playersChanged
  | banListChanged
  deriving DecidableEq

namespace EventKind

/-- Every kind. -/
def all : List EventKind := [.created, .updated, .deleted, .playersChanged, .banListChanged]

/-- The name of a kind. -/
def name : EventKind → String
  | .created => "created"
  | .updated => "updated"
  | .deleted => "deleted"
  | .playersChanged => "players_changed"
  | .banListChanged => "ban_list_changed"

/-- The kind of a name. -/
def ofName? (s : String) : Option EventKind := all.find? fun kind => kind.name = s

/-- The name of a kind as a JSON value. -/
def toJson (kind : EventKind) : Json := .str kind.name

/-- The name of a kind in a JSON text. -/
def decode : Decoder EventKind := Decoder.choice ofName?

theorem ofName?_name (kind : EventKind) : ofName? kind.name = some kind := by
  cases kind <;> rfl

end EventKind

/-- What changed. Where the roles of viewers changed too, these viewers are listed. -/
inductive Change where
  | created (server : ServerId) (affected : Option (List ViewerId))
  /-- A server was reconfigured, or the whole fleet. -/
  | updated (server : Option ServerId) (affected : Option (List ViewerId))
  | deleted (server : ServerId) (affected : Option (List ViewerId))
  | playersChanged (server : ServerId) (players : List Player)
  | banListChanged (server : ServerId) (bans : List Ban)
  deriving DecidableEq

/-- A change and its time. -/
structure Event where
  change : Change
  time : Instant
  deriving DecidableEq

namespace Event

/-- The kind of an event. -/
def kind (event : Event) : EventKind :=
  match event.change with
  | .created .. => .created
  | .updated .. => .updated
  | .deleted .. => .deleted
  | .playersChanged .. => .playersChanged
  | .banListChanged .. => .banListChanged

/-- The server that an event concerns; an event without one concerns the fleet. -/
def server? (event : Event) : Option ServerId :=
  match event.change with
  | .created server _ => some server
  | .updated server _ => server
  | .deleted server _ => some server
  | .playersChanged server _ => some server
  | .banListChanged server _ => some server

/-- The viewers whose roles changed with an event. -/
def affected (event : Event) : List ViewerId :=
  match event.change with
  | .created _ affected => affected.getD []
  | .updated _ affected => affected.getD []
  | .deleted _ affected => affected.getD []
  | .playersChanged .. => []
  | .banListChanged .. => []

/-- Whether an event changed the roles of a viewer. -/
def affects (event : Event) (viewer : ViewerId) : Bool := event.affected.contains viewer

/-- The written list of affected viewers, if one is given. -/
def affectedMember (affected : Option (List ViewerId)) : List (String × Json) :=
  Json.given "affected_observers" (affected.map fun viewers => .arr (viewers.map Id.toJson))

/-- The members of a written event between its kind and its time. -/
def changeMembers : Change → List (String × Json)
  | .created server affected => ("instance_id", server.toJson) :: affectedMember affected
  | .updated server affected =>
    Json.given "instance_id" (server.map Id.toJson) ++ affectedMember affected
  | .deleted server affected => ("instance_id", server.toJson) :: affectedMember affected
  | .playersChanged server players =>
    [("instance_id", server.toJson), ("players", .arr (players.map Player.toJson))]
  | .banListChanged server bans =>
    [("instance_id", server.toJson), ("bans", .arr (bans.map Ban.toJson))]

/-- An event as a JSON value. -/
def toJson (event : Event) : Json :=
  .record (("type", event.kind.toJson) ::
    (changeMembers event.change ++ [("timestamp", event.time.toJson)]))

/-- A list of viewers in a JSON text. -/
def decodeViewers : Decoder (List ViewerId) := Decoder.list Id.decode

/-- The columns of a written event behind its kind. -/
def columns (kind : EventKind) : List Column :=
  let server : Column := .required "instance_id" (Id.decode : Decoder ServerId)
  let affected : Column := .defaulted "affected_observers" (Decoder.optional decodeViewers)
  let time : Column := .defaulted "timestamp" Instant.decode
  match kind with
  | .created | .deleted => [server, affected, time]
  | .updated =>
    [.defaulted "instance_id" (Decoder.optional (Id.decode : Decoder ServerId)), affected, time]
  | .playersChanged => [server, .required "players" (Decoder.list Player.decode), time]
  | .banListChanged => [server, .required "bans" (Decoder.list Ban.decode), time]

/-- The change that the columns of a written event describe. -/
def readChange (kind : EventKind) (row : Row) : Except Fault Change := do
  match kind with
  | .created =>
    return .created (← row.required "instance_id" Id.decode)
      (← row.optional "affected_observers" decodeViewers)
  | .updated =>
    return .updated (← row.optional "instance_id" Id.decode)
      (← row.optional "affected_observers" decodeViewers)
  | .deleted =>
    return .deleted (← row.required "instance_id" Id.decode)
      (← row.optional "affected_observers" decodeViewers)
  | .playersChanged =>
    return .playersChanged (← row.required "instance_id" Id.decode)
      (← row.required "players" (Decoder.list Player.decode))
  | .banListChanged =>
    return .banListChanged (← row.required "instance_id" Id.decode)
      (← row.required "bans" (Decoder.list Ban.decode))

/-- An event in a JSON text that is read at the instant `now`. -/
def decode (now : Instant) : Decoder Event := fun depth tree => do
  let tagged ← Tagged.read "type" EventKind.ofName? depth tree
  let row ← Tagged.row (columns tagged.kind) tagged.body
  return ⟨← readChange tagged.kind row, ← row.defaulted "timestamp" Instant.decode now⟩

end Event

end Flotilla
