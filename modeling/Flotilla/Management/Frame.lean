import Flotilla.Json.Decoder
import Flotilla.Json.Printer
import Flotilla.Text.Split

/-!
# Management frames

The gateway and the servers exchange JSON texts. A request carries a number, a
method and perhaps parameters. What a server sends is an answer to the request of
a number, a result or an error, or else it announces on its own what happened; the
presence of the number and the method tells which. A member that is `null` counts
as missing.

The method of an announcement is a domain, a colon, `notification/` and a category
with an action. Any domain will do, and other methods are announcements too, which
nobody has to understand.
-/

namespace Flotilla

/-- What a server announces. -/
inductive Notification where
  | playersJoined
  | playersLeft
  | bansAdded
  | bansRemoved
  | serverSaving
  | serverSaved
  | serverStarted
  | serverStopping
  /-- Something else, by its method. -/
  | unrecognized (method : String)
  deriving DecidableEq

namespace Notification

/-- The announcements that are understood, by category and action. -/
def known : List (String × Notification) :=
  [("players/joined", .playersJoined), ("players/left", .playersLeft),
    ("bans/added", .bansAdded), ("bans/removed", .bansRemoved),
    ("server/saving", .serverSaving), ("server/saved", .serverSaved),
    ("server/started", .serverStarted), ("server/stopping", .serverStopping)]

/-- The category and the action of a method. -/
def action? (method : List Char) : Option (List Char) := do
  let (_, rest) ← Split.first ':' method
  Split.after? "notification/".toList rest

/-- The announcement of a method. -/
def ofMethod (method : String) : Notification :=
  match (action? method.toList).bind fun action =>
    known.find? fun entry => entry.1.toList = action with
  | some entry => entry.2
  | none => .unrecognized method

end Notification

/-- What the gateway asks of a server. -/
structure Request where
  /-- The number that the answer will carry. -/
  id : Nat
  method : String
  params : Option Json

namespace Request

/-- A request as a JSON value. -/
def toJson (request : Request) : Json :=
  .record ([("jsonrpc", .str "2.0"), ("id", .nat request.id), ("method", .str request.method)] ++
    (request.params.map fun params => ("params", params)).toList)

/-- The text that a request is sent as. -/
def text (request : Request) : String := request.toJson.text

/-- The method that answers with the players. -/
def playersMethod : String := "minecraft:players"

/-- The method that answers with the bans. -/
def bansMethod : String := "minecraft:bans"

end Request

/-- What a server sends. -/
inductive Frame where
  /-- The result of the request with this number. -/
  | response (id : Nat) (result : Json)
  /-- The error that the request with this number led to. -/
  | failure (id : Nat) (error : Json)
  | notification (notification : Notification)

/-- Why a frame is not understood. -/
inductive FrameError where
  /-- It is no JSON, or JSON of the wrong shape. -/
  | malformed
  /-- It has a number and a method, as if the server asked something of the gateway. -/
  | request (method : String)
  /-- It has neither. -/
  | anonymous
  /-- It is no text. -/
  | binary
  deriving DecidableEq

namespace FrameError

/-- The wording of an error. -/
def message : FrameError → String
  | .malformed => "malformed frame"
  | .request method => "unexpected request " ++ method ++ " from instance"
  | .anonymous => "frame has neither id nor method"
  | .binary => "unexpected binary frame"

end FrameError

namespace Frame

/-- The numbers of requests stay below this bound. -/
def idBound : Nat := Nat.pow 2 64

/-- The members of a frame that matter. -/
structure Members where
  id : Option Nat
  method : Option String
  result : Option Json
  error : Option Json

/-- The columns of a frame. -/
def columns : List Column :=
  [.defaulted "id" (Decoder.optional (Decoder.natural idBound)),
    .defaulted "method" (Decoder.optional Decoder.string),
    .defaulted "result" (Decoder.optional Decoder.json),
    .defaulted "error" (Decoder.optional Decoder.json)]

/-- The members of a frame in a JSON text. -/
def decodeMembers : Decoder Members := fun depth tree => do
  let row ← Row.read columns depth tree
  return ⟨← row.optional "id" (Decoder.natural idBound), ← row.optional "method" Decoder.string,
    ← row.optional "result" Decoder.json, ← row.optional "error" Decoder.json⟩

/-- What the members of a frame say. -/
def ofMembers (members : Members) : Except FrameError Frame :=
  match members.id, members.method with
  | some id, none =>
    match members.error with
    | some error => .ok (.failure id error)
    | none => .ok (.response id (members.result.getD .null))
  | none, some method => .ok (.notification (.ofMethod method))
  | some _, some method => .error (.request method)
  | none, none => .error .anonymous

/-- The frame that a text holds. -/
def decode (text : String) : Except FrameError Frame :=
  match decodeText decodeMembers text with
  | .ok members => ofMembers members
  | .error _ => .error .malformed

/-- The frame of a text is what its members say, once its surface is read. -/
theorem decode_eq_ofMembers {text : String} {tree : Tree} {members : Members}
    (read : Document.read text.toList = ⟨tree, true⟩)
    (decoded : decodeMembers maxDepth tree = .ok members) :
    decode text = ofMembers members := by
  rw [decode, decodeText, read, decoded]
  rfl

end Frame

end Flotilla
