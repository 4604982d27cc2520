import Flotilla.Id

/-!
# Live status

What the servers last reported of themselves: who is playing and who is banned.
Either list may be unknown, which is not the same as empty. A report replaces one
list and keeps the other, and what is known of a server stays known, whether the
server is still followed or not, until it is invalidated.
-/

namespace Flotilla

/-- A player, as a server reports them. -/
structure Player where
  id : String
  name : String
  deriving DecidableEq

namespace Player

/-- A player as a JSON value. -/
def toJson (player : Player) : Json :=
  .record [("id", .str player.id), ("name", .str player.name)]

/-- A player in a JSON text. -/
def decode : Decoder Player := fun depth tree => do
  let row ← Row.read [.required "id" Decoder.string, .required "name" Decoder.string] depth tree
  return ⟨← row.required "id" Decoder.string, ← row.required "name" Decoder.string⟩

end Player

/-- An entry of a ban list. -/
structure Ban where
  player : Player
  reason : Option String
  /-- Who issued the ban. -/
  source : Option String
  /-- When the ban ends, in the words of the server. -/
  expires : Option String
  deriving DecidableEq

/-- A member that is left out if it has no value. -/
def Json.given (name : String) : Option Json → List (String × Json)
  | some value => [(name, value)]
  | none => []

namespace Ban

/-- The columns of a written ban. -/
def columns : List Column :=
  [.required "player" Player.decode, .defaulted "reason" (Decoder.optional Decoder.string),
    .defaulted "source" (Decoder.optional Decoder.string),
    .defaulted "expires" (Decoder.optional Decoder.string)]

/-- A ban as a JSON value. What is not known of it is left out. -/
def toJson (ban : Ban) : Json :=
  .record ([("player", ban.player.toJson)] ++ Json.given "reason" (ban.reason.map .str) ++
    Json.given "source" (ban.source.map .str) ++ Json.given "expires" (ban.expires.map .str))

/-- A ban in a JSON text. -/
def decode : Decoder Ban := fun depth tree => do
  let row ← Row.read columns depth tree
  return ⟨← row.required "player" Player.decode, ← row.optional "reason" Decoder.string,
    ← row.optional "source" Decoder.string, ← row.optional "expires" Decoder.string⟩

end Ban

/-- The lists that a server reports. -/
inductive StatusKey where
  | players
  | bans
  deriving DecidableEq

/-- A name that no list has. -/
structure UnknownStatusKey where
  name : String
  deriving DecidableEq

namespace UnknownStatusKey

/-- The wording of the fault. -/
def message (fault : UnknownStatusKey) : String := "unknown status key: " ++ fault.name

end UnknownStatusKey

namespace StatusKey

/-- Every list. -/
def all : List StatusKey := [.players, .bans]

/-- The name of a list. -/
def name : StatusKey → String
  | .players => "players"
  | .bans => "bans"

/-- The list of exactly this name. -/
def ofName? (s : String) : Option StatusKey := all.find? fun key => key.name = s

/-- The list of a name. -/
def parse (s : String) : Except UnknownStatusKey StatusKey :=
  match ofName? s with
  | some key => .ok key
  | none => .error ⟨s⟩

/-- The name of a list as a JSON value. -/
def toJson (key : StatusKey) : Json := .str key.name

/-- The name of a list in a JSON text. -/
def decode : Decoder StatusKey := Decoder.choice ofName?

theorem ofName?_name (key : StatusKey) : ofName? key.name = some key := by
  cases key <;> rfl

end StatusKey

/-- What is known of one server. -/
structure Status where
  players : Option (List Player)
  bans : Option (List Ban)
  deriving DecidableEq

namespace Status

/-- Nothing is known. -/
def unknown : Status := ⟨none, none⟩

/-- One list as a JSON value, if it is known. -/
def get? (status : Status) : StatusKey → Option Json
  | .players => status.players.map fun players => .arr (players.map Player.toJson)
  | .bans => status.bans.map fun bans => .arr (bans.map Ban.toJson)

/-- A status as a JSON value; unknown lists are `null`. -/
def toJson (status : Status) : Json :=
  .record [("players", (status.get? .players).getD .null),
    ("bans", (status.get? .bans).getD .null)]

end Status

/-- What is known of every server. -/
structure StatusStore where
  entries : Index ServerId Status
  deriving DecidableEq

namespace StatusStore

/-- Nothing is known of any server. -/
def empty : StatusStore := ⟨Index.empty⟩

/-- What is known of a server, if anything is. -/
def snapshot (store : StatusStore) (server : ServerId) : Option Status :=
  store.entries.get? server

/-- One list of a server, if it is known. -/
def get? (store : StatusStore) (server : ServerId) (key : StatusKey) : Option Json :=
  (store.snapshot server).bind fun status => status.get? key

/-- Changes what is known of a server. -/
def update (store : StatusStore) (server : ServerId) (change : Status → Status) : StatusStore :=
  ⟨store.entries.insert server (change ((store.snapshot server).getD .unknown))⟩

/-- Records the players of a server. -/
def setPlayers (store : StatusStore) (server : ServerId) (players : List Player) : StatusStore :=
  store.update server fun status => { status with players := some players }

/-- Records the bans of a server. -/
def setBans (store : StatusStore) (server : ServerId) (bans : List Ban) : StatusStore :=
  store.update server fun status => { status with bans := some bans }

/-- Forgets what is known of a server. -/
def invalidate (store : StatusStore) (server : ServerId) : StatusStore :=
  ⟨store.entries.erase server⟩

/-- Of how many servers anything is known. -/
def size (store : StatusStore) : Nat := store.entries.size

/-- Whether nothing is known of any server. -/
def isEmpty (store : StatusStore) : Bool := store.entries.isEmpty

@[simp] theorem snapshot_empty (server : ServerId) : empty.snapshot server = none := rfl

@[simp] theorem snapshot_update (store : StatusStore) (server s : ServerId)
    (change : Status → Status) :
    (store.update server change).snapshot s =
      if s = server then some (change ((store.snapshot server).getD .unknown))
      else store.snapshot s :=
  Index.get?_insert _ _ _ _

@[simp] theorem snapshot_invalidate (store : StatusStore) (server s : ServerId) :
    (store.invalidate server).snapshot s = if s = server then none else store.snapshot s :=
  Index.get?_erase _ _ _

end StatusStore

end Flotilla
