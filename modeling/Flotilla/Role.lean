import Flotilla.Id

/-!
# Roles

A viewer holds one role on each server, from none at all up to full control, and
roles are ordered by what they permit. The roles of a viewer are kept as an index
of the servers on which a role is recorded; a server that is not recorded carries
no role. Setting a role to none removes its entry, while a text that is read is
taken as it stands, entries of no role included.
-/

namespace Flotilla

/-- What a viewer may do on a server. -/
inductive Role where
  /-- Nothing. -/
  | none
  /-- Watch the server. -/
  | user
  /-- Moderate its players. -/
  | moderator
  /-- Everything. -/
  | admin
  deriving DecidableEq

/-- A name that no role has. -/
structure UnknownRole where
  name : String
  deriving DecidableEq

namespace UnknownRole

/-- The wording of the fault. -/
def message (fault : UnknownRole) : String := "unknown role: " ++ fault.name

end UnknownRole

namespace Role

/-- Every role, by ascending privilege. -/
def all : List Role := [.none, .user, .moderator, .admin]

/-- The place of a role among all roles. -/
def rank : Role → Nat
  | .none => 0
  | .user => 1
  | .moderator => 2
  | .admin => 3

instance : LE Role := ⟨fun a b => a.rank ≤ b.rank⟩

instance : LT Role := ⟨fun a b => a.rank < b.rank⟩

instance : DecidableLE Role := fun a b => inferInstanceAs (Decidable (a.rank ≤ b.rank))

instance : DecidableLT Role := fun a b => inferInstanceAs (Decidable (a.rank < b.rank))

/-- The name of a role. -/
def name : Role → String
  | .none => "none"
  | .user => "user"
  | .moderator => "moderator"
  | .admin => "admin"

/-- The role of exactly this name. -/
def ofName? (s : String) : Option Role := all.find? fun role => role.name = s

/-- The role of a name, in either case of ASCII letters. -/
def parse (s : String) : Except UnknownRole Role :=
  match ofName? (String.ofList (s.toList.map Char.toLower)) with
  | some role => .ok role
  | Option.none => .error ⟨s⟩

/-- Roles by ascending privilege. -/
def ascending (roles : List Role) : List Role := roles.mergeSort fun a b => a ≤ b

/-- The highest of some roles. -/
def highest? (roles : List Role) : Option Role := (ascending roles).getLast?

/-- A role as a JSON value. -/
def toJson (role : Role) : Json := .str role.name

/-- A role in a JSON text; its case counts. -/
def decode : Decoder Role := Decoder.choice ofName?

/-- A role as the only column of a record. -/
def decodeGrant : Decoder Role := fun depth tree => do
  let row ← Row.read [.required "role" decode] depth tree
  row.required "role" decode

@[simp] theorem le_iff (a b : Role) : a ≤ b ↔ a.rank ≤ b.rank := Iff.rfl

theorem ofName?_name (role : Role) : ofName? role.name = some role := by
  cases role <;> rfl

theorem parse_name (role : Role) : parse role.name = .ok role := by
  cases role <;> rfl

end Role

/-- The roles of one viewer. -/
structure Roles where
  /-- The servers on which a role is recorded. -/
  entries : Index ServerId Role
  deriving DecidableEq

namespace Roles

/-- No role anywhere. -/
def empty : Roles := ⟨Index.empty⟩

/-- The role held on a server. -/
def roleOn (roles : Roles) (server : ServerId) : Role :=
  (roles.entries.get? server).getD .none

/-- The roles with another role on one server. -/
def set (roles : Roles) (server : ServerId) (role : Role) : Roles :=
  if role = .none then ⟨roles.entries.erase server⟩ else ⟨roles.entries.insert server role⟩

/-- The roles of a list, set in order. -/
def ofList (pairs : List (ServerId × Role)) : Roles :=
  pairs.foldl (fun roles pair => roles.set pair.1 pair.2) empty

/-- On how many servers a role is recorded. -/
def size (roles : Roles) : Nat := roles.entries.size

/-- Whether no role is recorded at all. -/
def isEmpty (roles : Roles) : Bool := roles.entries.isEmpty

/-- Roles as a JSON value. -/
def toJson (roles : Roles) : Json :=
  .record [("roles",
    .record (roles.entries.entries.map fun entry => (entry.1.text, entry.2.toJson)))]

/-- Recorded roles in a JSON text, in the order of the text. -/
def decodeEntries : Decoder (List (ServerId × Role)) :=
  Decoder.entries Id.parse? Role.decode

/-- Roles in a JSON text; of two entries of one server the later counts. -/
def decode : Decoder Roles := fun depth tree => do
  let row ← Row.read [.required "roles" decodeEntries] depth tree
  return ⟨Index.ofList (← row.required "roles" decodeEntries)⟩

@[simp] theorem roleOn_empty (server : ServerId) : empty.roleOn server = .none := rfl

@[simp] theorem roleOn_set (roles : Roles) (server s : ServerId) (role : Role) :
    (roles.set server role).roleOn s = if s = server then role else roles.roleOn s := by
  unfold set roleOn
  split
  · next h =>
    subst h
    simp only [Index.get?_erase]
    split <;> rfl
  · simp only [Index.get?_insert]
    split <;> rfl

end Roles

end Flotilla
