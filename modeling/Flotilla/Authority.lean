import Flotilla.Role

/-!
# The authority on roles

The authority knows the roles of every viewer. Its records are kept in memory: a
viewer is on record from the first grant on, whatever role was granted, until they
are revoked. Whoever asks may also find the authority out of reach; a `RoleSource`
is an authority as it is seen from outside, with its outages, and counts how often
it was asked.
-/

namespace Flotilla

/-- Why the roles of a viewer cannot be had. -/
inductive AuthorityError where
  /-- The viewer is not on record. -/
  | unknownViewer (viewer : ViewerId)
  /-- The authority is out of reach. -/
  | unavailable (reason : String)
  deriving DecidableEq

namespace AuthorityError

/-- The wording of an error. -/
def message : AuthorityError → String
  | .unknownViewer viewer => "unknown viewer: " ++ viewer.text
  | .unavailable reason => "authorization source unavailable: " ++ reason

end AuthorityError

/-- The roles of every viewer on record. -/
structure Authority where
  viewers : Index ViewerId Roles
  deriving DecidableEq

namespace Authority

/-- No viewer is on record. -/
def empty : Authority := ⟨Index.empty⟩

/-- Sets the role of a viewer on a server. The viewer is on record afterwards, even
if the role is none. -/
def grant (authority : Authority) (viewer : ViewerId) (server : ServerId) (role : Role) :
    Authority :=
  ⟨authority.viewers.insert viewer
    (((authority.viewers.get? viewer).getD .empty).set server role)⟩

/-- Strikes a viewer off the record, and tells whether they were on it. -/
def revoke (authority : Authority) (viewer : ViewerId) : Bool × Authority :=
  (authority.viewers.contains viewer, ⟨authority.viewers.erase viewer⟩)

/-- The roles of a viewer. -/
def load (authority : Authority) (viewer : ViewerId) : Except AuthorityError Roles :=
  match authority.viewers.get? viewer with
  | some roles => .ok roles
  | none => .error (.unknownViewer viewer)

end Authority

/-- An authority as it is seen from outside. -/
structure RoleSource where
  authority : Authority
  /-- Why the authority is out of reach, if it is. -/
  outage : Option String
  /-- How often it was asked. -/
  loads : Nat

namespace RoleSource

/-- An authority within reach that nobody has asked yet. -/
def ofAuthority (authority : Authority) : RoleSource := ⟨authority, none, 0⟩

/-- The answer to a question for the roles of a viewer. -/
def answer (source : RoleSource) (viewer : ViewerId) : Except AuthorityError Roles :=
  match source.outage with
  | some reason => .error (.unavailable reason)
  | none => source.authority.load viewer

/-- Asks for the roles of a viewer. -/
def load (source : RoleSource) (viewer : ViewerId) :
    Except AuthorityError Roles × RoleSource :=
  (source.answer viewer, { source with loads := source.loads + 1 })

end RoleSource

end Flotilla
