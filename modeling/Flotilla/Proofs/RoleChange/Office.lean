import Flotilla.Gateway
import Flotilla.Proofs.Run

/-!
# How role changes are made

A role change is made in two steps: it is recorded with the authority first, and told on
the bus afterwards. Between the two anything else may happen, other role changes included.
An office is the authority and the bus, with the changes that are recorded and not yet told.
The two ways in which the gateway changes roles are runs of an office.
-/

namespace Flotilla

namespace Authority

/-- The roles of a viewer, none if they are not on record. -/
def rolesOf (authority : Authority) (viewer : ViewerId) : Roles :=
  (authority.viewers.get? viewer).getD .empty

end Authority

/-- A change of the roles of a viewer. -/
inductive RoleChange where
  | grant (viewer : ViewerId) (server : ServerId) (role : Role)
  | revoke (viewer : ViewerId)
  deriving DecidableEq

namespace RoleChange

/-- Whose roles change. -/
def viewer : RoleChange → ViewerId
  | .grant viewer .. => viewer
  | .revoke viewer => viewer

/-- The authority with the change on record. -/
def record (authority : Authority) : RoleChange → Authority
  | .grant viewer server role => authority.grant viewer server role
  | .revoke viewer => (authority.revoke viewer).2

/-- Whether the change is told once it is recorded. Nobody is told that a viewer was struck
off who was not on record. -/
def IsTold (authority : Authority) : RoleChange → Prop
  | .grant .. => True
  | .revoke viewer => (authority.revoke viewer).1 = true

instance (authority : Authority) (change : RoleChange) : Decidable (change.IsTold authority) := by
  cases change <;> unfold IsTold <;> infer_instance

/-- How the change is told. -/
def event (now : Instant) : RoleChange → Event
  | .grant viewer server _ => ⟨.updated (some server) (some [viewer]), now⟩
  | .revoke viewer => ⟨.updated none (some [viewer]), now⟩

/-- The event of a change lists the one viewer whose roles change. -/
@[simp] theorem affects_event (change : RoleChange) (now : Instant) (viewer : ViewerId) :
    (change.event now).affects viewer = true ↔ change.viewer = viewer := by
  cases change <;> simp [event, Event.affects, Event.affected, RoleChange.viewer, eq_comm]

/-- A change leaves the roles of everybody else. -/
theorem rolesOf_record_of_ne {change : RoleChange} {viewer : ViewerId}
    (h : change.viewer ≠ viewer) (authority : Authority) :
    (change.record authority).rolesOf viewer = authority.rolesOf viewer := by
  have hne : viewer ≠ change.viewer := fun heq => h heq.symm
  cases change with
  | grant v server role =>
      simp only [RoleChange.viewer] at hne
      simp [record, Authority.grant, Authority.rolesOf, hne]
  | revoke v =>
      simp only [RoleChange.viewer] at hne
      simp [record, Authority.revoke, Authority.rolesOf, hne]

/-- A change that is not told changes nothing. -/
theorem rolesOf_record_of_not_isTold {change : RoleChange} {authority : Authority}
    (h : ¬ change.IsTold authority) (viewer : ViewerId) :
    (change.record authority).rolesOf viewer = authority.rolesOf viewer := by
  cases change with
  | grant v server role => exact absurd trivial h
  | revoke v =>
      have habsent : authority.viewers.get? v = none := by
        simpa [IsTold, Authority.revoke, Index.contains] using h
      by_cases hv : viewer = v
      · subst hv
        simp [record, Authority.revoke, Authority.rolesOf, habsent]
      · simp [record, Authority.revoke, Authority.rolesOf, hv]

end RoleChange

/-- The authority and the bus, with the changes that are on record and not yet told. -/
structure Office where
  authority : Authority
  bus : Bus
  untold : List RoleChange

namespace Office

/-- What may happen in an office. -/
inductive Move where
  | record (change : RoleChange)
  /-- Somebody tells a change that was recorded before. -/
  | tell (change : RoleChange) (now : Instant)
  /-- Somebody publishes an event of their own. -/
  | publish (event : Event)
  | close

/-- One move, or `none` if it cannot be made. Nobody tells a change that is not on record. -/
def step : Move → Office → Option Office
  | .record change, o =>
    some
      { o with
        authority := change.record o.authority
        untold := if change.IsTold o.authority then change :: o.untold else o.untold }
  | .tell change now, o =>
    if change ∈ o.untold ∧ o.bus.isOpen = true then
      some
        { o with
          bus := (o.bus.publish (change.event now)).2
          untold := o.untold.erase change }
    else none
  | .publish event, o =>
    if o.bus.isOpen then some { o with bus := (o.bus.publish event).2 } else none
  | .close, o => some { o with bus := o.bus.close }

/-- Moves made one after the other. -/
abbrev Run : Office → List Move → Office → Prop := Flotilla.Run step

end Office

namespace Gateway

/-- The office of a gateway at rest: every change on record has been told. -/
def office (g : Gateway) : Office := ⟨g.authority, g.observatory.bus, []⟩

variable {g : Gateway}

/-- A grant is recorded and then told. -/
theorem run_grant (isOpen : g.observatory.bus.isOpen = true) (now : Instant) (viewer : ViewerId)
    (server : ServerId) (role : Role) :
    Office.Run g.office
      [.record (.grant viewer server role), .tell (.grant viewer server role) now]
      (g.grant now viewer server role).office := by
  apply run?_iff.mp
  simp [run?, Office.step, office, RoleChange.IsTold, isOpen]
  exact ⟨rfl, rfl⟩

/-- A revocation is recorded and then told if the viewer was on record. -/
theorem run_revoke (isOpen : g.observatory.bus.isOpen = true) (now : Instant) (viewer : ViewerId)
    (known : (g.revoke now viewer).1 = true) :
    Office.Run g.office [.record (.revoke viewer), .tell (.revoke viewer) now]
      (g.revoke now viewer).2.office := by
  have htold : (g.authority.revoke viewer).1 = true := by
    unfold revoke at known
    simp only at known
    split at known
    next h => exact h
    next => simp at known
  apply run?_iff.mp
  simp [run?, Office.step, office, RoleChange.IsTold, isOpen, htold, revoke]
  exact ⟨rfl, rfl⟩

end Gateway

end Flotilla
