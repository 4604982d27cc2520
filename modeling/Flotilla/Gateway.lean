import Flotilla.Fleet
import Flotilla.Observatory

/-!
# The gateway

The gateway brings the fleet and its watchers together: what the channels of the
fleet find out is published on the bus that the watchers are subscribed to. Both are
set up from the same settings.
-/

namespace Flotilla

/-- The fleet and those who watch it. -/
structure Gateway where
  fleet : Fleet
  observatory : Observatory

namespace Gateway

/-- A gateway that follows no server and that nobody watches. Fails if the bus would hold
more events than any bus can. -/
def create? (settings : Settings) : Option Gateway :=
  (Bus.create? settings.channelName settings.busCapacity).map fun bus =>
    ⟨.create settings.channel,
      .create bus (.ofAuthority .empty) settings.minRole settings.queueCapacity⟩

/-- Publishes an event. -/
def publish (g : Gateway) (event : Event) : Nat × Gateway :=
  let (delivered, bus) := g.observatory.bus.publish event
  (delivered, { g with observatory := { g.observatory with bus := bus } })

/-- Lets something happen to the authority. -/
def withAuthority (g : Gateway) (authority : Authority) : Gateway :=
  { g with
    observatory :=
      { g.observatory with source := { g.observatory.source with authority := authority } } }

/-- The authority on the roles of the watchers. -/
def authority (g : Gateway) : Authority := g.observatory.source.authority

/-- Sets the role of a viewer on a server, and tells everybody. -/
def grant (g : Gateway) (now : Instant) (viewer : ViewerId) (server : ServerId) (role : Role) :
    Gateway :=
  let recorded := g.withAuthority (g.authority.grant viewer server role)
  (recorded.publish ⟨.updated (some server) (some [viewer]), now⟩).2

/-- Strikes a viewer off the record, and tells everybody; tells whether they were on it. -/
def revoke (g : Gateway) (now : Instant) (viewer : ViewerId) : Bool × Gateway :=
  let (known, authority) := g.authority.revoke viewer
  if known then
    (true, ((g.withAuthority authority).publish ⟨.updated none (some [viewer]), now⟩).2)
  else (false, g)

/-- Publishes what a channel of a server wants published. -/
def relay (now : Instant) (server : ServerId) (g : Gateway) : Effect → Gateway
  | .publish report => (g.publish ⟨report.change server, now⟩).2
  | _ => g

/-- Something happens to the channel of a number. -/
def signal (g : Gateway) (now : Instant) (number : Nat) (signal : Signal) :
    List Effect × Gateway :=
  match g.fleet.channels.get? number with
  | none => ([], g)
  | some channel =>
    let (effects, fleet) := g.fleet.signal number signal
    (effects, effects.foldl (relay now channel.server.id) { g with fleet := fleet })

@[simp] theorem fleet_publish (g : Gateway) (event : Event) :
    (g.publish event).2.fleet = g.fleet := rfl

@[simp] theorem authority_publish (g : Gateway) (event : Event) :
    (g.publish event).2.authority = g.authority := rfl

@[simp] theorem fleet_grant (g : Gateway) (now : Instant) (viewer : ViewerId)
    (server : ServerId) (role : Role) : (g.grant now viewer server role).fleet = g.fleet := rfl

@[simp] theorem authority_grant (g : Gateway) (now : Instant) (viewer : ViewerId)
    (server : ServerId) (role : Role) :
    (g.grant now viewer server role).authority = g.authority.grant viewer server role := rfl

end Gateway

end Flotilla
