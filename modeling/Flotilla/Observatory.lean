import Flotilla.Subscription

/-!
# The observatory

The observatory is where viewers watch the fleet: a bus, the source of roles and
one subscription for each watcher. It goes by the names under which watchers are
known to it. A watcher who leaves gives up their place on the bus with the next
settling, not at once.
-/

namespace Flotilla

/-- The bus, the source of roles and the subscriptions that connect them. -/
structure Observatory where
  bus : Bus
  source : RoleSource
  /-- The role needed to see the events of a server. -/
  minRole : Role
  /-- How many events are queued for a watcher. -/
  queueCapacity : Nat
  watchers : Index String Subscription
  /-- Watchers who left since the last settling. -/
  departed : Nat

namespace Observatory

/-- An observatory without watchers. -/
def create (bus : Bus) (source : RoleSource) (minRole : Role) (queueCapacity : Nat) :
    Observatory :=
  ⟨bus, source, minRole, queueCapacity, Index.empty, 0⟩

/-- Admits a watcher who holds the given roles. Whoever went by the same name leaves.
Fails if the queues have more room than any queue may have. -/
def accept? (o : Observatory) (name : String) (viewer : ViewerId) (roles : Roles) :
    Option Observatory :=
  let (receiver, bus) := o.bus.join
  (Subscription.create? viewer o.minRole roles o.queueCapacity receiver).map fun watcher =>
    { o with
      bus := bus
      watchers := o.watchers.insert name watcher
      departed := if o.watchers.contains name then o.departed + 1 else o.departed }

/-- The roles of a viewer who comes to watch: what the source answers, or none. -/
def admission (o : Observatory) (viewer : ViewerId) : Roles × Observatory :=
  let (answer, source) := o.source.load viewer
  (match answer with
    | .ok roles => roles
    | .error _ => .empty,
    { o with source := source })

/-- A watcher leaves; tells whether they were there. -/
def drop (o : Observatory) (name : String) : Bool × Observatory :=
  if o.watchers.contains name then
    (true, { o with watchers := o.watchers.erase name, departed := o.departed + 1 })
  else (false, o)

/-- Asks for the roles of a watcher to be looked up again. -/
def requestRefresh (o : Observatory) (name : String) : Observatory :=
  match o.watchers.get? name with
  | some watcher => { o with watchers := o.watchers.insert name watcher.requestRefresh }
  | none => o

/-- Publishes events in order, and tells how many receivers there were for each. -/
def publish (o : Observatory) : List Event → List Nat × Observatory
  | [] => ([], o)
  | event :: rest =>
    let (delivered, bus) := o.bus.publish event
    let (counts, o) := { o with bus := bus }.publish rest
    (delivered :: counts, o)

/-- Puts a watcher's progress on record. A forwarder that came to the end of the bus
leaves it. -/
def record (o : Observatory) (name : String) (before after : Subscription) : Observatory :=
  { o with
    bus := if after.forwarder = .finished ∧ before.forwarder ≠ .finished then o.bus.leave else o.bus
    watchers := o.watchers.insert name after }

/-- Settles the watchers of a list in turn. -/
def settleAll (o : Observatory) : List (String × Subscription) → Observatory
  | [] => o
  | (name, watcher) :: rest =>
    let (source, settled) := watcher.settle o.bus o.source
    ({ o with source := source }.record name watcher settled).settleAll rest

/-- Lets every forwarder go on until it has to wait. -/
def settle (o : Observatory) : Observatory :=
  let rested :=
    { o with bus := { o.bus with receivers := o.bus.receivers - o.departed }, departed := 0 }
  rested.settleAll o.watchers.entries

/-- Takes up to `limit` events from a watcher's queue, or all that there are, while the
forwarder goes on; tells also whether it was found that nothing more will come. -/
def collect (o : Observatory) (name : String) (limit : Option Nat) :
    Option (List Event × Bool × Observatory) :=
  (o.watchers.get? name).map fun watcher =>
    let bound := watcher.backlog o.bus
    let count := (limit.map (min · bound)).getD bound
    let (events, source, rest) := watcher.collect o.bus count o.source
    (events, rest.isOver && decide (events.length < count),
      { o with source := source }.record name watcher rest)

/-- Closes the bus. -/
def close (o : Observatory) : Observatory := { o with bus := o.bus.close }

end Observatory

end Flotilla
