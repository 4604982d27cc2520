import Flotilla.Authority
import Flotilla.Bus

/-!
# Subscriptions

A subscription hands a viewer the events that they may see. Behind it a forwarder
takes events off the bus one by one. If an event changed the roles of the viewer,
they are looked up again first. Then the event is judged by the roles of that
moment: a deletion and whatever concerns the whole fleet is always let through,
anything else needs a minimum role on its server. Events that are let through go
into a bounded queue; when the queue is full the forwarder holds on to the one
event and does nothing else until there is room.

Between two events the forwarder stands at a selection point, where a request to
look the roles up again goes before the next event. Requests do not pile up. A
forwarder that waits at the selection point takes a request at once, and beyond
that a single one is kept.

`Subscription.advance` is one move of the forwarder. It is told what the authority
answers at that moment, so that everything else may happen between two moves.
-/

namespace Flotilla

/-- Where a forwarder stands. -/
inductive Forwarder where
  /-- At the selection point; `parked` once it found nothing to do there. -/
  | selecting (parked : Bool)
  /-- Looking up roles, before it judges an event or because it was asked to. -/
  | loading (event : Option Event)
  /-- Holding an event that the queue has no room for. -/
  | holding (event : Event)
  /-- At the end of the bus. -/
  | finished
  deriving DecidableEq

/-- The filtered events of one viewer. -/
structure Subscription where
  viewer : ViewerId
  /-- The role needed to see the events of a server. -/
  minRole : Role
  /-- The roles that events are judged by. -/
  roles : Roles
  receiver : Receiver
  /-- Events let through and not yet taken. -/
  queue : List Event
  /-- How many events the queue has room for. -/
  capacity : Nat
  /-- A request that the parked forwarder was handed. -/
  granted : Bool
  /-- A request that is kept for the next visit to the selection point. -/
  stored : Bool
  forwarder : Forwarder

namespace Subscription

/-- The largest capacity a queue may be asked for. -/
def maxCapacity : Nat := Nat.pow 2 61 - 1

/-- A subscription of everything that a new receiver will receive. No queue has more
room than `maxCapacity` allows. -/
def create? (viewer : ViewerId) (minRole : Role) (roles : Roles) (capacity : Nat)
    (receiver : Receiver) : Option Subscription :=
  if capacity ≤ maxCapacity then
    some ⟨viewer, minRole, roles, receiver, [], max capacity 1, false, false, .selecting false⟩
  else none

/-- Whether the viewer may see an event, by the roles they hold now. -/
def admits (s : Subscription) (event : Event) : Bool :=
  event.kind = .deleted ||
    match event.server? with
    | none => true
    | some server => s.minRole ≤ s.roles.roleOn server

/-- The subscription with the roles that an answer of the authority leaves the viewer
with: a viewer without record has none, and without an answer nothing changes. -/
def learn (s : Subscription) : Except AuthorityError Roles → Subscription
  | .ok roles => { s with roles := roles }
  | .error (.unknownViewer _) => { s with roles := .empty }
  | .error (.unavailable _) => s

/-- Puts an event into the queue, or holds it if there is no room. -/
def offer (s : Subscription) (event : Event) : Subscription :=
  if s.queue.length < s.capacity then
    { s with queue := s.queue ++ [event], forwarder := .selecting false }
  else { s with forwarder := .holding event }

/-- Lets an event through or drops it. -/
def judge (s : Subscription) (event : Event) : Subscription :=
  if s.admits event then s.offer event else { s with forwarder := .selecting false }

/-- Deals with an event that was taken off the bus. -/
def consider (s : Subscription) (event : Event) : Subscription :=
  if event.affects s.viewer then { s with forwarder := .loading (some event) } else s.judge event

/-- The forwarder looks at the bus. -/
def receive (bus : Bus) (s : Subscription) (parked : Bool) : Option Subscription :=
  match bus.receive s.receiver with
  | (.event event, receiver) => some ({ s with receiver := receiver }.consider event)
  | (.lagged _, receiver) => some { s with receiver := receiver, forwarder := .selecting false }
  | (.empty, _) => if parked then none else some { s with forwarder := .selecting true }
  | (.closed, _) => some { s with forwarder := .finished }

/-- One move of the forwarder, or `none` if it has to wait. If it is looking up roles,
`answer` is what it is told. Where it waits for several things, it selects with a bias: one poll,
which looks in order what is ready and takes the first that is, is one move, and nobody else comes
in between. -/
def advance (bus : Bus) (answer : Except AuthorityError Roles) (s : Subscription) :
    Option Subscription :=
  match s.forwarder with
  | .selecting parked =>
    if s.granted then some { s with granted := false, forwarder := .loading none }
    else if s.stored then some { s with stored := false, forwarder := .loading none }
    else s.receive bus parked
  | .loading none => some { s.learn answer with forwarder := .selecting false }
  | .loading (some event) => some ((s.learn answer).judge event)
  | .holding event => if s.queue.length < s.capacity then some (s.offer event) else none
  | .finished => none

/-- Whether the next move asks the authority. -/
def isLoading (s : Subscription) : Bool :=
  match s.forwarder with
  | .loading _ => true
  | _ => false

/-- Asks the forwarder to look the roles up again. -/
def requestRefresh (s : Subscription) : Subscription :=
  if s.forwarder = .selecting true ∧ s.granted = false then { s with granted := true }
  else { s with stored := true }

/-- Takes the next event, if one is ready. -/
def take (s : Subscription) : Option (Event × Subscription) :=
  match s.queue with
  | [] => none
  | event :: rest => some (event, { s with queue := rest })

/-- Whether nothing more will come. -/
def isOver (s : Subscription) : Bool := s.forwarder = .finished && s.queue.isEmpty

/-- Up to `fuel` moves, each with the answer that the source gives at that moment. -/
def settleUpTo (bus : Bus) : Nat → RoleSource → Subscription → RoleSource × Subscription
  | 0, source, s => (source, s)
  | fuel + 1, source, s =>
    match s.advance bus (source.answer s.viewer) with
    | none => (source, s)
    | some next =>
      settleUpTo bus fuel (if s.isLoading then (source.load s.viewer).2 else source) next

/-- Moves the forwarder until it has to wait. An event costs three moves at most, and
beside them there are a lag, the requests and the arrival at the selection point. -/
def settle (bus : Bus) (source : RoleSource) (s : Subscription) : RoleSource × Subscription :=
  s.settleUpTo bus (4 * (bus.log.size - s.receiver.next) + 12) source

/-- Takes up to `max` events while the forwarder goes on. -/
def collect (bus : Bus) : Nat → RoleSource → Subscription →
    List Event × RoleSource × Subscription
  | 0, source, s => ([], source, s)
  | count + 1, source, s =>
    let (source, s) := s.settle bus source
    match s.take with
    | none => ([], source, s)
    | some (event, s) =>
      let (events, source, s) := s.collect bus count source
      (event :: events, source, s)

/-- More than the events that are left to take: those in the queue, those on the bus,
and one in the hands of the forwarder. -/
def backlog (bus : Bus) (s : Subscription) : Nat :=
  s.queue.length + (bus.log.size - s.receiver.next) + 2

end Subscription

end Flotilla
