import Flotilla.Event

/-!
# The event bus

A bus carries every event to every receiver. Publishing never waits. A receiver
takes events one by one, in the order in which they were published, starting with
the first one after it joined.

The bus holds on to a fixed number of the latest events. A receiver that is further
behind than that is told once how many events it lost, and goes on with the oldest
one that is still held. After the bus has closed, receivers take what is left and
then find it closed.
-/

namespace Flotilla

/-- Where a receiver has got to: the position of the next event it takes. -/
structure Receiver where
  next : Nat
  deriving DecidableEq

/-- A stream of events for any number of receivers. -/
structure Bus where
  /-- The name under which events are announced. -/
  name : String
  /-- How many of the latest events are held. -/
  slots : Nat
  /-- Everything published so far; an event's position is its index. -/
  log : Array Event
  /-- How many receivers there are. -/
  receivers : Nat
  isOpen : Bool

/-- What a receiver finds. -/
inductive Receipt where
  | event (event : Event)
  /-- So many events were lost. -/
  | lagged (missed : Nat)
  /-- Nothing yet. -/
  | empty
  /-- Nothing any more. -/
  | closed
  deriving DecidableEq

namespace Bus

/-- The largest capacity a bus may be asked for. -/
def maxCapacity : Nat := Nat.pow 2 63 - 1

/-- A new bus. It holds at least `capacity` events: the next power of two. No bus
holds more than `maxCapacity` allows. -/
def create? (name : String) (capacity : Nat) : Option Bus :=
  if capacity ≤ maxCapacity then
    some ⟨name, (max capacity 1).nextPowerOfTwo, #[], 0, true⟩
  else none

/-- Adds a receiver of everything published from now on. -/
def join (bus : Bus) : Receiver × Bus :=
  (⟨bus.log.size⟩, { bus with receivers := bus.receivers + 1 })

/-- Removes a receiver. -/
def leave (bus : Bus) : Bus := { bus with receivers := bus.receivers - 1 }

/-- Publishes an event, and tells how many receivers there are to take it. -/
def publish (bus : Bus) (event : Event) : Nat × Bus :=
  (bus.receivers, { bus with log := bus.log.push event })

/-- Closes the bus to publishers. -/
def close (bus : Bus) : Bus := { bus with isOpen := false }

/-- The position of the oldest event that is still held. -/
def oldest (bus : Bus) : Nat := bus.log.size - bus.slots

/-- What a receiver finds, and where it has got to afterwards. -/
def receive (bus : Bus) (receiver : Receiver) : Receipt × Receiver :=
  if receiver.next < bus.oldest then
    (.lagged (bus.oldest - receiver.next), ⟨bus.oldest⟩)
  else
    match bus.log[receiver.next]? with
    | some event => (.event event, ⟨receiver.next + 1⟩)
    | none => (if bus.isOpen then .empty else .closed, receiver)

/-- Takes everything that is waiting, for at most `fuel` receipts. -/
def drainUpTo (bus : Bus) : Nat → Receiver → List Receipt × Receiver
  | 0, receiver => ([], receiver)
  | fuel + 1, receiver =>
    match bus.receive receiver with
    | (.empty, receiver) => ([], receiver)
    | (.closed, receiver) => ([], receiver)
    | (receipt, receiver) =>
      let (receipts, receiver) := bus.drainUpTo fuel receiver
      (receipt :: receipts, receiver)

/-- Takes everything that is waiting. Each event gives one receipt at most, and a
lag one more. -/
def drain (bus : Bus) (receiver : Receiver) : List Receipt × Receiver :=
  bus.drainUpTo (bus.log.size + 1) receiver

@[simp] theorem log_publish (bus : Bus) (event : Event) :
    (bus.publish event).2.log = bus.log.push event := rfl

@[simp] theorem slots_publish (bus : Bus) (event : Event) :
    (bus.publish event).2.slots = bus.slots := rfl

@[simp] theorem log_join (bus : Bus) : bus.join.2.log = bus.log := rfl

end Bus

end Flotilla
