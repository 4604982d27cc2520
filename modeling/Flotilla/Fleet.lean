import Flotilla.Management.Channel

/-!
# The fleet

The fleet is the servers that are followed. Each of them has a channel of its own;
a server is followed at most once at a time. Channels are numbered in the order in
which they are set up. One that is not needed any more is cancelled and goes on by
itself until it is finished, which does not touch what is known of its server.

After the fleet has been shut down, channels can still be set up, but they are
cancelled from the beginning.
-/

namespace Flotilla

/-- A followed server, as it is listed. -/
structure Tracking where
  id : ServerId
  loader : Loader
  status : ChannelStatus
  deriving DecidableEq

/-- The servers that are followed, and what is known of them. -/
structure Fleet where
  settings : ChannelSettings
  store : StatusStore
  /-- Every channel that was ever set up, by number. -/
  channels : Index Nat Channel
  /-- The number of the channel of each followed server. -/
  tracked : Index ServerId Nat
  /-- Whether the fleet has been shut down. -/
  stopped : Bool

namespace Fleet

/-- No server is followed. -/
def create (settings : ChannelSettings) : Fleet :=
  ⟨settings, .empty, Index.empty, Index.empty, false⟩

/-- The channel of a followed server. -/
def channel? (fleet : Fleet) (id : ServerId) : Option Channel :=
  (fleet.tracked.get? id).bind fleet.channels.get?

/-- Whether a server has a channel that is not finished. -/
def isServed (fleet : Fleet) (id : ServerId) : Bool :=
  match fleet.channel? id with
  | some channel => !channel.isFinished
  | none => false

/-- The number that the next channel gets. -/
def nextNumber (fleet : Fleet) : Nat := fleet.channels.size

/-- Sets up a channel for a server, unless it is served already; tells which. -/
def track (fleet : Fleet) (server : Server) : Bool × Fleet :=
  if fleet.isServed server.id then (false, fleet)
  else
    (true,
      { fleet with
        channels := fleet.channels.insert fleet.nextNumber
          (Channel.create server fleet.settings fleet.stopped)
        tracked := fleet.tracked.insert server.id fleet.nextNumber })

/-- Writes down what a channel of a server wants written. -/
def record (server : ServerId) (store : StatusStore) : Effect → StatusStore
  | .write report => report.write server store
  | _ => store

/-- Something happens to the channel of a number. What the channel wants written is
written down; all that it does is returned. -/
def signal (fleet : Fleet) (number : Nat) (signal : Signal) : List Effect × Fleet :=
  match fleet.channels.get? number with
  | none => ([], fleet)
  | some channel =>
    let (next, effects) := channel.step signal
    (effects,
      { fleet with
        channels := fleet.channels.insert number next
        store := effects.foldl (record channel.server.id) fleet.store })

/-- Stops following a server; tells whether it was followed. What is known of it stays. -/
def untrack (fleet : Fleet) (id : ServerId) : Bool × Fleet :=
  match fleet.tracked.get? id with
  | none => (false, fleet)
  | some number =>
    (true, ({ fleet with tracked := fleet.tracked.erase id }.signal number .cancel).2)

/-- Forgets what is known of a server; tells whether anything was. -/
def invalidate (fleet : Fleet) (id : ServerId) : Bool × Fleet :=
  ((fleet.store.snapshot id).isSome, { fleet with store := fleet.store.invalidate id })

/-- The status of the channel of a followed server. -/
def status? (fleet : Fleet) (id : ServerId) : Option ChannelStatus :=
  (fleet.channel? id).map (·.status)

/-- The followed servers, by ascending identifier. -/
def list (fleet : Fleet) : List Tracking :=
  fleet.tracked.entries.filterMap fun entry =>
    (fleet.channels.get? entry.2).map fun channel =>
      ⟨entry.1, channel.server.loader, channel.status⟩

/-- Cancels the channels of some numbers. -/
def cancelAll (fleet : Fleet) (numbers : List Nat) : Fleet :=
  numbers.foldl (fun fleet number => (fleet.signal number .cancel).2) fleet

/-- Cancels every channel, those to come included. -/
def halt (fleet : Fleet) : Fleet := { fleet with stopped := true }.cancelAll fleet.channels.keys

/-- Stops following any server; the numbers are those of the channels that served them. -/
def drain (fleet : Fleet) : List Nat × Fleet :=
  (fleet.tracked.entries.map (·.2), { fleet with tracked := Index.empty })

/-- Begins to shut the fleet down. The numbers are those of the channels to wait for. -/
def shutdown (fleet : Fleet) : List Nat × Fleet := fleet.halt.drain

/-- Whether all channels of some numbers are finished. -/
def areFinished (fleet : Fleet) (numbers : List Nat) : Bool :=
  numbers.all fun number =>
    match fleet.channels.get? number with
    | some channel => channel.isFinished
    | none => true

@[simp] theorem tracked_signal (fleet : Fleet) (number : Nat) (signal : Signal) :
    (fleet.signal number signal).2.tracked = fleet.tracked := by
  unfold Fleet.signal
  split <;> rfl

@[simp] theorem tracked_invalidate (fleet : Fleet) (id : ServerId) :
    (fleet.invalidate id).2.tracked = fleet.tracked := rfl

@[simp] theorem store_invalidate (fleet : Fleet) (id : ServerId) :
    (fleet.invalidate id).2.store = fleet.store.invalidate id := rfl

@[simp] theorem store_track (fleet : Fleet) (server : Server) :
    (fleet.track server).2.store = fleet.store := by
  unfold track
  split <;> rfl

theorem track_of_isServed {fleet : Fleet} {server : Server} (h : fleet.isServed server.id = true) :
    fleet.track server = (false, fleet) := by
  simp [track, h]

end Fleet

end Flotilla
