import Flotilla.Event
import Flotilla.Management.Connection
import Flotilla.Server
import Flotilla.Settings

/-!
# Status channels

A channel follows one server. It connects to the endpoint of the server, asks for the
players and the bans, and asks again whenever the server announces that one of them
changed. Each list it gets is written down and then published. A server that answers
the first question for its bans with an error may do so; any other failure ends the
session, and the channel rests as long as the policy says before it tries again.

A channel runs until it is cancelled. It notices that before and during an attempt,
while it listens and while it rests. A question that is under way is still answered,
and what comes of it written and published, before the channel looks.

`Channel.step` takes what happens to a channel to its next state and to what the
channel does, in order.
-/

namespace Flotilla

/-- How a channel stands to its server. -/
inductive ConnectionState where
  | disconnected
  | connecting
  | connected
  deriving DecidableEq

namespace ConnectionState

/-- The name of a state. -/
def name : ConnectionState → String
  | .disconnected => "disconnected"
  | .connecting => "connecting"
  | .connected => "connected"

end ConnectionState

/-- What can be seen of a channel from outside. -/
structure ChannelStatus where
  state : ConnectionState
  /-- Failures since the last attempt that succeeded. -/
  failures : Nat
  /-- The delay before the next attempt. -/
  backoff : Span
  deriving DecidableEq

/-- A list that a server reported. -/
inductive Report where
  | players (list : List Player)
  | bans (list : List Ban)
  deriving DecidableEq

namespace Report

/-- The change that a report tells of. -/
def change (report : Report) (server : ServerId) : Change :=
  match report with
  | .players list => .playersChanged server list
  | .bans list => .banListChanged server list

/-- Writes a report down. -/
def write (report : Report) (server : ServerId) (store : StatusStore) : StatusStore :=
  match report with
  | .players list => store.setPlayers server list
  | .bans list => store.setBans server list

end Report

/-- What a channel asks a server for, and on which occasion. -/
inductive Errand where
  /-- The players, at the beginning of a session. -/
  | seedPlayers
  /-- The bans, at the beginning of a session. -/
  | seedBans
  | players
  | bans
  deriving DecidableEq

namespace Errand

/-- The method that is asked for. -/
def method : Errand → String
  | .seedPlayers | .players => Request.playersMethod
  | .seedBans | .bans => Request.bansMethod

/-- The report that a result holds. -/
def report? (errand : Errand) (result : Json) : Option Report :=
  match errand with
  | .seedPlayers | .players =>
    (decodeText (Decoder.list Player.decode) result.text).toOption.map .players
  | .seedBans | .bans => (decodeText (Decoder.list Ban.decode) result.text).toOption.map .bans

/-- The errand that an announcement calls for. -/
def ofNotification? : Notification → Option Errand
  | .playersJoined | .playersLeft => some .players
  | .bansAdded | .bansRemoved => some .bans
  | _ => none

end Errand

/-- What a channel is doing. -/
inductive Activity where
  /-- It has been set up and has done nothing yet. -/
  | starting
  /-- An attempt to connect is under way. -/
  | connecting
  /-- A question is under way. -/
  | asking (connection : Connection) (awaiting : Connection.Awaiting) (errand : Errand)
  /-- It waits for an announcement. -/
  | listening (connection : Connection)
  /-- It waits for the next attempt. -/
  | resting
  | finished

/-- What happens to a channel. -/
inductive Signal where
  /-- It may begin. -/
  | start
  /-- The attempt to connect succeeds. -/
  | opened
  /-- The attempt to connect fails. -/
  | refused
  | arrival (arrival : Arrival)
  /-- The time is over for which it waits: for an answer, or before the next attempt. -/
  | alarm
  | cancel

/-- What a channel does. -/
inductive Effect where
  | connect (uri : Uri) (secret : String)
  | send (request : Request)
  /-- Writes a report down. -/
  | write (report : Report)
  /-- Publishes a report. -/
  | publish (report : Report)
  /-- Shows its status. -/
  | show (status : ChannelStatus)
  | sleep (delay : Span)

/-- A channel to one server. -/
structure Channel where
  server : Server
  settings : ChannelSettings
  reconnect : Reconnect
  cancelled : Bool
  /-- The status that was shown last. -/
  status : ChannelStatus
  activity : Activity

namespace Channel

/-- A channel that has not begun. -/
def create (server : Server) (settings : ChannelSettings) (cancelled : Bool) : Channel :=
  let reconnect := Reconnect.start settings.backoff
  ⟨server, settings, reconnect, cancelled, ⟨.disconnected, 0, reconnect.backoff⟩, .starting⟩

/-- The endpoint that a channel connects to. -/
def endpoint (c : Channel) : String := Endpoint.ofTemplate c.settings.template c.server.id

/-- Whether a channel has come to its end. -/
def isFinished (c : Channel) : Bool :=
  match c.activity with
  | .finished => true
  | _ => false

/-- The status of a channel in a given state. -/
def statusIn (c : Channel) (state : ConnectionState) : ChannelStatus :=
  ⟨state, c.reconnect.failures, c.reconnect.backoff⟩

/-- Shows a state and goes on to another activity. -/
def enter (c : Channel) (state : ConnectionState) (activity : Activity) :
    Channel × List Effect :=
  ({ c with status := c.statusIn state, activity := activity }, [.show (c.statusIn state)])

/-- Does something first and goes on. -/
def after (effects : List Effect) (next : Channel × List Effect) : Channel × List Effect :=
  (next.1, effects ++ next.2)

/-- The channel comes to its end. -/
def finish (c : Channel) : Channel × List Effect := c.enter .disconnected .finished

/-- The attempt or the session has failed: the channel rests, unless it is cancelled. -/
def fail (c : Channel) : Channel × List Effect :=
  let c := { c with reconnect := c.reconnect.fail c.settings.backoff }
  let (c, shown) := c.enter .disconnected .resting
  if c.cancelled then after shown c.finish else (c, shown ++ [.sleep c.reconnect.backoff])

/-- The channel tries to connect, unless it is cancelled. -/
def attempt (c : Channel) : Channel × List Effect :=
  let (c, shown) := c.enter .connecting .connecting
  if c.cancelled then after shown c.finish
  else
    match Endpoint.resolve c.endpoint c.server.secret with
    | .ok uri => (c, shown ++ [.connect uri c.server.secret])
    | .error _ => after shown c.fail

/-- The channel asks the server for something. -/
def ask (c : Channel) (connection : Connection) (errand : Errand) : Channel × List Effect :=
  let (request, awaiting, connection) := connection.send errand.method
  ({ c with activity := .asking connection awaiting errand }, [.send request])

/-- The channel goes through the announcements that are waiting, up to the first one that
calls for an errand. Before each of them it looks whether it is cancelled. -/
def listenTo (c : Channel) (connection : Connection) : List Notification → Channel × List Effect
  | [] =>
    if c.cancelled then c.finish
    else ({ c with activity := .listening { connection with pending := [] } }, [])
  | notification :: rest =>
    if c.cancelled then c.finish
    else
      match Errand.ofNotification? notification with
      | some errand => c.ask { connection with pending := rest } errand
      | none => c.listenTo connection rest

/-- The channel listens for announcements. -/
def listen (c : Channel) (connection : Connection) : Channel × List Effect :=
  c.listenTo connection connection.pending

/-- The channel goes on after an errand. -/
def goOn (c : Channel) (connection : Connection) : Errand → Channel × List Effect
  | .seedPlayers => c.ask connection .seedBans
  | .seedBans | .players | .bans => c.listen connection

/-- The channel deals with the answer to a question. -/
def conclude (c : Channel) (connection : Connection) (errand : Errand) :
    Except ConnectionError Json → Channel × List Effect
  | .ok result =>
    match errand.report? result with
    | some report => after [.write report, .publish report] (c.goOn connection errand)
    | none => c.fail
  | .error (.remote _ _) => if errand = .seedBans then c.listen connection else c.fail
  | .error _ => c.fail

/-- Something arrives while a question is under way. -/
def hear (c : Channel) (connection : Connection) (awaiting : Connection.Awaiting)
    (errand : Errand) (arrival : Arrival) : Channel × List Effect :=
  match connection.await awaiting arrival with
  | (some outcome, connection) => c.conclude connection errand outcome
  | (none, connection) => ({ c with activity := .asking connection awaiting errand }, [])

/-- Something arrives while the channel listens. -/
def notice (c : Channel) (connection : Connection) (arrival : Arrival) : Channel × List Effect :=
  match connection.listen arrival with
  | some (.ok notification) => c.listen { connection with pending := [notification] }
  | some (.error _) => c.fail
  | none => (c, [])

/-- The attempt to connect has succeeded: the channel asks for the players first. -/
def begin (c : Channel) : Channel × List Effect :=
  let c := { c with reconnect := Reconnect.start c.settings.backoff }
  let (c, shown) := c.enter .connected .connecting
  after shown (c.ask (Connection.opened c.settings.timeout) .seedPlayers)

/-- The channel is told that it is not needed any more. -/
def cancel (c : Channel) : Channel × List Effect :=
  let c := { c with cancelled := true }
  match c.activity with
  | .connecting | .listening _ | .resting => c.finish
  | .starting | .asking .. | .finished => (c, [])

/-- What happens to a channel takes it to its next state, and makes it do something. Where it waits,
it selects with a bias between its cancellation, which comes first, and what else it waits for. One
poll of such a wait, the look at the cancellation together with what is found ready after it, is one
move: nobody comes in between. -/
def step (c : Channel) (signal : Signal) : Channel × List Effect :=
  match signal, c.activity with
  | .cancel, _ => c.cancel
  | .start, .starting => c.attempt
  | .opened, .connecting => c.begin
  | .refused, .connecting => c.fail
  | .alarm, .connecting => c.fail
  | .alarm, .resting => c.attempt
  | .alarm, .asking connection awaiting errand => c.hear connection awaiting errand .deadline
  | .arrival arrival, .asking connection awaiting errand =>
    c.hear connection awaiting errand arrival
  | .arrival arrival, .listening connection => c.notice connection arrival
  | _, _ => (c, [])

/-- What a sequence of happenings takes a channel to, and all that the channel does. -/
def run (c : Channel) : List Signal → Channel × List Effect
  | [] => (c, [])
  | signal :: rest =>
    let (c, effects) := c.step signal
    after effects (c.run rest)

@[simp] theorem run_nil (c : Channel) : c.run [] = (c, []) := rfl

theorem run_append (c : Channel) (first second : List Signal) :
    c.run (first ++ second) =
      after (c.run first).2 ((c.run first).1.run second) := by
  induction first generalizing c with
  | nil => simp [after]
  | cons signal rest ih => simp [run, ih, after, List.append_assoc]

end Channel

end Flotilla
