import Flotilla.Gateway
import Flotilla.Http.Service

/-!
# A gateway at work

A deployment is a gateway with a clock and a network. Time passes only when the clock
is moved. A channel that waits for an answer or for its next attempt has an alarm, which
is due once the clock has reached it. The network answers every attempt to connect at
once.

Between two happenings a deployment settles: channels that were set up begin, alarms
that are due go off, and every watcher is brought up to date. A channel that is set to
rest for no time at all would never come to an end with this, so the alarms go off in a
limited number of rounds.
-/

namespace Flotilla

/-- The way from the gateway to its servers. -/
structure Network where
  /-- Whether the resource of a name can be entered with a secret. -/
  admits : Uri → String → Bool

namespace Network

/-- No server is within reach. -/
def down : Network := ⟨fun _ _ => false⟩

/-- The answer to the attempt to connect among the effects of a channel, if there is one. -/
def answer? (network : Network) (effects : List Effect) : Option Signal :=
  effects.findSome? fun
    | .connect uri secret => some (if network.admits uri secret then .opened else .refused)
    | _ => none

end Network

/-- A gateway with a clock and a network. -/
structure Deployment where
  gateway : Gateway
  network : Network
  /-- The time since the gateway was set up. -/
  clock : Span
  /-- When the channel of each number is to be woken. -/
  alarms : Index Nat Span

namespace Deployment

/-- A new gateway in a network. Fails if there can be no such gateway. -/
def create? (settings : Settings) (network : Network) : Option Deployment :=
  (Gateway.create? settings).map fun gateway => ⟨gateway, network, ⟨0⟩, Index.empty⟩

/-- Sets the alarm of a channel. -/
def alarmAfter (d : Deployment) (number : Nat) (delay : Span) : Deployment :=
  { d with alarms := d.alarms.insert number (d.clock + delay) }

/-- Sets the alarm that an effect of a channel calls for. -/
def arm (number : Nat) (d : Deployment) : Effect → Deployment
  | .connect _ _ | .send _ => d.alarmAfter number d.gateway.fleet.settings.timeout
  | .sleep delay => d.alarmAfter number delay
  | .write _ | .publish _ | .show _ => d

/-- Something happens to the channel of a number, and its alarm is set as it wants. -/
def pass (d : Deployment) (now : Instant) (number : Nat) (signal : Signal) :
    List Effect × Deployment :=
  let (effects, gateway) := d.gateway.signal now number signal
  (effects, effects.foldl (arm number) { d with gateway := gateway })

/-- Something happens to the channel of a number. If the channel tries to connect, it is
told at once what comes of it, and that makes it ask or rest but not try again. -/
def signal (d : Deployment) (now : Instant) (number : Nat) (signal : Signal) : Deployment :=
  let (effects, d) := d.pass now number signal
  match d.network.answer? effects with
  | some answer => (d.pass now number answer).2
  | none => d

/-- The numbers of the channels that have not begun yet. -/
def waiting (d : Deployment) : List Nat :=
  d.gateway.fleet.channels.entries.filterMap fun entry =>
    match entry.2.activity with
    | .starting => some entry.1
    | _ => none

/-- Lets the channels begin that have not begun yet. -/
def begin (d : Deployment) (now : Instant) : Deployment :=
  d.waiting.foldl (fun d number => d.signal now number .start) d

/-- The channels whose alarms are due, the earliest alarm first. -/
def due (d : Deployment) : List Nat :=
  ((d.alarms.entries.filter fun alarm => alarm.2 ≤ d.clock).mergeSort
    fun a b => a.2 ≤ b.2).map (·.1)

/-- The alarm of a channel goes off. -/
def ring (now : Instant) (d : Deployment) (number : Nat) : Deployment :=
  { d with alarms := d.alarms.erase number }.signal now number .alarm

/-- Lets alarms go off until none is due, for so many rounds at most. -/
def ringAll (now : Instant) : Nat → Deployment → Deployment
  | 0, d => d
  | rounds + 1, d =>
    match d.due with
    | [] => d
    | due => ringAll now rounds (due.foldl (ring now) d)

/-- After so many rounds alarms that are still due are left for the next settling. -/
def maxRounds : Nat := 1000

/-- Lets everything happen that is to happen by now. -/
def settle (d : Deployment) (now : Instant) : Deployment :=
  let rested := ringAll now maxRounds (d.begin now)
  { rested with
    gateway := { rested.gateway with observatory := rested.gateway.observatory.settle } }

/-- Moves the clock. -/
def advance (d : Deployment) (span : Span) : Deployment := { d with clock := d.clock + span }

/-- A request comes in at the instant `now`: the answer to it, and the deployment after it. -/
def respond (d : Deployment) (now : Instant) (request : HttpRequest) :
    Option HttpResponse × Deployment :=
  let (response, gateway) := d.gateway.respond now request
  (response, { d with gateway := gateway })

end Deployment

end Flotilla
