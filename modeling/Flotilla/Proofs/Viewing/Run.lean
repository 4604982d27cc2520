import Flotilla.Proofs.Watch.Run
import Flotilla.Viewer.Socket

/-!
# Runs of a viewing

A viewing is a watch whose reader is the socket of a viewer, together with all that the socket has
done. Publishers, the viewer, the forwarder and the socket move in any order. Nothing decides which
of a waiting text and a waiting event the socket deals with first, and it may turn out with any
frame that frames cannot be sent any more. A forwarder stops when its socket closes.

What a socket does is done in turns, one for each text that it reads and one for each event that it
takes. `Steps` says so once, and no other proof looks into a move.
-/

namespace Flotilla

/-- A watch, the socket that reads it, and what the socket has done. -/
structure Viewing where
  watch : Watch
  socket : Socket
  deeds : List SocketEffect

namespace Watch

/-- What an effect of the socket does to the watch. -/
def obey (w : Watch) : SocketEffect → Watch
  | .requestRefresh => { w with subscription := w.subscription.requestRefresh }
  | .send _ => w

/-- The watch after something has come to the socket, or `none` if it cannot come. Events and the
end come from the subscription, everything else comes from the viewer. -/
def supply (w : Watch) : SocketSignal → Option Watch
  | .text _ | .other | .departure => some w
  | .event _ event => if w.subscription.queue.head? = some event then step .take w else none
  | .exhausted => if w.subscription.isOver then some w else none

end Watch

namespace Viewing

/-- A turn of a socket: a reply, or news of an event under a name. -/
inductive Turn where
  | reply (now : Instant) (text : String)
  | news (now : Instant) (id : String) (event : Event)

namespace Turn

/-- The instant of a turn. -/
def now : Turn → Instant
  | .reply now _ | .news now _ _ => now

/-- What the socket is met with. -/
def signal : Turn → SocketSignal
  | .reply _ text => .text text
  | .news _ id event => .event id event

/-- The frame that goes out. -/
def frame : Turn → Envelope
  | .reply now text => (Socket.reply now text).2
  | .news now id event => .ofEvent id now event

/-- What is done before the frame goes out. -/
def before : Turn → List SocketEffect
  | .reply now text => Socket.effects (Socket.reply now text).1
  | .news .. => []

/-- All that is done. -/
def deeds (turn : Turn) : List SocketEffect := turn.before ++ [.send turn.frame]

/-- The text that is replied to. -/
@[simp] def text? : Turn → Option (Instant × String)
  | .reply now text => some (now, text)
  | .news .. => none

/-- The event that is passed on. -/
@[simp] def event? : Turn → Option Event
  | .reply .. => none
  | .news _ _ event => some event

end Turn

/-- The viewing of a subscription that has just been taken out. -/
def open? (bus : Bus) (viewer : ViewerId) (minRole : Role) (roles : Roles) (capacity : Nat) :
    Option Viewing :=
  (Watch.open? bus viewer minRole roles capacity).map fun watch => ⟨watch, .opened, []⟩

/-- What may happen to a viewing. -/
inductive Move where
  | publish (event : Event)
  | close
  | forward (answer : Except AuthorityError Roles)
  /-- Something comes to the socket; `intact` tells whether frames can be sent. -/
  | meet (now : Instant) (intact : Bool) (signal : SocketSignal)

/-- One move, or `none` if it cannot be made. -/
def step : Move → Viewing → Option Viewing
  | .publish event, v => (v.watch.step (.publish event)).map fun watch => { v with watch := watch }
  | .close, v => (v.watch.step .close).map fun watch => { v with watch := watch }
  | .forward answer, v =>
    if v.socket = .opened then
      (v.watch.step (.forward answer)).map fun watch => { v with watch := watch }
    else none
  | .meet now intact signal, v =>
    if v.socket = .opened then
      (v.watch.supply signal).map fun watch =>
        let (socket, effects) := v.socket.step now intact signal
        ⟨effects.foldl Watch.obey watch, socket, v.deeds ++ effects⟩
    else none

/-- Moves made one after the other. -/
abbrev Run : Viewing → List Move → Viewing → Prop := Flotilla.Run step

/-- All that a move can do to a viewing. -/
inductive Steps (v : Viewing) : Move → Viewing → Prop where
  | publish {event watch} (stepped : v.watch.step (.publish event) = some watch) :
      Steps v (.publish event) { v with watch := watch }
  | close {watch} (stepped : v.watch.step .close = some watch) :
      Steps v .close { v with watch := watch }
  | forward {answer watch} (opened : v.socket = .opened)
      (stepped : v.watch.step (.forward answer) = some watch) :
      Steps v (.forward answer) { v with watch := watch }
  | serve {turn : Turn} {watch} (opened : v.socket = .opened)
      (supplied : v.watch.supply turn.signal = some watch) :
      Steps v (.meet turn.now true turn.signal)
        ⟨turn.before.foldl Watch.obey watch, .opened, v.deeds ++ turn.deeds⟩
  | fail {turn : Turn} {watch} (opened : v.socket = .opened)
      (supplied : v.watch.supply turn.signal = some watch) :
      Steps v (.meet turn.now false turn.signal)
        ⟨turn.before.foldl Watch.obey watch, .closed, v.deeds ++ turn.before⟩
  | skip {now intact} (opened : v.socket = .opened) : Steps v (.meet now intact .other) v
  | leave {now intact} (opened : v.socket = .opened) :
      Steps v (.meet now intact .departure) { v with socket := .closed }
  | exhaust {now intact} (opened : v.socket = .opened)
      (ended : v.watch.subscription.isOver = true) :
      Steps v (.meet now intact .exhausted) { v with socket := .closed }

variable {v t : Viewing} {move : Move} {moves : List Move}

theorem socket_step_turn (turn : Turn) (intact : Bool) :
    Socket.opened.step turn.now intact turn.signal =
      if intact then (.opened, turn.deeds) else (.closed, turn.before) := by
  cases turn <;> cases intact <;> simp [Socket.step, Socket.send, Turn.now, Turn.signal, Turn.deeds,
    Turn.before, Turn.frame]

theorem steps_of_turn {intact : Bool} (turn : Turn) {watch : Watch} (opened : v.socket = .opened)
    (supplied : v.watch.supply turn.signal = some watch) :
    Steps v (.meet turn.now intact turn.signal)
      ⟨(v.socket.step turn.now intact turn.signal).2.foldl Watch.obey watch,
        (v.socket.step turn.now intact turn.signal).1,
        v.deeds ++ (v.socket.step turn.now intact turn.signal).2⟩ := by
  rw [opened, socket_step_turn]
  cases intact with
  | true => simpa [Turn.deeds, Watch.obey] using Steps.serve opened supplied
  | false => exact .fail opened supplied

theorem steps_of_step (h : step move v = some t) : Steps v move t := by
  cases move with
  | publish event =>
      simp only [step, Option.map_eq_some_iff] at h
      obtain ⟨watch, stepped, rfl⟩ := h
      exact .publish stepped
  | close =>
      simp only [step, Option.map_eq_some_iff] at h
      obtain ⟨watch, stepped, rfl⟩ := h
      exact .close stepped
  | forward answer =>
      simp only [step] at h
      split at h
      next opened =>
        obtain ⟨watch, stepped, rfl⟩ := Option.map_eq_some_iff.mp h
        exact .forward opened stepped
      next => simp at h
  | meet now intact signal =>
      simp only [step] at h
      split at h
      next opened =>
        obtain ⟨watch, supplied, rfl⟩ := Option.map_eq_some_iff.mp h
        cases signal with
        | text text => exact steps_of_turn (.reply now text) opened supplied
        | event id event => exact steps_of_turn (.news now id event) opened supplied
        | other =>
            obtain ⟨_, socket, deeds⟩ := v
            obtain rfl : socket = .opened := opened
            obtain rfl := Option.some.inj supplied
            simpa [Socket.step] using Steps.skip rfl
        | departure =>
            obtain rfl := Option.some.inj supplied
            simpa [opened, Socket.step] using Steps.leave opened
        | exhausted =>
            rw [Watch.supply] at supplied
            split at supplied
            next ended =>
              obtain rfl := Option.some.inj supplied
              simpa [opened, Socket.step] using Steps.exhaust opened ended
            next => simp at supplied
      next => simp at h

section Watching

/-- What a move does to the watch. -/
def Move.watching : Move → List Watch.Move
  | .publish event => [.publish event]
  | .close => [.close]
  | .forward answer => [.forward answer]
  | .meet now _ (.text text) =>
    if (Socket.reply now text).1 = some .refreshAuthorization then [.refresh] else []
  | .meet _ _ (.event ..) => [.take]
  | .meet .. => []

theorem run_effects (w : Watch) (command : Option Command) :
    Watch.Run w (if command = some .refreshAuthorization then [.refresh] else [])
      ((Socket.effects command).foldl Watch.obey w) := by
  cases command with
  | none => exact .nil w
  | some command =>
      cases command with
      | refreshAuthorization => exact .cons rfl (.nil _)
      | ping => exact .nil w

theorem watching_news (now : Instant) (intact : Bool) {id : String} {event : Event} {w x : Watch}
    (supplied : w.supply (.event id event) = some x) :
    Watch.Run w (Move.watching (.meet now intact (.event id event))) x ∧
      x.taken = w.taken ++ [event] := by
  rw [Watch.supply] at supplied
  split at supplied
  next ready =>
    refine ⟨.cons supplied (.nil x), ?_⟩
    cases Watch.steps_of_step supplied with
    | take queue =>
        obtain rfl : _ = event := by simpa [queue] using ready
        rfl
  next => simp at supplied

/-- The watch of a viewing makes a run of its own. -/
theorem Steps.watching (steps : Steps v move t) : Watch.Run v.watch move.watching t.watch := by
  cases steps with
  | publish stepped => exact .cons stepped (.nil _)
  | close stepped => exact .cons stepped (.nil _)
  | forward _ stepped => exact .cons stepped (.nil _)
  | @serve turn _ _ supplied | @fail turn _ _ supplied =>
      cases turn with
      | reply =>
          obtain rfl := Option.some.inj supplied
          exact run_effects _ _
      | news => exact (watching_news _ _ supplied).1
  | skip | leave | exhaust => exact .nil _

theorem Run.watching (run : Run v moves t) :
    Watch.Run v.watch (moves.flatMap Move.watching) t.watch := by
  induction run with
  | nil v => exact .nil _
  | cons stepped _ ih => exact (steps_of_step stepped).watching.append ih

end Watching

end Viewing

end Flotilla
