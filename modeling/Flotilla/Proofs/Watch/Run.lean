import Flotilla.Proofs.Run
import Flotilla.Proofs.Watch.Forwarder

/-!
# Runs of a watch

A watch is a subscription on its bus, together with the events that its reader has
taken so far and the ledger of its forwarder. Its moves are those of everybody who has a
part in it: publishers, whoever closes the bus, whoever requests a refresh, the forwarder
and the reader. A run takes them in any order; the authority may answer anything at any
time.
-/

namespace Flotilla

/-- A subscription on its bus, and what has come of it. -/
structure Watch where
  bus : Bus
  subscription : Subscription
  /-- The events that the reader has taken, the oldest first. -/
  taken : List Event
  ledger : Ledger

namespace Watch

/-- A subscription that has just been taken out, of a viewer who holds `roles`. -/
def open? (bus : Bus) (viewer : ViewerId) (minRole : Role) (roles : Roles) (capacity : Nat) :
    Option Watch :=
  (Subscription.create? viewer minRole roles capacity bus.join.1).map fun subscription =>
    ⟨bus.join.2, subscription, [], []⟩

/-- What may happen to a watch. -/
inductive Move where
  | publish (event : Event)
  | close
  | refresh
  /-- A move of the forwarder; `answer` is what the authority would say at this moment. -/
  | forward (answer : Except AuthorityError Roles)
  | take

/-- Whether a move is the forwarder's or the reader's. -/
def Move.IsOwn : Move → Prop
  | .forward _ | .take => True
  | .publish _ | .close | .refresh => False

/-- One move, or `none` if it cannot be made. Nobody publishes on a closed bus. -/
def step : Move → Watch → Option Watch
  | .publish event, w =>
    if w.bus.isOpen then some { w with bus := (w.bus.publish event).2 } else none
  | .close, w => some { w with bus := w.bus.close }
  | .refresh, w => some { w with subscription := w.subscription.requestRefresh }
  | .forward answer, w =>
    (w.subscription.advance w.bus answer).map fun subscription =>
      { w with
        subscription := subscription
        ledger := w.ledger ++ w.subscription.notes w.bus answer }
  | .take, w =>
    w.subscription.take.map fun (event, subscription) =>
      { w with subscription := subscription, taken := w.taken ++ [event] }

/-- Moves made one after the other. -/
abbrev Run : Watch → List Move → Watch → Prop := Flotilla.Run step

/-- The events of a list of moves, in the order in which they are published. -/
def published (moves : List Move) : List Event :=
  moves.filterMap fun
    | .publish event => some event
    | _ => none

/-- The position of the first event that is neither settled nor lost. -/
def decided (w : Watch) : Nat := w.subscription.decided

/-- Whether the event at a position lists the viewer as affected. -/
def Names (w : Watch) (position : Nat) : Prop :=
  ∃ event, w.bus.log[position]? = some event ∧ event.affects w.subscription.viewer = true

/-- Whether neither the forwarder nor the reader has anything left to do. -/
def Quiet (w : Watch) : Prop :=
  (∀ answer, w.subscription.advance w.bus answer = none) ∧ w.subscription.queue = []

variable {w t u : Watch} {move : Move} {moves more : List Move}

/-- All that a move can do to a watch. -/
inductive Steps (w : Watch) : Move → Watch → Prop where
  | publish {event} (isOpen : w.bus.isOpen = true) :
      Steps w (.publish event) { w with bus := { w.bus with log := w.bus.log.push event } }
  | close : Steps w .close { w with bus := { w.bus with isOpen := false } }
  | refresh : Steps w .refresh { w with subscription := w.subscription.requestRefresh }
  | forward {answer notes subscription}
      (forwards : w.subscription.Forwards w.bus answer notes subscription) :
      Steps w (.forward answer)
        { w with subscription := subscription, ledger := w.ledger ++ notes }
  | take {event rest} (ready : w.subscription.queue = event :: rest) :
      Steps w .take
        { w with
          subscription := { w.subscription with queue := rest }
          taken := w.taken ++ [event] }

theorem steps_of_step (h : step move w = some t) : Steps w move t := by
  cases move with
  | publish event =>
      simp only [step] at h
      split at h
      next isOpen =>
        obtain rfl := Option.some.inj h
        exact .publish isOpen
      next => simp at h
  | close =>
      obtain rfl := Option.some.inj h
      exact .close
  | refresh =>
      obtain rfl := Option.some.inj h
      exact .refresh
  | forward answer =>
      simp only [step, Option.map_eq_some_iff] at h
      obtain ⟨subscription, advanced, rfl⟩ := h
      exact .forward (Subscription.forwards_of_advance advanced)
  | take =>
      simp only [step, Option.map_eq_some_iff, Subscription.take] at h
      obtain ⟨⟨event, subscription⟩, taken, rfl⟩ := h
      split at taken
      next => simp at taken
      next event' rest ready =>
        obtain ⟨rfl, rfl⟩ := by simpa using taken
        exact .take ready

/-- A subscription begins with an empty queue, at the selection point. -/
theorem eq_of_open {bus : Bus} {viewer : ViewerId} {minRole : Role} {roles : Roles}
    {capacity : Nat} (h : open? bus viewer minRole roles capacity = some w) :
    w = ⟨bus.join.2, ⟨viewer, minRole, roles, bus.join.1, [], max capacity 1, false, false,
      .selecting false⟩, [], []⟩ := by
  simp only [open?, Subscription.create?, Option.map_eq_some_iff] at h
  obtain ⟨s, hs, rfl⟩ := h
  split at hs
  next =>
    obtain rfl := Option.some.inj hs
    rfl
  next => simp at hs

/-- What every move leaves as it is: whose watch it is, the role that it needs, and the
events that are on the bus already. -/
structure Grows (w t : Watch) : Prop where
  viewer : t.subscription.viewer = w.subscription.viewer
  minRole : t.subscription.minRole = w.subscription.minRole
  log : ∀ {position : Nat} {event : Event}, w.bus.log[position]? = some event →
    t.bus.log[position]? = some event
  size : w.bus.log.size ≤ t.bus.log.size

theorem Grows.refl (w : Watch) : Grows w w := ⟨rfl, rfl, id, Nat.le_refl _⟩

theorem Grows.trans (first : Grows w t) (second : Grows t u) : Grows w u :=
  ⟨second.viewer.trans first.viewer, second.minRole.trans first.minRole,
    fun h => second.log (first.log h), Nat.le_trans first.size second.size⟩

theorem Grows.names {position : Nat} (h : Grows w t) (names : w.Names position) :
    t.Names position := by
  obtain ⟨event, present, affected⟩ := names
  exact ⟨event, h.log present, by rw [h.viewer]; exact affected⟩

/-- Only new events can be new reasons to look roles up. -/
theorem Grows.names_of_lt {position : Nat} (h : Grows w t) (hlt : position < w.bus.log.size)
    (names : t.Names position) : w.Names position := by
  obtain ⟨event, present, affected⟩ := names
  have hpresent := Array.getElem?_eq_getElem hlt
  obtain rfl := Option.some.inj ((h.log hpresent).symm.trans present)
  exact ⟨_, hpresent, by rw [← h.viewer]; exact affected⟩

theorem getElem?_push_of_some {log : Array Event} {position : Nat} {event new : Event}
    (h : log[position]? = some event) : (log.push new)[position]? = some event := by
  obtain ⟨hlt, rfl⟩ := Array.getElem?_eq_some_iff.mp h
  exact Array.getElem?_push_lt hlt

theorem Steps.grows (h : Steps w move t) : Grows w t := by
  cases h with
  | publish isOpen => exact ⟨rfl, rfl, getElem?_push_of_some, by simp⟩
  | close => exact ⟨rfl, rfl, id, Nat.le_refl _⟩
  | refresh =>
      rw [Subscription.requestRefresh_eq]
      exact ⟨rfl, rfl, id, Nat.le_refl _⟩
  | forward forwards =>
      refine ⟨?_, ?_, id, Nat.le_refl _⟩
      · exact forwards.viewer
      · exact forwards.minRole
  | take ready => exact ⟨rfl, rfl, id, Nat.le_refl _⟩

/-- What is lost stays lost. -/
theorem Steps.losses (h : Steps w move t) (kept : t.ledger.losses = []) :
    w.ledger.losses = [] := by
  cases h with
  | publish => exact kept
  | close => exact kept
  | refresh => exact kept
  | forward forwards =>
      rw [Ledger.losses_append] at kept
      exact (List.append_eq_nil_iff.mp kept).1
  | take => exact kept

/-- A bus carries what is published, behind all that it carried before. -/
theorem Run.log (run : Run w moves t) :
    t.bus.log.toList = w.bus.log.toList ++ published moves := by
  induction run with
  | nil => simp [published]
  | cons stepped _ ih =>
      rw [ih]
      cases steps_of_step stepped with
      | publish => simp [published]
      | close => simp [published]
      | refresh => simp [published]
      | forward => simp [published]
      | take => simp [published]

theorem Run.grows (run : Run w moves t) : Grows w t :=
  run.invariant (fun _ _ _ _ h stepped => h.trans (steps_of_step stepped).grows) (Grows.refl w)

/-- That no request for a refresh is open. -/
structure Unrefreshed (w : Watch) : Prop where
  granted : w.subscription.granted = false
  stored : w.subscription.stored = false
  forwarder : w.subscription.forwarder ≠ .loading none

theorem unrefreshed_of_open {bus : Bus} {viewer : ViewerId} {minRole : Role} {roles : Roles}
    {capacity : Nat} (h : open? bus viewer minRole roles capacity = some w) : Unrefreshed w := by
  obtain rfl := eq_of_open h
  exact ⟨rfl, rfl, by simp⟩

/-- Only requests make requests. -/
theorem Unrefreshed.step (h : Unrefreshed w) (steps : Steps w move t) (hmove : move ≠ .refresh) :
    Unrefreshed t := by
  cases steps with
  | publish => exact ⟨h.granted, h.stored, h.forwarder⟩
  | close => exact ⟨h.granted, h.stored, h.forwarder⟩
  | refresh => exact absurd rfl hmove
  | take => exact ⟨h.granted, h.stored, h.forwarder⟩
  | forward forwards =>
      cases forwards with
      | heedGranted selecting granted => simp [h.granted] at granted
      | heedStored selecting ungranted stored => simp [h.stored] at stored
      | skip => exact ⟨h.granted, h.stored, by simp⟩
      | fetch => exact ⟨h.granted, h.stored, by simp⟩
      | pass =>
          exact ⟨by simpa using h.granted, by simpa using h.stored,
            Subscription.forwarder_judge_ne_loading _ _ _⟩
      | park => exact ⟨h.granted, h.stored, by simp⟩
      | finish => exact ⟨h.granted, h.stored, by simp⟩
      | learn => exact ⟨h.granted, h.stored, by simp⟩
      | learnFor =>
          exact ⟨by simpa using h.granted, by simpa using h.stored,
            Subscription.forwarder_judge_ne_loading _ _ _⟩
      | release =>
          exact ⟨by simpa using h.granted, by simpa using h.stored,
            Subscription.forwarder_offer_ne_loading _ _ _⟩

end Watch

/-! A small fleet for the examples of the theory: one server, one viewer, and a bus that
holds two events. -/

namespace Sample

def server : ServerId := ⟨2, by decide⟩

def viewer : ViewerId := ⟨1, by decide⟩

def midnight : Instant := ⟨0, 0, 0, by decide, by decide, by decide, .inl (by decide)⟩

/-- The roles of someone who may watch the server. -/
def user : Roles := Roles.empty.set server .user

/-- The event of a role change on every server. -/
def change : Event := ⟨.updated none (some [viewer]), midnight⟩

/-- An event that only those see who may watch the server. -/
def players : Event := ⟨.playersChanged server [], midnight⟩

/-- Another one. -/
def bans : Event := ⟨.banListChanged server [], midnight⟩

def bus : Bus := ⟨"fleet-updates", 2, #[], 0, true⟩

/-- A watch that has just begun, with room for one event in its queue. -/
def watch (roles : Roles) : Watch :=
  ⟨bus.join.2, ⟨viewer, .user, roles, bus.join.1, [], 1, false, false, .selecting false⟩, [], []⟩

theorem open?_bus (roles : Roles) : Watch.open? bus viewer .user roles 1 = some (watch roles) := rfl

end Sample

end Flotilla
