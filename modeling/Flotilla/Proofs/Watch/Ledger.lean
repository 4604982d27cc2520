import Flotilla.Subscription

/-!
# The story of a watch

`Visible` is the rule by which events are shown, stated on the roles of a viewer and
not through the forwarder. `Roles.update` is what an answer of the authority makes of
the roles that a viewer held.

A ledger tells what a forwarder has done, note by note: the events that it found lost,
the questions that it asked, the answers that it was told, and the events that it
decided on. Events are named by their positions on the bus. Nothing in the running
program reads a ledger. It only lets a statement speak of events that are long gone.
-/

namespace Flotilla

namespace Roles

/-- Whether a viewer with these roles is shown an event, if servers need `minRole`. -/
def Visible (roles : Roles) (minRole : Role) (event : Event) : Prop :=
  event.kind = .deleted ∨ event.server? = none ∨
    ∃ server ∈ event.server?, minRole ≤ roles.roleOn server

instance (roles : Roles) (minRole : Role) (event : Event) :
    Decidable (roles.Visible minRole event) :=
  inferInstanceAs (Decidable (_ ∨ _ ∨ _))

/-- An answer replaces the roles, a viewer without record is left with none, and without
an answer the roles stay. -/
def update (roles : Roles) : Except AuthorityError Roles → Roles
  | .ok answered => answered
  | .error (.unknownViewer _) => .empty
  | .error (.unavailable _) => roles

/-- Only an event of a server that still exists depends on a role. -/
theorem visible_iff_minRole_le {roles : Roles} {minRole : Role} {event : Event}
    {server : ServerId} (hserver : event.server? = some server) (hkind : event.kind ≠ .deleted) :
    roles.Visible minRole event ↔ minRole ≤ roles.roleOn server := by
  simp [Visible, hserver, hkind]

end Roles

/-- What a forwarder has to tell about a move. -/
inductive Note where
  /-- It was too far behind: `count` events from `first` on are lost. -/
  | lost (first count : Nat)
  /-- It asked for the roles of its viewer when `size` events had been published, because
  of the event at `cause`, or because it was requested to. -/
  | asked (size : Nat) (cause : Option Nat)
  /-- It was told the answer. -/
  | told (answer : Except AuthorityError Roles)
  /-- It let the event at `position` through, or dropped it. -/
  | judged (position : Nat) (admitted : Bool)

namespace Note

/-- The positions that a note settles. -/
@[simp] def positions : Note → List Nat
  | .lost first count => List.range' first count
  | .judged position _ => [position]
  | .asked .. | .told _ => []

/-- The positions that a note reports as lost. -/
@[simp] def losses : Note → List Nat
  | .lost first count => List.range' first count
  | _ => []

/-- The position that a note lets through. -/
@[simp] def through? : Note → Option Nat
  | .judged position true => some position
  | _ => none

/-- The answer that a note carries. -/
@[simp] def answer? : Note → Option (Except AuthorityError Roles)
  | .told answer => some answer
  | _ => none

/-- Whether a note is a question to the authority. -/
@[simp] def isQuestion : Note → Bool
  | .asked .. => true
  | _ => false

end Note

/-- The notes of a forwarder, the oldest first. -/
abbrev Ledger := List Note

namespace Ledger

/-- The positions that are settled, in the order in which they were. -/
def positions (ledger : Ledger) : List Nat := ledger.flatMap Note.positions

/-- The positions of the events that were lost. -/
def losses (ledger : Ledger) : List Nat := ledger.flatMap Note.losses

/-- The positions of the events that were let through, in order. -/
def through (ledger : Ledger) : List Nat := ledger.filterMap Note.through?

/-- The answers of the authority, in order. -/
def answers (ledger : Ledger) : List (Except AuthorityError Roles) :=
  ledger.filterMap Note.answer?

/-- How often the authority was asked. -/
def loads (ledger : Ledger) : Nat := ledger.countP Note.isQuestion

/-- The roles that someone who started with `roles` holds after all the answers. -/
def rolesAfter (roles : Roles) (ledger : Ledger) : Roles := ledger.answers.foldl Roles.update roles

/-- Whether the authority was asked after the event at `position` had been published. -/
def AskedSince (position : Nat) (ledger : Ledger) : Prop :=
  ∃ size cause, .asked size cause ∈ ledger ∧ position < size

variable {a b ledger : Ledger} {position size : Nat} {admitted : Bool} {cause : Option Nat}
  {roles : Roles}

@[simp] theorem positions_nil : positions [] = [] := rfl

@[simp] theorem positions_cons (note : Note) (rest : Ledger) :
    positions (note :: rest) = note.positions ++ positions rest := by
  simp [positions]

@[simp] theorem losses_nil : losses [] = [] := rfl

@[simp] theorem losses_cons (note : Note) (rest : Ledger) :
    losses (note :: rest) = note.losses ++ losses rest := by
  simp [losses]

@[simp] theorem through_nil : through [] = [] := rfl

@[simp] theorem through_judged (rest : Ledger) :
    through (.judged position admitted :: rest) =
      (if admitted = true then [position] else []) ++ through rest := by
  cases admitted <;> rfl

@[simp] theorem through_asked (rest : Ledger) :
    through (.asked size cause :: rest) = through rest := rfl

@[simp] theorem through_told (answer : Except AuthorityError Roles) (rest : Ledger) :
    through (.told answer :: rest) = through rest := rfl

@[simp] theorem through_lost (first count : Nat) (rest : Ledger) :
    through (.lost first count :: rest) = through rest := rfl

@[simp] theorem answers_nil : answers [] = [] := rfl

@[simp] theorem answers_told (answer : Except AuthorityError Roles) (rest : Ledger) :
    answers (.told answer :: rest) = answer :: answers rest := rfl

@[simp] theorem answers_asked (rest : Ledger) :
    answers (.asked size cause :: rest) = answers rest := rfl

@[simp] theorem answers_judged (rest : Ledger) :
    answers (.judged position admitted :: rest) = answers rest := rfl

@[simp] theorem answers_lost (first count : Nat) (rest : Ledger) :
    answers (.lost first count :: rest) = answers rest := rfl

@[simp] theorem loads_nil : loads [] = 0 := rfl

@[simp] theorem loads_cons (note : Note) (rest : Ledger) :
    loads (note :: rest) = loads rest + note.isQuestion.toNat := by
  cases note <;> simp [loads, List.countP_cons]

@[simp] theorem rolesAfter_nil : rolesAfter roles [] = roles := rfl

@[simp] theorem rolesAfter_told (answer : Except AuthorityError Roles) (rest : Ledger) :
    rolesAfter roles (.told answer :: rest) = rolesAfter (roles.update answer) rest := rfl

@[simp] theorem rolesAfter_asked (rest : Ledger) :
    rolesAfter roles (.asked size cause :: rest) = rolesAfter roles rest := rfl

@[simp] theorem rolesAfter_judged (rest : Ledger) :
    rolesAfter roles (.judged position admitted :: rest) = rolesAfter roles rest := rfl

@[simp] theorem rolesAfter_lost (first count : Nat) (rest : Ledger) :
    rolesAfter roles (.lost first count :: rest) = rolesAfter roles rest := rfl

@[simp] theorem positions_append : positions (a ++ b) = a.positions ++ b.positions := by
  simp [positions]

@[simp] theorem losses_append : losses (a ++ b) = a.losses ++ b.losses := by
  simp [losses]

@[simp] theorem through_append : through (a ++ b) = a.through ++ b.through := by
  simp [through]

@[simp] theorem answers_append : answers (a ++ b) = a.answers ++ b.answers := by
  simp [answers]

@[simp] theorem loads_append : loads (a ++ b) = a.loads + b.loads := by
  simp [loads]

@[simp] theorem rolesAfter_append :
    rolesAfter roles (a ++ b) = rolesAfter (rolesAfter roles a) b := by
  simp [rolesAfter]

theorem mem_through : position ∈ ledger.through ↔ Note.judged position true ∈ ledger := by
  simp only [through, List.mem_filterMap]
  constructor
  · rintro ⟨note, hmem, hnote⟩
    cases note with
    | judged p admitted =>
        cases admitted <;> simp [Note.through?] at hnote
        exact hnote ▸ hmem
    | lost => simp [Note.through?] at hnote
    | asked => simp [Note.through?] at hnote
    | told => simp [Note.through?] at hnote
  · intro h
    exact ⟨_, h, rfl⟩

/-- A settled position was lost, or somebody decided on its event. -/
theorem mem_positions (h : position ∈ ledger.positions) :
    position ∈ ledger.losses ∨ ∃ admitted, Note.judged position admitted ∈ ledger := by
  obtain ⟨note, hmem, hnote⟩ := List.mem_flatMap.mp h
  cases note with
  | lost first count => exact .inl (List.mem_flatMap.mpr ⟨_, hmem, hnote⟩)
  | judged p admitted =>
      obtain rfl : position = p := by simpa [Note.positions] using hnote
      exact .inr ⟨admitted, hmem⟩
  | asked => simp [Note.positions] at hnote
  | told => simp [Note.positions] at hnote

theorem mem_positions_of_judged (h : Note.judged position admitted ∈ ledger) :
    position ∈ ledger.positions :=
  List.mem_flatMap.mpr ⟨_, h, by simp [Note.positions]⟩

/-- Whatever is lost is settled. -/
theorem losses_subset : ledger.losses ⊆ ledger.positions := by
  intro position h
  obtain ⟨note, hmem, hnote⟩ := List.mem_flatMap.mp h
  cases note with
  | lost first count => exact List.mem_flatMap.mpr ⟨_, hmem, hnote⟩
  | judged => simp [Note.losses] at hnote
  | asked => simp [Note.losses] at hnote
  | told => simp [Note.losses] at hnote

end Ledger

end Flotilla
