import Mathlib.Data.List.Basic
import Flotilla.Proofs.Watch.Attachment

/-!
# What a ledger accounts for

Along every run, whatever is published, requested, answered or lost: the ledger settles
the positions from the first one after the subscription on, one after the other and
without a gap; the events that were let through are those that the reader has taken
followed by those still on their way; the roles of the subscription are what the answers
have made of the initial ones; and each decision was made by the roles of its moment,
right after a question to the authority if its event lists the viewer as affected.
-/

namespace Flotilla

namespace Ledger

/-- Whether every note of a ledger is explained by the notes before it. -/
def Accounted (explains : Ledger → Note → Prop) (ledger : Ledger) : Prop :=
  ∀ before note after, ledger = before ++ note :: after → explains before note

variable {explains explains' : Ledger → Note → Prop} {ledger : Ledger}

theorem Accounted.nil : Accounted explains [] := by
  intro before note after h
  simp at h

theorem Accounted.snoc {note : Note} (h : Accounted explains ledger)
    (hnote : explains ledger note) : Accounted explains (ledger ++ [note]) := by
  intro before other after heq
  -- The note is the new one, or it stands in the old ledger.
  obtain ⟨rfl, rfl, -⟩ | ⟨rest, -, hledger⟩ := concat_eq_append_cons_iff.mp heq
  · exact hnote
  · exact h before other rest hledger

theorem Accounted.mono (h : Accounted explains ledger)
    (himp : ∀ before note, explains before note → explains' before note) :
    Accounted explains' ledger :=
  fun before note after heq => himp before note (h before note after heq)

end Ledger

namespace Watch

variable {w t : Watch} {start : Nat} {roles : Roles} {move : Move} {moves : List Move}

/-- What stands behind a decision of a watch that began at the position `start`, with the
notes `before` it: everything earlier is settled, the roles of the moment decide, and they
are asked for if the event lists the viewer as affected. -/
structure Judgement (start : Nat) (roles : Roles) (w : Watch) (before : Ledger)
    (position : Nat) (admitted : Bool) : Prop where
  start_le : start ≤ position
  positions : before.positions = List.range' start (position - start)
  answered : before.loads = before.answers.length
  causes : ∀ size cause, .asked size (some cause) ∈ before →
    cause ≤ position ∧ cause ∉ before.losses
  verdict : ∃ event, w.bus.log[position]? = some event ∧
    (admitted = true ↔ (before.rolesAfter roles).Visible w.subscription.minRole event) ∧
    (event.affects w.subscription.viewer = true → ∃ earlier size answer,
      before = earlier ++ [.asked size (some position), .told answer] ∧ position < size)

/-- What stands behind each note of a watch. -/
def Explains (start : Nat) (roles : Roles) (w : Watch) (before : Ledger) : Note → Prop
  | .asked size cause => size ≤ w.bus.log.size ∧
      ∀ position, cause = some position → position < size ∧ w.Names position
  | .judged position admitted => Judgement start roles w before position admitted
  | .lost .. | .told _ => True

theorem Explains.mono {before : Ledger} {note : Note} (grows : Grows w t)
    (h : Explains start roles w before note) : Explains start roles t before note := by
  cases note with
  | asked size cause =>
      refine ⟨Nat.le_trans h.1 grows.size, ?_⟩
      intro position hcause
      exact ⟨(h.2 position hcause).1, grows.names (h.2 position hcause).2⟩
  | judged position admitted =>
      obtain ⟨event, present, hadmitted, hasked⟩ := h.verdict
      refine ⟨h.start_le, h.positions, h.answered, h.causes, event, grows.log present, ?_, ?_⟩
      · rw [grows.minRole]
        exact hadmitted
      · rw [grows.viewer]
        exact hasked
  | lost => trivial
  | told => trivial

/-- All that the ledger of a watch accounts for, if the watch began at the position `start`
with the given roles. -/
structure Account (start : Nat) (roles : Roles) (w : Watch) : Prop where
  attached : w.subscription.Attached w.bus
  start_le : start ≤ w.decided
  positions : w.ledger.positions = List.range' start (w.decided - start)
  delivered : w.taken ++ w.subscription.letThrough =
    w.ledger.through.filterMap (w.bus.log[·]?)
  roles_eq : w.subscription.roles = w.ledger.rolesAfter roles
  loads : w.ledger.loads = w.ledger.answers.length + w.subscription.isLoading.toNat
  /-- While the roles are looked up for an event, the question is the last note. -/
  question : ∀ event, w.subscription.forwarder = .loading (some event) →
    ∃ earlier size, w.ledger = earlier ++ [.asked size (some w.decided)] ∧ w.decided < size
  causes : ∀ size cause, .asked size (some cause) ∈ w.ledger →
    cause < w.subscription.receiver.next ∧ cause ∉ w.ledger.losses
  explained : w.ledger.Accounted (w.Explains start roles)

namespace Account

/-- A settled position lies between the beginning and the first undecided position. -/
theorem lt_of_mem {position : Nat} (h : Account start roles w)
    (hmem : position ∈ w.ledger.positions) : start ≤ position ∧ position < w.decided := by
  rw [h.positions, List.mem_range'_1] at hmem
  have := h.start_le
  omega

theorem decided_le_size (h : Account start roles w) : w.decided ≤ w.bus.log.size :=
  Nat.le_trans (Subscription.decided_le_next _) h.attached.next_le

/-- Nobody reports the loss of an event that is not decided. -/
theorem not_mem_losses {position : Nat} (h : Account start roles w)
    (hposition : w.decided ≤ position) : position ∉ w.ledger.losses := by
  intro hmem
  have := (h.lt_of_mem (Ledger.losses_subset hmem)).2
  omega

/-- What was let through stays what it was when the bus grows. -/
theorem filterMap_through (h : Account start roles w) (event : Event) :
    w.ledger.through.filterMap ((w.bus.log.push event)[·]?) =
      w.ledger.through.filterMap (w.bus.log[·]?) := by
  apply List.filterMap_congr
  intro position hmem
  have hsettled := Ledger.mem_positions_of_judged (Ledger.mem_through.mp hmem)
  have hlt : position < w.bus.log.size :=
    Nat.lt_of_lt_of_le (h.lt_of_mem hsettled).2 h.decided_le_size
  rw [Array.getElem?_push_lt hlt, Array.getElem?_eq_getElem hlt]

theorem publish (h : Account start roles w) {event : Event} (isOpen : w.bus.isOpen = true) :
    Account start roles { w with bus := { w.bus with log := w.bus.log.push event } } := by
  have grows : Grows w { w with bus := { w.bus with log := w.bus.log.push event } } :=
    (Steps.publish isOpen).grows
  have hattached := h.attached
  refine ⟨⟨hattached.capacity_pos, ?_, ?_, ?_⟩, h.start_le, h.positions, ?_, h.roles_eq,
    h.loads, h.question, h.causes, h.explained.mono fun _ _ => Explains.mono grows⟩
  · exact Nat.le_trans hattached.next_le grows.size
  · intro finished
    have closed := (hattached.finished finished).1
    simp [isOpen] at closed
  · intro event loading
    obtain ⟨position, hnext, present, affected⟩ := hattached.loading event loading
    exact ⟨position, hnext, grows.log present, affected⟩
  · exact h.delivered.trans (h.filterMap_through event).symm

theorem close (h : Account start roles w) :
    Account start roles { w with bus := { w.bus with isOpen := false } } := by
  have grows : Grows w { w with bus := { w.bus with isOpen := false } } := Steps.close.grows
  have hattached := h.attached
  refine ⟨⟨hattached.capacity_pos, hattached.next_le, ?_, hattached.loading⟩, h.start_le,
    h.positions, h.delivered, h.roles_eq, h.loads, h.question, h.causes,
    h.explained.mono fun _ _ => Explains.mono grows⟩
  intro finished
  exact ⟨rfl, (hattached.finished finished).2⟩

theorem refresh (h : Account start roles w) :
    Account start roles { w with subscription := w.subscription.requestRefresh } := by
  have grows : Grows w { w with subscription := w.subscription.requestRefresh } :=
    Steps.refresh.grows
  have hexplained := h.explained.mono fun _ _ => Explains.mono grows
  have hattached := h.attached
  rw [Subscription.requestRefresh_eq] at hexplained ⊢
  exact ⟨⟨hattached.capacity_pos, hattached.next_le, hattached.finished, hattached.loading⟩,
    h.start_le, h.positions, h.delivered, h.roles_eq, h.loads, h.question, h.causes, hexplained⟩

theorem take (h : Account start roles w) {event : Event} {rest : List Event}
    (ready : w.subscription.queue = event :: rest) :
    Account start roles
      { w with
        subscription := { w.subscription with queue := rest }, taken := w.taken ++ [event] } := by
  have grows : Grows w
      { w with
        subscription := { w.subscription with queue := rest }, taken := w.taken ++ [event] } :=
    (Steps.take ready).grows
  have hattached := h.attached
  refine ⟨⟨hattached.capacity_pos, hattached.next_le, hattached.finished, hattached.loading⟩,
    h.start_le, h.positions, ?_, h.roles_eq, h.loads, h.question, h.causes,
    h.explained.mono fun _ _ => Explains.mono grows⟩
  have hdelivered := h.delivered
  simp only [Subscription.letThrough, ready] at hdelivered
  simpa [Subscription.letThrough, Subscription.held] using hdelivered

section Forward

variable {answer : Except AuthorityError Roles} {notes : Ledger} {s : Subscription}

/-- A question that was asked for an event is the last note until it is answered. -/
theorem question_forward (forwards : w.subscription.Forwards w.bus answer notes s)
    (event : Event) (loading : s.forwarder = .loading (some event)) :
    ∃ earlier size, w.ledger ++ notes = earlier ++ [.asked size (some s.decided)] ∧
      s.decided < size := by
  cases forwards with
  | heedGranted => simp at loading
  | heedStored => simp at loading
  | skip => simp at loading
  | fetch selecting unasked present affected =>
      refine ⟨w.ledger, w.bus.log.size, by simp [Subscription.decided], ?_⟩
      simpa [Subscription.decided] using Subscription.lt_size_of_present present
  | pass => exact absurd loading (Subscription.forwarder_judge_ne_loading _ _ _)
  | park => simp at loading
  | finish => simp at loading
  | learn => simp at loading
  | learnFor => exact absurd loading (Subscription.forwarder_judge_ne_loading _ _ _)
  | release => exact absurd loading (Subscription.forwarder_offer_ne_loading _ _ _)

/-- Nobody asks because of an event before it is received, or after it is lost. -/
theorem causes_forward (h : Account start roles w)
    (forwards : w.subscription.Forwards w.bus answer notes s) {size cause : Nat}
    (hmem : Note.asked size (some cause) ∈ w.ledger ++ notes) :
    cause < s.receiver.next ∧ cause ∉ (w.ledger ++ notes).losses := by
  have hreceived (hmem : Note.asked size (some cause) ∈ w.ledger) := h.causes size cause hmem
  cases forwards with
  | heedGranted => simpa using hreceived (by simpa using hmem)
  | heedStored => simpa using hreceived (by simpa using hmem)
  | skip selecting unasked behind =>
      obtain ⟨hlt, hkept⟩ := hreceived (by simpa using hmem)
      refine ⟨Nat.lt_trans hlt behind, ?_⟩
      simp only [Ledger.losses_append, Ledger.losses_cons, Note.losses, Ledger.losses_nil,
        List.append_nil, List.mem_append, List.mem_range'_1, not_or]
      exact ⟨hkept, by omega⟩
  | fetch selecting unasked present affected =>
      have hdecided : w.decided = w.subscription.receiver.next :=
        Subscription.decided_of_selecting selecting
      rcases List.mem_append.mp hmem with hmem | hmem
      · obtain ⟨hlt, hkept⟩ := hreceived hmem
        exact ⟨Nat.lt_succ_of_lt hlt, by simpa using hkept⟩
      · obtain ⟨-, rfl⟩ : size = w.bus.log.size ∧ cause = w.subscription.receiver.next := by
          simpa using hmem
        exact ⟨Nat.lt_succ_self _, by simpa using h.not_mem_losses (Nat.le_of_eq hdecided)⟩
  | pass =>
      obtain ⟨hlt, hkept⟩ := hreceived (by simpa using hmem)
      exact ⟨by simpa using Nat.lt_succ_of_lt hlt, by simpa using hkept⟩
  | park => simpa using hreceived (by simpa using hmem)
  | finish => simpa using hreceived (by simpa using hmem)
  | learn => simpa using hreceived (by simpa using hmem)
  | learnFor => simpa using hreceived (by simpa using hmem)
  | release => simpa using hreceived (by simpa using hmem)

/-- Whatever a move notes down is explained by what was noted down before. -/
theorem explained_forward (h : Account start roles w)
    (forwards : w.subscription.Forwards w.bus answer notes s) :
    (w.ledger ++ notes).Accounted (w.Explains start roles) := by
  cases forwards with
  | heedGranted => exact h.explained.snoc ⟨Nat.le_refl _, by simp⟩
  | heedStored => exact h.explained.snoc ⟨Nat.le_refl _, by simp⟩
  | skip => exact h.explained.snoc trivial
  | fetch selecting unasked present affected =>
      refine h.explained.snoc ⟨Nat.le_refl _, ?_⟩
      intro position hposition
      obtain rfl : w.subscription.receiver.next = position := by simpa using hposition
      exact ⟨Subscription.lt_size_of_present present, _, present, affected⟩
  | @pass _ event selecting unasked present unaffected =>
      have hdecided : w.decided = w.subscription.receiver.next :=
        Subscription.decided_of_selecting selecting
      have hloads := h.loads
      rw [Subscription.isLoading_of_selecting selecting] at hloads
      refine h.explained.snoc ⟨?_, ?_, by simpa using hloads, ?_, event, present, ?_, ?_⟩
      · exact hdecided ▸ h.start_le
      · exact hdecided ▸ h.positions
      · intro size cause hmem
        exact ⟨Nat.le_of_lt (h.causes size cause hmem).1, (h.causes size cause hmem).2⟩
      · rw [Subscription.admits_iff, h.roles_eq]
      · simp [unaffected]
  | park => simpa using h.explained
  | finish => simpa using h.explained
  | learn => exact h.explained.snoc trivial
  | @learnFor event loading =>
      obtain ⟨position, hnext, present, affected⟩ := h.attached.loading event loading
      obtain ⟨earlier, size, hledger, hsize⟩ := h.question event loading
      have hdecided : w.decided = position := by
        simp [decided, Subscription.decided, loading, hnext]
      have hloads := h.loads
      rw [hdecided] at hledger hsize
      have htold : (w.ledger ++ [Note.told answer]).Accounted (w.Explains start roles) :=
        h.explained.snoc trivial
      -- The answer is noted down first, and the decision is made by it.
      rw [hnext, Nat.add_sub_cancel, List.append_cons]
      refine htold.snoc ⟨?_, ?_, ?_, ?_, event, present, ?_, ?_⟩
      · exact hdecided ▸ h.start_le
      · simpa [hdecided] using h.positions
      · simpa [Subscription.isLoading, loading] using hloads
      · intro size cause hmem
        obtain ⟨hlt, hkept⟩ := h.causes size cause (by simpa using hmem)
        exact ⟨by omega, by simpa using hkept⟩
      · rw [Subscription.admits_iff]
        simp [h.roles_eq]
      · intro _
        exact ⟨earlier, size, answer, by simp [hledger], hsize⟩
  | release => simpa using h.explained

theorem forward (h : Account start roles w)
    (forwards : w.subscription.Forwards w.bus answer notes s) :
    Account start roles { w with subscription := s, ledger := w.ledger ++ notes } := by
  have grows : Grows w { w with subscription := s, ledger := w.ledger ++ notes } :=
    (Steps.forward forwards).grows
  obtain ⟨hle, hpositions⟩ := forwards.positions h.attached
  refine ⟨h.attached.forward forwards, Nat.le_trans h.start_le hle, ?_, ?_, ?_, ?_,
    question_forward forwards, fun _ _ => h.causes_forward forwards,
    (h.explained_forward forwards).mono fun _ _ => Explains.mono grows⟩
  · rw [Ledger.positions_append, h.positions, hpositions]
    exact range'_append_range' h.start_le hle
  · rw [forwards.letThrough h.attached, ← List.append_assoc, h.delivered,
      Ledger.through_append, List.filterMap_append]
  · rw [forwards.roles, h.roles_eq, Ledger.rolesAfter_append]
  · have hloads := h.loads
    have hforwards := forwards.loads
    simp only [Ledger.loads_append, Ledger.answers_append, List.length_append]
    omega

end Forward

/-- Every move keeps the account. -/
theorem step (h : Account start roles w) (steps : Steps w move t) : Account start roles t := by
  cases steps with
  | publish isOpen => exact h.publish isOpen
  | close => exact h.close
  | refresh => exact h.refresh
  | forward forwards => exact h.forward forwards
  | take ready => exact h.take ready

/-- Without a request, roles are looked up only for an event that lists the viewer, and this
is the first one that is not decided. -/
theorem names_of_isLoading (h : Account start roles w) (unrefreshed : Unrefreshed w)
    (loading : w.subscription.isLoading = true) : w.Names w.decided := by
  cases hforwarder : w.subscription.forwarder with
  | loading event =>
      cases event with
      | none => exact absurd hforwarder unrefreshed.forwarder
      | some event =>
          obtain ⟨position, hnext, present, affected⟩ := h.attached.loading event hforwarder
          have hdecided : w.decided = position := by
            simp [decided, Subscription.decided, hforwarder, hnext]
          exact ⟨event, hdecided ▸ present, affected⟩
  | selecting => simp [Subscription.isLoading, hforwarder] at loading
  | holding => simp [Subscription.isLoading, hforwarder] at loading
  | finished => simp [Subscription.isLoading, hforwarder] at loading

/-- Nothing is received that was published with the very move. -/
theorem next_le_of_steps (h : Account start roles w) (steps : Steps w move t) :
    t.subscription.receiver.next ≤ w.bus.log.size := by
  cases steps with
  | publish => exact h.attached.next_le
  | close => exact h.attached.next_le
  | refresh =>
      rw [Subscription.requestRefresh_eq]
      exact h.attached.next_le
  | forward forwards => exact (h.attached.forward forwards).next_le
  | take => exact h.attached.next_le

end Account

variable {bus : Bus} {viewer : ViewerId} {minRole : Role} {capacity : Nat}

/-- A subscription begins behind everything that is on the bus. -/
theorem account_of_open (h : open? bus viewer minRole roles capacity = some w) :
    Account bus.log.size roles w := by
  obtain rfl := eq_of_open h
  refine ⟨⟨Nat.le_max_right _ _, Nat.le_refl _, by simp, by simp⟩, Nat.le_refl _, ?_, rfl, rfl, rfl,
    by simp, by simp, Ledger.Accounted.nil⟩
  simp [decided, Subscription.decided, Bus.join]

/-- A run accounts for all that it does. -/
theorem Run.account (run : Run w moves t) (h : Account start roles w) : Account start roles t :=
  run.invariant (fun _ _ _ _ h stepped => h.step (steps_of_step stepped)) h

end Watch

end Flotilla
