import Flotilla.Proofs.Watch.Ledger

/-!
# What a forwarder does

`Subscription.Forwards` lists all that one move of a forwarder can do, each kind of move
with the condition under which it is made and with the notes that it leaves.
`forwards_of_advance` says that there are no other moves. Every invariant of a watch is
proved by going through this list; nothing after this module unfolds `advance`.
-/

namespace Flotilla

namespace Subscription

/-- The event that waits for room in the queue, if there is one. -/
def held (s : Subscription) : List Event :=
  match s.forwarder with
  | .holding event => [event]
  | _ => []

/-- The events that were let through and not yet taken. -/
def letThrough (s : Subscription) : List Event := s.queue ++ s.held

/-- The position of the first event that is neither settled nor lost. An event that the
roles are looked up for has been received, but nothing is decided on it. -/
def decided (s : Subscription) : Nat :=
  match s.forwarder with
  | .loading (some _) => s.receiver.next - 1
  | _ => s.receiver.next

/-- What the next move leaves in the ledger. -/
def notes (bus : Bus) (answer : Except AuthorityError Roles) (s : Subscription) : Ledger :=
  match s.forwarder with
  | .selecting _ =>
    if s.granted || s.stored then [.asked bus.log.size none]
    else
      match bus.receive s.receiver with
      | (.event event, _) =>
        if event.affects s.viewer then [.asked bus.log.size (some s.receiver.next)]
        else [.judged s.receiver.next (s.admits event)]
      | (.lagged count, _) => [.lost s.receiver.next count]
      | (.empty, _) | (.closed, _) => []
  | .loading none => [.told answer]
  | .loading (some event) =>
    [.told answer, .judged (s.receiver.next - 1) ((s.learn answer).admits event)]
  | .holding _ | .finished => []

section Operations

variable (s : Subscription) (event : Event)

theorem admits_iff : s.admits event = true ↔ s.roles.Visible s.minRole event := by
  unfold admits Roles.Visible
  cases hserver : event.server? with
  | none => simp
  | some server => simp

theorem learn_eq (answer : Except AuthorityError Roles) :
    s.learn answer = { s with roles := s.roles.update answer } := by
  rcases answer with (_ | _) | _ <;> rfl

/-- Offering an event touches nothing but the queue and where the forwarder stands. -/
theorem offer_eq : s.offer event =
    { s with queue := (s.offer event).queue, forwarder := (s.offer event).forwarder } := by
  unfold offer
  split <;> rfl

theorem judge_eq : s.judge event =
    { s with queue := (s.judge event).queue, forwarder := (s.judge event).forwarder } := by
  unfold judge
  split
  · exact offer_eq s event
  · rfl

@[simp] theorem viewer_offer : (s.offer event).viewer = s.viewer := by rw [offer_eq]

@[simp] theorem minRole_offer : (s.offer event).minRole = s.minRole := by rw [offer_eq]

@[simp] theorem roles_offer : (s.offer event).roles = s.roles := by rw [offer_eq]

@[simp] theorem receiver_offer : (s.offer event).receiver = s.receiver := by rw [offer_eq]

@[simp] theorem capacity_offer : (s.offer event).capacity = s.capacity := by rw [offer_eq]

@[simp] theorem granted_offer : (s.offer event).granted = s.granted := by rw [offer_eq]

@[simp] theorem stored_offer : (s.offer event).stored = s.stored := by rw [offer_eq]

@[simp] theorem viewer_judge : (s.judge event).viewer = s.viewer := by rw [judge_eq]

@[simp] theorem minRole_judge : (s.judge event).minRole = s.minRole := by rw [judge_eq]

@[simp] theorem roles_judge : (s.judge event).roles = s.roles := by rw [judge_eq]

@[simp] theorem receiver_judge : (s.judge event).receiver = s.receiver := by rw [judge_eq]

@[simp] theorem capacity_judge : (s.judge event).capacity = s.capacity := by rw [judge_eq]

@[simp] theorem granted_judge : (s.judge event).granted = s.granted := by rw [judge_eq]

@[simp] theorem stored_judge : (s.judge event).stored = s.stored := by rw [judge_eq]

theorem forwarder_offer : (s.offer event).forwarder = .selecting false ∨
    (s.offer event).forwarder = .holding event := by
  unfold offer
  split <;> simp

theorem forwarder_judge : (s.judge event).forwarder = .selecting false ∨
    (s.judge event).forwarder = .holding event := by
  unfold judge
  split
  · exact forwarder_offer s event
  · simp

theorem forwarder_offer_ne_loading (loaded : Option Event) :
    (s.offer event).forwarder ≠ .loading loaded := by
  rcases forwarder_offer s event with h | h <;> simp [h]

theorem forwarder_offer_ne_finished : (s.offer event).forwarder ≠ .finished := by
  rcases forwarder_offer s event with h | h <;> simp [h]

theorem forwarder_judge_ne_loading (loaded : Option Event) :
    (s.judge event).forwarder ≠ .loading loaded := by
  rcases forwarder_judge s event with h | h <;> simp [h]

theorem forwarder_judge_ne_finished : (s.judge event).forwarder ≠ .finished := by
  rcases forwarder_judge s event with h | h <;> simp [h]

theorem letThrough_offer : (s.offer event).letThrough = s.queue ++ [event] := by
  unfold offer letThrough held
  split <;> simp

/-- An event that the viewer may see is let through, whether the queue has room or not. -/
theorem letThrough_judge :
    (s.judge event).letThrough = s.queue ++ if s.admits event then [event] else [] := by
  unfold judge
  split
  · exact letThrough_offer s event
  · simp [letThrough, held]

theorem decided_offer : (s.offer event).decided = s.receiver.next := by
  rcases forwarder_offer s event with h | h <;> simp [decided, h]

theorem decided_judge : (s.judge event).decided = s.receiver.next := by
  rcases forwarder_judge s event with h | h <;> simp [decided, h]

theorem decided_of_selecting {s : Subscription} {parked : Bool}
    (h : s.forwarder = .selecting parked) : s.decided = s.receiver.next := by
  simp [decided, h]

theorem letThrough_of_selecting {s : Subscription} {parked : Bool}
    (h : s.forwarder = .selecting parked) : s.letThrough = s.queue := by
  simp [letThrough, held, h]

theorem letThrough_of_loading {s : Subscription} {event : Option Event}
    (h : s.forwarder = .loading event) : s.letThrough = s.queue := by
  simp [letThrough, held, h]

/-- A request is granted or kept, and touches nothing else. -/
theorem requestRefresh_eq : s.requestRefresh =
    { s with granted := s.requestRefresh.granted, stored := s.requestRefresh.stored } := by
  unfold requestRefresh
  split <;> rfl

end Operations

/-- One move of a forwarder, with the notes that it leaves. Requests go before events,
and a receiver that is behind learns of its loss before it receives anything. -/
inductive Forwards (bus : Bus) (answer : Except AuthorityError Roles) (s : Subscription) :
    Ledger → Subscription → Prop where
  | heedGranted {parked} (selecting : s.forwarder = .selecting parked)
      (granted : s.granted = true) :
      Forwards bus answer s [.asked bus.log.size none]
        { s with granted := false, forwarder := .loading none }
  | heedStored {parked} (selecting : s.forwarder = .selecting parked)
      (ungranted : s.granted = false) (stored : s.stored = true) :
      Forwards bus answer s [.asked bus.log.size none]
        { s with stored := false, forwarder := .loading none }
  | skip {parked} (selecting : s.forwarder = .selecting parked)
      (unasked : s.granted = false ∧ s.stored = false)
      (behind : s.receiver.next < bus.oldest) :
      Forwards bus answer s [.lost s.receiver.next (bus.oldest - s.receiver.next)]
        { s with receiver := ⟨bus.oldest⟩, forwarder := .selecting false }
  | fetch {parked event} (selecting : s.forwarder = .selecting parked)
      (unasked : s.granted = false ∧ s.stored = false)
      (present : bus.log[s.receiver.next]? = some event)
      (affected : event.affects s.viewer = true) :
      Forwards bus answer s [.asked bus.log.size (some s.receiver.next)]
        { s with receiver := ⟨s.receiver.next + 1⟩, forwarder := .loading (some event) }
  | pass {parked event} (selecting : s.forwarder = .selecting parked)
      (unasked : s.granted = false ∧ s.stored = false)
      (present : bus.log[s.receiver.next]? = some event)
      (unaffected : event.affects s.viewer = false) :
      Forwards bus answer s [.judged s.receiver.next (s.admits event)]
        ({ s with receiver := ⟨s.receiver.next + 1⟩ }.judge event)
  | park (selecting : s.forwarder = .selecting false)
      (unasked : s.granted = false ∧ s.stored = false)
      (absent : bus.log[s.receiver.next]? = none) (isOpen : bus.isOpen = true) :
      Forwards bus answer s [] { s with forwarder := .selecting true }
  | finish {parked} (selecting : s.forwarder = .selecting parked)
      (unasked : s.granted = false ∧ s.stored = false)
      (absent : bus.log[s.receiver.next]? = none) (closed : bus.isOpen = false) :
      Forwards bus answer s [] { s with forwarder := .finished }
  | learn (loading : s.forwarder = .loading none) :
      Forwards bus answer s [.told answer]
        { s with roles := s.roles.update answer, forwarder := .selecting false }
  | learnFor {event} (loading : s.forwarder = .loading (some event)) :
      Forwards bus answer s
        [.told answer, .judged (s.receiver.next - 1)
          ({ s with roles := s.roles.update answer }.admits event)]
        ({ s with roles := s.roles.update answer }.judge event)
  | release {event} (holding : s.forwarder = .holding event)
      (room : s.queue.length < s.capacity) :
      Forwards bus answer s [] (s.offer event)

section Frame

variable {bus : Bus} {answer : Except AuthorityError Roles} {s t : Subscription} {notes : Ledger}

theorem Forwards.viewer (h : Forwards bus answer s notes t) : t.viewer = s.viewer := by
  cases h <;> simp

theorem Forwards.minRole (h : Forwards bus answer s notes t) : t.minRole = s.minRole := by
  cases h <;> simp

theorem Forwards.capacity (h : Forwards bus answer s notes t) : t.capacity = s.capacity := by
  cases h <;> simp

end Frame

/-- What the forwarder does at the selection point when nothing was requested. -/
theorem forwards_of_receive {bus : Bus} {answer : Except AuthorityError Roles}
    {s t : Subscription} {parked : Bool} (selecting : s.forwarder = .selecting parked)
    (unasked : s.granted = false ∧ s.stored = false) (h : s.receive bus parked = some t) :
    Forwards bus answer s
      (match bus.receive s.receiver with
        | (.event event, _) =>
          if event.affects s.viewer then [.asked bus.log.size (some s.receiver.next)]
          else [.judged s.receiver.next (s.admits event)]
        | (.lagged count, _) => [.lost s.receiver.next count]
        | (.empty, _) | (.closed, _) => []) t := by
  unfold receive Bus.receive at h
  unfold Bus.receive
  by_cases behind : s.receiver.next < bus.oldest
  · simp only [behind, if_true] at h ⊢
    obtain rfl := Option.some.inj h
    exact .skip selecting unasked behind
  · simp only [behind, if_false] at h ⊢
    cases present : bus.log[s.receiver.next]? with
    | some event =>
        simp only [present, consider] at h ⊢
        by_cases affected : event.affects s.viewer = true
        · simp only [affected, if_true] at h ⊢
          obtain rfl := Option.some.inj h
          exact .fetch selecting unasked present affected
        · have unaffected : event.affects s.viewer = false := by simpa using affected
          simp only [unaffected, Bool.false_eq_true, if_false] at h ⊢
          obtain rfl := Option.some.inj h
          exact .pass selecting unasked present unaffected
    | none =>
        cases isOpen : bus.isOpen with
        | true =>
            simp only [present, isOpen, if_true] at h ⊢
            cases parked with
            | true => simp at h
            | false =>
                obtain rfl := by simpa using h
                exact .park selecting unasked present isOpen
        | false =>
            simp only [present, isOpen, Bool.false_eq_true, if_false] at h ⊢
            obtain rfl := Option.some.inj h
            exact .finish selecting unasked present isOpen

/-- Every move of a forwarder is one of those listed. -/
theorem forwards_of_advance {bus : Bus} {answer : Except AuthorityError Roles}
    {s t : Subscription} (h : s.advance bus answer = some t) :
    Forwards bus answer s (s.notes bus answer) t := by
  cases hforwarder : s.forwarder with
  | selecting parked =>
      simp only [advance, hforwarder] at h
      simp only [notes, hforwarder]
      cases hgranted : s.granted with
      | true =>
          obtain rfl := by simpa [hgranted] using h
          simpa using Forwards.heedGranted hforwarder hgranted
      | false =>
          cases hstored : s.stored with
          | true =>
              obtain rfl := by simpa [hgranted, hstored] using h
              have heeded : Forwards bus answer s _ _ := .heedStored hforwarder hgranted hstored
              simpa [hgranted] using heeded
          | false =>
              simp only [hgranted, hstored, Bool.false_eq_true, if_false, Bool.or_self] at h ⊢
              exact forwards_of_receive hforwarder ⟨hgranted, hstored⟩ h
  | loading event =>
      cases event with
      | none =>
          obtain rfl := by simpa [advance, hforwarder, learn_eq] using h
          simpa [notes, hforwarder] using Forwards.learn hforwarder
      | some event =>
          obtain rfl := by simpa [advance, hforwarder, learn_eq] using h
          simpa [notes, hforwarder, learn_eq] using Forwards.learnFor hforwarder
  | holding event =>
      simp only [advance, hforwarder] at h
      split at h
      next room =>
        obtain rfl := Option.some.inj h
        simpa [notes, hforwarder] using Forwards.release hforwarder room
      next => simp at h
  | finished => simp [advance, hforwarder] at h

end Subscription

end Flotilla
