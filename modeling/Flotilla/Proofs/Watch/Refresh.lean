import Flotilla.Proofs.Watch.Account

/-!
# Requests to look roles up again

A forwarder heeds a request before it receives anything more. So whatever it receives after a
request is judged by roles that were asked for after the request, wherever the forwarder stood when
the request was made. Requests that find the forwarder away from the selection point are kept as
one, and cost one question when it gets there.
-/

namespace Flotilla

namespace Note

/-- Whether a note is a question that was requested. -/
@[simp] def isRequested : Note → Bool
  | .asked _ none => true
  | _ => false

end Note

namespace Ledger

/-- How often the authority was asked because of requests. -/
def requested (ledger : Ledger) : Nat := ledger.countP Note.isRequested

@[simp] theorem requested_nil : requested [] = 0 := rfl

@[simp] theorem requested_cons (note : Note) (rest : Ledger) :
    requested (note :: rest) = requested rest + note.isRequested.toNat := by
  unfold requested
  rw [List.countP_cons]
  cases note.isRequested <;> rfl

@[simp] theorem requested_append (a b : Ledger) :
    requested (a ++ b) = a.requested + b.requested := by
  simp [requested]

/-- A ledger whose last answer was asked for after the notes `past`, when at least `size` events
had been published. -/
def Refreshed (ledger past : Ledger) (size : Nat) : Prop :=
  ∃ (between : Ledger) (published : Nat) (cause : Option Nat)
    (answer : Except AuthorityError Roles) (later : Ledger),
    ledger = past ++ between ++ .asked published cause :: .told answer :: later ∧
      size ≤ published ∧ later.answers = []

/-- Whether a note, if it decides on an event from the position `next` on, follows an answer that
was asked for after the notes `past`. -/
def Follows (past : Ledger) (next size : Nat) (before : Ledger) : Note → Prop
  | .judged position _ => next ≤ position → before.Refreshed past size
  | .asked .. | .told _ | .lost .. => True

variable {past ledger more : Ledger} {size : Nat}

theorem Refreshed.append (h : ledger.Refreshed past size) (unanswered : more.answers = []) :
    (ledger ++ more).Refreshed past size := by
  obtain ⟨between, published, cause, answer, later, rfl, hsize, hlater⟩ := h
  exact ⟨between, published, cause, answer, later ++ more, by simp, hsize,
    by simp [hlater, unanswered]⟩

end Ledger

namespace Subscription

variable {s : Subscription} {event : Event}

theorem forwarder_offer_ne_parked : (s.offer event).forwarder ≠ .selecting true := by
  rcases forwarder_offer s event with h | h <;> simp [h]

theorem forwarder_judge_ne_parked : (s.judge event).forwarder ≠ .selecting true := by
  rcases forwarder_judge s event with h | h <;> simp [h]

/-- A request is granted or kept. -/
theorem granted_or_stored_requestRefresh (s : Subscription) :
    s.requestRefresh.granted = true ∨ s.requestRefresh.stored = true := by
  unfold requestRefresh
  split <;> simp

end Subscription

namespace Watch

/-- How far a request has come that was made after the notes `past`, when the next event to be
received was the one at `next` and `size` events had been published. -/
inductive Heeding (past : Ledger) (next size : Nat) (w : Watch) : Prop where
  /-- The forwarder has not been at the selection point since. -/
  | waiting {between} (ledger : w.ledger = past ++ between)
      (kept : w.subscription.granted = true ∨ w.subscription.stored = true)
      (unmoved : w.subscription.receiver.next = next)
  /-- The authority has been asked since, and has not answered. -/
  | asking {between published cause} (loading : w.subscription.isLoading = true)
      (ledger : w.ledger = past ++ between ++ [.asked published cause]) (later : size ≤ published)
  /-- The authority has answered. -/
  | heeded (idle : w.subscription.isLoading = false) (refreshed : w.ledger.Refreshed past size)

/-- Moves during which the forwarder does not look around at the selection point. -/
inductive Away : Watch → List Move → Watch → Prop where
  | nil (w) : Away w [] w
  | cons {w move next moves t} (stepped : step move w = some next)
      (elsewhere : ∀ answer parked, move = .forward answer →
        w.subscription.forwarder ≠ .selecting parked)
      (rest : Away next moves t) : Away w (move :: moves) t

variable {w t u : Watch} {start next size : Nat} {roles : Roles} {past : Ledger} {move : Move}
  {moves : List Move} {answer : Except AuthorityError Roles} {notes : Ledger} {s : Subscription}

namespace Heeding

theorem exists_ledger (h : Heeding past next size w) : ∃ between, w.ledger = past ++ between := by
  cases h with
  | waiting ledger => exact ⟨_, ledger⟩
  | asking _ ledger => exact ⟨_, by simpa using ledger⟩
  | heeded _ refreshed =>
      obtain ⟨between, published, cause, answer, later, ledger, -⟩ := refreshed
      exact ⟨_, by simpa using ledger⟩

/-- A forwarder that receives an event has heeded every request. -/
theorem refreshed_of_unasked (h : Heeding past next size w) {parked : Bool}
    (selecting : w.subscription.forwarder = .selecting parked)
    (unasked : w.subscription.granted = false ∧ w.subscription.stored = false) :
    w.ledger.Refreshed past size := by
  cases h with
  | waiting _ kept => simp [unasked] at kept
  | asking loading => simp [Subscription.isLoading_of_selecting selecting] at loading
  | heeded _ refreshed => exact refreshed

/-- The answer to a question that was asked since the request, or the wait for the selection
point. -/
theorem told (h : Heeding past next size w) (loading : w.subscription.isLoading = true)
    (answer : Except AuthorityError Roles) :
    Ledger.Refreshed (w.ledger ++ [.told answer]) past size ∨
      (∃ between, w.ledger = past ++ between) ∧
        (w.subscription.granted = true ∨ w.subscription.stored = true) ∧
        w.subscription.receiver.next = next := by
  cases h with
  | waiting ledger kept unmoved => exact .inr ⟨⟨_, ledger⟩, kept, unmoved⟩
  | @asking between published cause _ ledger later =>
      exact .inl ⟨between, published, cause, answer, [], by simp [ledger], later, rfl⟩
  | heeded idle => simp [idle] at loading

theorem forward (h : Heeding past next size w) (published : size ≤ w.bus.log.size)
    (forwards : w.subscription.Forwards w.bus answer notes s) :
    Heeding past next size { w with subscription := s, ledger := w.ledger ++ notes } := by
  obtain ⟨between, hledger⟩ := h.exists_ledger
  cases forwards with
  | heedGranted => exact .asking rfl (by rw [hledger]) published
  | heedStored => exact .asking rfl (by rw [hledger]) published
  | fetch => exact .asking rfl (by rw [hledger]) published
  | skip selecting unasked =>
      exact .heeded rfl ((h.refreshed_of_unasked selecting unasked).append rfl)
  | pass selecting unasked =>
      exact .heeded (Subscription.isLoading_judge _)
        ((h.refreshed_of_unasked selecting unasked).append rfl)
  | park selecting unasked =>
      exact .heeded rfl ((h.refreshed_of_unasked selecting unasked).append rfl)
  | finish selecting unasked =>
      exact .heeded rfl ((h.refreshed_of_unasked selecting unasked).append rfl)
  | learn loading =>
      rcases h.told (by simp [Subscription.isLoading, loading]) answer with
        refreshed | ⟨⟨_, ledger⟩, kept, unmoved⟩
      · exact .heeded rfl refreshed
      · exact .waiting (by rw [ledger, List.append_assoc]) kept unmoved
  | learnFor loading =>
      rcases h.told (by simp [Subscription.isLoading, loading]) answer with
        refreshed | ⟨⟨_, ledger⟩, kept, unmoved⟩
      · exact .heeded (Subscription.isLoading_judge _) (by simpa using refreshed.append rfl)
      · exact .waiting (by rw [ledger, List.append_assoc]) (by simpa using kept)
          (by simpa using unmoved)
  | release holding =>
      cases h with
      | waiting ledger kept unmoved =>
          exact .waiting (by rw [ledger, List.append_nil]) (by simpa using kept)
            (by simpa using unmoved)
      | asking loading => simp [Subscription.isLoading, holding] at loading
      | heeded idle refreshed =>
          exact .heeded (Subscription.isLoading_offer _) (by simpa using refreshed)

/-- Whatever a move decides on was received before the request, or the request has been heeded. -/
theorem follows_forward (h : Heeding past next size w) (attached : w.subscription.Attached w.bus)
    (follows : w.ledger.Accounted (Ledger.Follows past next size))
    (forwards : w.subscription.Forwards w.bus answer notes s) :
    (w.ledger ++ notes).Accounted (Ledger.Follows past next size) := by
  cases forwards with
  | heedGranted => exact follows.snoc trivial
  | heedStored => exact follows.snoc trivial
  | skip => exact follows.snoc trivial
  | fetch => exact follows.snoc trivial
  | pass selecting unasked => exact follows.snoc fun _ => h.refreshed_of_unasked selecting unasked
  | park => simpa using follows
  | finish => simpa using follows
  | learn => exact follows.snoc trivial
  | learnFor loading =>
      obtain ⟨position, hnext, -⟩ := attached.loading _ loading
      have htold : (w.ledger ++ [Note.told answer]).Accounted (Ledger.Follows past next size) :=
        follows.snoc trivial
      rw [List.append_cons]
      refine htold.snoc fun hposition => ?_
      rcases h.told (by simp [Subscription.isLoading, loading]) answer with
        refreshed | ⟨-, -, unmoved⟩
      · exact refreshed
      · omega
  | release => simpa using follows

end Heeding

theorem Heeding.step (h : Heeding past next size w) (published : size ≤ w.bus.log.size)
    (steps : Steps w move t) : Heeding past next size t := by
  cases steps with
  | forward forwards => exact h.forward published forwards
  | publish | close | take =>
      cases h with
      | waiting ledger kept unmoved => exact .waiting ledger kept unmoved
      | asking loading ledger later => exact .asking loading ledger later
      | heeded idle refreshed => exact .heeded idle refreshed
  | refresh =>
      cases h with
      | waiting ledger _ unmoved =>
          refine .waiting ledger (Subscription.granted_or_stored_requestRefresh _) ?_
          rw [Subscription.requestRefresh_eq]
          exact unmoved
      | asking loading ledger later =>
          refine .asking ?_ ledger later
          rw [Subscription.requestRefresh_eq]
          exact loading
      | heeded idle refreshed =>
          refine .heeded ?_ refreshed
          rw [Subscription.requestRefresh_eq]
          exact idle

/-- After a request, every decision on an event that is received later follows an answer that was
asked for since. -/
theorem Run.follows (run : Run w (.refresh :: moves) t) (account : Account start roles w) :
    t.ledger.Accounted
      (Ledger.Follows w.ledger w.subscription.receiver.next w.bus.log.size) := by
  obtain _ | ⟨stepped, rest⟩ := run
  obtain rfl := Option.some.inj stepped
  have invariant := rest.invariant
    (P := fun v => Account start roles v ∧ w.bus.log.size ≤ v.bus.log.size ∧
      Heeding w.ledger w.subscription.receiver.next w.bus.log.size v ∧
      v.ledger.Accounted (Ledger.Follows w.ledger w.subscription.receiver.next w.bus.log.size))
    ?_ ⟨account.refresh, Nat.le_refl _, ?_, ?_⟩
  · exact invariant.2.2.2
  · rintro move - u v ⟨account, published, heeding, follows⟩ stepped
    have steps := steps_of_step stepped
    refine ⟨account.step steps, Nat.le_trans published steps.grows.size,
      heeding.step published steps, ?_⟩
    cases steps with
    | forward forwards => exact heeding.follows_forward account.attached follows forwards
    | publish | close | refresh | take => exact follows
  · refine .waiting (List.append_nil _).symm (Subscription.granted_or_stored_requestRefresh _) ?_
    rw [Subscription.requestRefresh_eq]
  · intro before note after hledger
    cases note with
    | judged position admitted =>
        intro hposition
        have hmem : position ∈ w.ledger.positions := Ledger.mem_positions_of_judged
          (hledger ▸ List.mem_append_right _ (List.mem_cons_self ..))
        have hlt := (account.lt_of_mem hmem).2
        have hle : w.decided ≤ w.subscription.receiver.next := Subscription.decided_le_next _
        omega
    | asked | told | lost => trivial

/-- What stands behind a decision of `t` on an event that was received after a request at `s`. The
authority was asked since the request, when no less had been published than at `s`; the answer is
the last one before the decision, and the roles that it left the viewer with decide. -/
def Afresh (roles : Roles) (minRole : Role) (s t : Watch) (before : Ledger) (position : Nat)
    (admitted : Bool) : Prop :=
  ∃ (between : Ledger) (published : Nat) (cause : Option Nat)
    (answer : Except AuthorityError Roles) (later : Ledger) (event : Event),
    before = s.ledger ++ between ++ .asked published cause :: .told answer :: later ∧
    s.bus.log.size ≤ published ∧ later.answers = [] ∧ t.bus.log[position]? = some event ∧
    (admitted = true ↔
      (((s.ledger ++ between).rolesAfter roles).update answer).Visible minRole event)

theorem Run.afresh (run : Run w (.refresh :: moves) t) (account : Account start roles w)
    {before after : Ledger} {position : Nat} {admitted : Bool}
    (hledger : t.ledger = before ++ .judged position admitted :: after)
    (received : w.subscription.receiver.next ≤ position) :
    Afresh roles w.subscription.minRole w t before position admitted := by
  obtain ⟨between, published, cause, answer, later, rfl, hsize, hlater⟩ :=
    run.follows account before _ after hledger received
  obtain ⟨event, present, hadmitted, -⟩ :=
    ((run.account account).explained _ _ after hledger).verdict
  refine ⟨between, published, cause, answer, later, event, rfl, hsize, hlater, present, ?_⟩
  rw [hadmitted, run.grows.minRole]
  simp [Ledger.rolesAfter, hlater]

/-- Only a parked forwarder is handed a request. -/
def Orderly (w : Watch) : Prop :=
  w.subscription.granted = true → w.subscription.forwarder = .selecting true

theorem orderly_of_open {bus : Bus} {viewer : ViewerId} {minRole : Role} {capacity : Nat}
    (h : open? bus viewer minRole roles capacity = some w) : Orderly w := by
  obtain rfl := eq_of_open h
  simp [Orderly]

theorem Orderly.step (h : Orderly w) (steps : Steps w move t) : Orderly t := by
  unfold Orderly at *
  cases steps with
  | publish | close | take => exact h
  | refresh =>
      unfold Subscription.requestRefresh
      split
      next parked => exact fun _ => parked.1
      next => exact h
  | forward forwards =>
      cases forwards with
      | heedGranted => simp
      | heedStored _ ungranted => simp [ungranted]
      | skip _ unasked | fetch _ unasked | park _ unasked | finish _ unasked => simp [unasked]
      | pass _ unasked => simp [unasked]
      | learn loading => simp_all
      | learnFor loading => simp_all
      | release holding => simp_all

/-- A forwarder that is not parked, that has been handed no request, and that has asked so often
because of requests. -/
structure Keeping (requests : Nat) (w : Watch) : Prop where
  unparked : w.subscription.forwarder ≠ .selecting true
  ungranted : w.subscription.granted = false
  requested : w.ledger.requested = requests

theorem Keeping.refresh {requests : Nat} (h : Keeping requests w) :
    w.subscription.requestRefresh = { w.subscription with stored := true } := by
  simp [Subscription.requestRefresh, h.unparked]

theorem Keeping.forward {requests : Nat} (h : Keeping requests w)
    (elsewhere : ∀ parked, w.subscription.forwarder ≠ .selecting parked)
    (forwards : w.subscription.Forwards w.bus answer notes s) :
    Keeping requests { w with subscription := s, ledger := w.ledger ++ notes } ∧
      s.stored = w.subscription.stored := by
  cases forwards with
  | heedGranted selecting => exact absurd selecting (elsewhere _)
  | heedStored selecting => exact absurd selecting (elsewhere _)
  | skip selecting => exact absurd selecting (elsewhere _)
  | fetch selecting => exact absurd selecting (elsewhere _)
  | pass selecting => exact absurd selecting (elsewhere _)
  | park selecting => exact absurd selecting (elsewhere _)
  | finish selecting => exact absurd selecting (elsewhere _)
  | learn => exact ⟨⟨by simp, h.ungranted, by simp [h.requested]⟩, rfl⟩
  | learnFor =>
      exact ⟨⟨Subscription.forwarder_judge_ne_parked, by simpa using h.ungranted,
        by simp [h.requested]⟩, by simp⟩
  | release =>
      exact ⟨⟨Subscription.forwarder_offer_ne_parked, by simpa using h.ungranted,
        by simp [h.requested]⟩, by simp⟩

/-- As long as the forwarder does not come to the selection point, requests are kept and nothing
is asked because of them. -/
theorem Keeping.step {requests : Nat} (h : Keeping requests w) (steps : Steps w move t)
    (elsewhere : ∀ answer parked, move = .forward answer →
      w.subscription.forwarder ≠ .selecting parked) :
    Keeping requests t ∧
      (w.subscription.stored = true ∨ move = .refresh → t.subscription.stored = true) := by
  cases steps with
  | publish | close | take => exact ⟨⟨h.unparked, h.ungranted, h.requested⟩, by simp⟩
  | refresh =>
      rw [h.refresh]
      exact ⟨⟨h.unparked, h.ungranted, h.requested⟩, fun _ => rfl⟩
  | forward forwards =>
      obtain ⟨keeping, hstored⟩ := h.forward (fun parked => elsewhere _ parked rfl) forwards
      exact ⟨keeping, by simp [hstored]⟩

theorem Keeping.away {requests : Nat} (h : Keeping requests w) (away : Away w moves t) :
    Keeping requests t ∧
      (w.subscription.stored = true ∨ .refresh ∈ moves → t.subscription.stored = true) := by
  induction away with
  | nil => exact ⟨h, by simp⟩
  | cons stepped elsewhere _ ih =>
      obtain ⟨keeping, hstored⟩ := h.step (steps_of_step stepped) elsewhere
      obtain ⟨hrest, hlast⟩ := ih keeping
      refine ⟨hrest, fun hasked => hlast ?_⟩
      rcases hasked with hasked | hasked
      · exact .inl (hstored (.inl hasked))
      · rcases List.mem_cons.mp hasked with heq | hmem
        · exact .inl (hstored (.inr heq.symm))
        · exact .inr hmem

/-- Without a new request, nothing is asked because of requests once all are heeded. -/
theorem Run.requested (run : Run w moves t) (requestless : .refresh ∉ moves)
    (unasked : w.subscription.granted = false ∧ w.subscription.stored = false) :
    t.ledger.requested = w.ledger.requested := by
  have invariant := run.invariant
    (P := fun v => (v.subscription.granted = false ∧ v.subscription.stored = false) ∧
      v.ledger.requested = w.ledger.requested) ?_ ⟨unasked, rfl⟩
  · exact invariant.2
  · rintro move hmove u v ⟨⟨ungranted, unstored⟩, hrequested⟩ stepped
    cases steps_of_step stepped with
    | publish | close | take => exact ⟨⟨ungranted, unstored⟩, hrequested⟩
    | refresh => exact absurd hmove requestless
    | forward forwards =>
        cases forwards with
        | heedGranted _ granted => simp [ungranted] at granted
        | heedStored _ _ stored => simp [unstored] at stored
        | _ => simp [ungranted, unstored, hrequested]

/-- Requests that find the forwarder away from the selection point are one: none of them makes it
ask before it gets there, there it asks at once, and it does not ask again. -/
theorem Away.asks_once (away : Away w moves t) (orderly : Orderly w)
    (unparked : w.subscription.forwarder ≠ .selecting true) (asked : .refresh ∈ moves)
    {parked : Bool} (selecting : t.subscription.forwarder = .selecting parked) :
    t.ledger.requested = w.ledger.requested ∧ ∀ answer, ∃ next,
      step (.forward answer) t = some next ∧ next.subscription.forwarder = .loading none ∧
      ∀ rest u, Run next rest u → .refresh ∉ rest →
        u.ledger.requested = w.ledger.requested + 1 := by
  have ungranted : w.subscription.granted = false := by
    cases hgranted : w.subscription.granted with
    | false => rfl
    | true => exact absurd (orderly hgranted) unparked
  obtain ⟨keeping, hstored⟩ := Keeping.away ⟨unparked, ungranted, rfl⟩ away
  have stored := hstored (.inr asked)
  refine ⟨keeping.requested, fun answer => ?_⟩
  have advanced : t.subscription.advance t.bus answer =
      some { t.subscription with stored := false, forwarder := .loading none } := by
    simp [Subscription.advance, selecting, keeping.ungranted, stored]
  have hnotes : t.subscription.notes t.bus answer = [.asked t.bus.log.size none] := by
    simp [Subscription.notes, selecting, stored]
  have stepped : step (.forward answer) t = some
      { t with
        subscription := { t.subscription with stored := false, forwarder := .loading none }
        ledger := t.ledger ++ [.asked t.bus.log.size none] } := by
    simp only [step, advanced, hnotes]
    rfl
  refine ⟨_, stepped, rfl, fun rest u run requestless => ?_⟩
  rw [run.requested requestless ⟨keeping.ungranted, rfl⟩]
  simp [keeping.requested]

end Watch

end Flotilla
