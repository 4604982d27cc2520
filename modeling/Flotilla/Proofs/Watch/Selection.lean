import Mathlib.Data.List.Induction
import Flotilla.Proofs.Watch.Progress

/-!
# Which events a reader takes

The reference is a scan that walks over the published events once. It knows no queue, no
bus and no forwarder: it looks the roles up when an event lists the viewer as affected,
and selects an event if the roles of that moment show it. A watch without losses and
without requests keeps in step with the scan. What its reader takes are the events that
the scan selects, and it asks the authority as often as the scan does.
-/

namespace Flotilla

/-- The result of a scan: the events selected, the roles held, and how often they were
looked up. -/
structure Scan where
  selected : List Event
  roles : Roles
  loads : Nat

namespace Scan

section

variable (viewer : ViewerId) (minRole : Role) (outcomes : Nat → Except AuthorityError Roles)

/-- Looks the roles up if the event lists the viewer as affected. -/
def load (scan : Scan) (event : Event) : Scan :=
  if event.affects viewer then
    { scan with roles := scan.roles.update (outcomes scan.loads), loads := scan.loads + 1 }
  else scan

/-- Selects the event if the roles show it. -/
def select (scan : Scan) (event : Event) : Scan :=
  if scan.roles.Visible minRole event then
    { scan with selected := scan.selected ++ [event] }
  else scan

/-- The scan of some events, for a viewer who holds `roles` at first. The outcome of the
look-up number `k` is `outcomes k`. -/
def of (roles : Roles) (events : List Event) : Scan :=
  events.foldl (fun scan event => (scan.load viewer outcomes event).select minRole event)
    ⟨[], roles, 0⟩

end

variable {viewer : ViewerId} {minRole : Role} {outcomes : Nat → Except AuthorityError Roles}
  {roles : Roles} {events : List Event}

theorem of_concat (event : Event) :
    of viewer minRole outcomes roles (events ++ [event]) =
      ((of viewer minRole outcomes roles events).load viewer outcomes event).select
        minRole event := by
  simp [of]

@[simp] theorem selected_load (scan : Scan) (event : Event) :
    (scan.load viewer outcomes event).selected = scan.selected := by
  unfold load
  split <;> rfl

@[simp] theorem loads_select (scan : Scan) (event : Event) :
    (scan.select minRole event).loads = scan.loads := by
  unfold select
  split <;> rfl

theorem selected_prefix_select (scan : Scan) (event : Event) :
    scan.selected <+: (scan.select minRole event).selected := by
  unfold select
  split
  · exact List.prefix_append _ _
  · exact List.prefix_refl _

/-- The roles are looked up once for each event that lists the viewer as affected. -/
theorem loads_of :
    (of viewer minRole outcomes roles events).loads = events.countP (·.affects viewer) := by
  induction events using List.reverseRecOn with
  | nil => rfl
  | append_singleton events event ih =>
      rw [of_concat, loads_select, List.countP_append, ← ih]
      unfold load
      split <;> simp_all

/-- What is selected stays selected when the scan goes on. -/
theorem selected_prefix_of_append (more : List Event) :
    (of viewer minRole outcomes roles events).selected <+:
      (of viewer minRole outcomes roles (events ++ more)).selected := by
  induction more using List.reverseRecOn with
  | nil => simp
  | append_singleton more event ih =>
      rw [← List.append_assoc, of_concat]
      apply ih.trans
      simpa using selected_prefix_select (Scan.load viewer outcomes _ event) event

end Scan

/-- That the authority's answer to the question number `k` was `outcomes k`. -/
def Ledger.Answered (outcomes : Nat → Except AuthorityError Roles) (ledger : Ledger) : Prop :=
  ∀ (k : Nat) answer, ledger.answers[k]? = some answer → answer = outcomes k

theorem Ledger.Answered.of_append {outcomes : Nat → Except AuthorityError Roles} {a b : Ledger}
    (h : Answered outcomes (a ++ b)) : Answered outcomes a := by
  intro k answer hk
  obtain ⟨hlt, -⟩ := List.getElem?_eq_some_iff.mp hk
  apply h k answer
  rw [answers_append, List.getElem?_append_left hlt, hk]

namespace Watch

variable {w t : Watch} {start : Nat} {roles : Roles} {move : Move} {moves : List Move}
  {outcomes : Nat → Except AuthorityError Roles}

/-- The events that are decided, of those published from the position `start` on. -/
def decidedEvents (start : Nat) (w : Watch) : List Event :=
  (w.bus.log.toList.take w.decided).drop start

/-- The events from the position `start` on are those decided and those that are not. -/
theorem Account.drop_log (h : Account start roles w) :
    w.bus.log.toList.drop start = w.decidedEvents start ++ w.bus.log.toList.drop w.decided := by
  have hstart := h.start_le
  have hsize := h.decided_le_size
  have hle : start ≤ (w.bus.log.toList.take w.decided).length := by
    simp only [List.length_take, Array.length_toList]
    omega
  rw [decidedEvents, ← List.drop_append_of_le_length hle, List.take_append_drop]

/-- That a watch stands where the scan of the decided events stands. -/
def InStep (outcomes : Nat → Except AuthorityError Roles) (start : Nat) (roles : Roles)
    (w : Watch) : Prop :=
  Scan.of w.subscription.viewer w.subscription.minRole outcomes roles (w.decidedEvents start) =
    ⟨w.taken ++ w.subscription.letThrough, w.subscription.roles, w.ledger.answers.length⟩

/-- Deciding on one more event makes the decided events longer by it. -/
theorem take_succ_drop {log : List Event} {position : Nat} {event : Event}
    (hstart : start ≤ position) (present : log[position]? = some event) :
    (log.take (position + 1)).drop start = (log.take position).drop start ++ [event] := by
  obtain ⟨hlt, -⟩ := List.getElem?_eq_some_iff.mp present
  rw [List.take_add_one, present, List.drop_append_of_le_length]
  · rfl
  · rw [List.length_take]
    omega

/-- The scan judges an event as the forwarder does. -/
theorem select_eq_judge (s : Subscription) (event : Event) (taken : List Event) (loads : Nat)
    (hthrough : s.letThrough = s.queue) :
    Scan.select s.minRole ⟨taken ++ s.letThrough, s.roles, loads⟩ event =
      ⟨taken ++ (s.judge event).letThrough, (s.judge event).roles, loads⟩ := by
  rw [Subscription.letThrough_judge, Subscription.roles_judge, hthrough]
  by_cases hvisible : s.roles.Visible s.minRole event
  · have hadmits : s.admits event = true := (Subscription.admits_iff s event).mpr hvisible
    simp [Scan.select, hvisible, hadmits]
  · have hadmits : s.admits event = false := by
      simpa using mt (Subscription.admits_iff s event).mp hvisible
    simp [Scan.select, hvisible, hadmits]

theorem InStep.publish (h : InStep outcomes start roles w) (account : Account start roles w)
    (event : Event) :
    InStep outcomes start roles
      { w with bus := { w.bus with log := w.bus.log.push event } } := by
  have hle : w.decided ≤ w.bus.log.toList.length := account.decided_le_size
  unfold InStep decidedEvents at *
  rw [← h, Array.toList_push]
  exact congrArg (fun events => Scan.of _ _ outcomes roles (List.drop start events))
    (List.take_append_of_le_length hle)

theorem InStep.forward {answer : Except AuthorityError Roles} {notes : Ledger}
    {s : Subscription} (h : InStep outcomes start roles w) (account : Account start roles w)
    (unrefreshed : Unrefreshed w) (forwards : w.subscription.Forwards w.bus answer notes s)
    (kept : notes.losses = []) (answered : (w.ledger ++ notes).Answered outcomes) :
    InStep outcomes start roles { w with subscription := s, ledger := w.ledger ++ notes } := by
  have hstart := account.start_le
  have hattached := account.attached
  unfold InStep decidedEvents decided at *
  cases forwards with
  | heedGranted selecting granted => simp [unrefreshed.granted] at granted
  | heedStored selecting ungranted stored => simp [unrefreshed.stored] at stored
  | skip selecting unasked behind =>
      have hlost : w.bus.oldest - w.subscription.receiver.next = 0 := by simpa using kept
      omega
  | fetch selecting =>
      rw [Subscription.decided_of_selecting selecting,
        Subscription.letThrough_of_selecting selecting] at h
      simpa [Subscription.decided, Subscription.letThrough, Subscription.held] using h
  | @pass _ event selecting unasked present unaffected =>
      rw [Subscription.decided_of_selecting selecting] at h hstart
      have hthrough := Subscription.letThrough_of_selecting selecting
      have hjudge := select_eq_judge
        { w.subscription with receiver := ⟨w.subscription.receiver.next + 1⟩ } event w.taken
        w.ledger.answers.length
        (by simpa [Subscription.letThrough, Subscription.held] using hthrough)
      rw [Subscription.decided_judge, take_succ_drop hstart (by simpa using present),
        Subscription.viewer_judge, Subscription.minRole_judge, Scan.of_concat, h]
      simpa [Scan.load, unaffected, Subscription.letThrough, Subscription.held] using hjudge
  | park selecting =>
      rw [Subscription.decided_of_selecting selecting,
        Subscription.letThrough_of_selecting selecting] at h
      simpa [Subscription.decided, Subscription.letThrough, Subscription.held] using h
  | finish selecting =>
      rw [Subscription.decided_of_selecting selecting,
        Subscription.letThrough_of_selecting selecting] at h
      simpa [Subscription.decided, Subscription.letThrough, Subscription.held] using h
  | learn loading => exact absurd loading unrefreshed.forwarder
  | @learnFor event loading =>
      obtain ⟨position, hnext, present, affected⟩ := hattached.loading event loading
      have hdecided : w.subscription.decided = position := by
        simp [Subscription.decided, loading, hnext]
      have hthrough := Subscription.letThrough_of_loading loading
      have hanswer : answer = outcomes w.ledger.answers.length :=
        answered w.ledger.answers.length answer (by simp)
      have hjudge := select_eq_judge
        { w.subscription with roles := w.subscription.roles.update answer } event w.taken
        (w.ledger.answers.length + 1)
        (by simpa [Subscription.letThrough, Subscription.held] using hthrough)
      rw [hdecided] at h hstart
      rw [Subscription.decided_judge, hnext, take_succ_drop hstart (by simpa using present),
        Subscription.viewer_judge, Subscription.minRole_judge, Scan.of_concat, h]
      simpa [Scan.load, affected, hanswer, Subscription.letThrough, Subscription.held] using hjudge
  | @release event holding =>
      rw [Subscription.decided_offer, Subscription.letThrough_offer]
      simpa [Subscription.decided, Subscription.letThrough, Subscription.held, holding] using h

theorem InStep.step (account : Account start roles w) (unrefreshed : Unrefreshed w)
    (h : w.ledger.losses = [] → w.ledger.Answered outcomes → InStep outcomes start roles w)
    (steps : Steps w move t) (kept : t.ledger.losses = [])
    (answered : t.ledger.Answered outcomes) : InStep outcomes start roles t := by
  cases steps with
  | publish => exact (h kept answered).publish account _
  | close => exact h kept answered
  | refresh =>
      have hstep := h kept answered
      rw [Subscription.requestRefresh_eq]
      exact hstep
  | forward forwards =>
      obtain ⟨hbefore, hnotes⟩ := by simpa using kept
      exact (h hbefore answered.of_append).forward account unrefreshed forwards hnotes answered
  | take ready =>
      have hstep := h kept answered
      unfold InStep at hstep ⊢
      simpa [Subscription.letThrough, Subscription.held, ready, decidedEvents, decided,
        Subscription.decided] using hstep

/-- A watch without losses and requests keeps in step with the scan. -/
theorem Run.inStep (run : Run w moves t) (requestless : .refresh ∉ moves)
    (account : Account start roles w) (unrefreshed : Unrefreshed w)
    (h : InStep outcomes start roles w) (kept : t.ledger.losses = [])
    (answered : t.ledger.Answered outcomes) : InStep outcomes start roles t := by
  -- What holds in the end of losses and answers holds at every earlier moment, so it stands
  -- before the arrow of the invariant.
  have invariant := run.invariant (P := fun w => Account start roles w ∧ Unrefreshed w ∧
      (w.ledger.losses = [] → w.ledger.Answered outcomes → InStep outcomes start roles w))
    ?_ ⟨account, unrefreshed, fun _ _ => h⟩
  · exact invariant.2.2 kept answered
  · rintro move hmove w t ⟨account, unrefreshed, h⟩ stepped
    have hother : move ≠ .refresh := fun heq => requestless (heq ▸ hmove)
    have steps := steps_of_step stepped
    exact ⟨account.step steps, unrefreshed.step steps hother,
      InStep.step account unrefreshed h steps⟩

section Opened

variable {bus : Bus} {viewer : ViewerId} {minRole : Role} {capacity : Nat}

/-- Exact delivery. Along every run without losses and requests, whatever the authority
answers and whenever the reader reads, the reader takes the events that the scan of the
published events selects, in that order; the authority is asked once for each published
event that lists the viewer as affected. The watch is at rest with this after as many moves
of its own as its effort allows. -/
theorem exact_delivery (opened : open? bus viewer minRole roles capacity = some w)
    (run : Run w moves t) (requestless : .refresh ∉ moves) (kept : t.ledger.losses = [])
    (outcomes : Nat → Except AuthorityError Roles) (answered : t.ledger.Answered outcomes) :
    t.taken <+: (Scan.of viewer minRole outcomes roles (published moves)).selected ∧
    (t.Quiet →
      t.taken = (Scan.of viewer minRole outcomes roles (published moves)).selected ∧
      t.ledger.loads = (Scan.of viewer minRole outcomes roles (published moves)).loads ∧
      t.ledger.loads = (published moves).countP (·.affects viewer)) ∧
    ∀ more u, Run t more u → (∀ move ∈ more, move.IsOwn) → more.length ≤ t.effort := by
  have account : Account bus.log.size roles t := run.account (account_of_open opened)
  have hgrows := run.grows
  have hlog := run.log
  have inStep : InStep outcomes bus.log.size roles t := by
    refine run.inStep requestless (account_of_open opened) (unrefreshed_of_open opened) ?_ kept
      answered
    obtain rfl := eq_of_open opened
    simp [InStep, decidedEvents, decided, Subscription.decided, Bus.join, Scan.of,
      Subscription.letThrough, Subscription.held]
  have hscan : Scan.of viewer minRole outcomes roles (t.decidedEvents bus.log.size) =
      ⟨t.taken ++ t.subscription.letThrough, t.subscription.roles, t.ledger.answers.length⟩ := by
    rw [InStep, hgrows.viewer, hgrows.minRole] at inStep
    obtain rfl := eq_of_open opened
    exact inStep
  have hpublished : published moves =
      t.decidedEvents bus.log.size ++ t.bus.log.toList.drop t.decided := by
    rw [← account.drop_log, hlog]
    obtain rfl := eq_of_open opened
    simp
  refine ⟨?_, ?_, ?_⟩
  · rw [hpublished]
    refine List.IsPrefix.trans ?_ (Scan.selected_prefix_of_append _)
    rw [hscan]
    exact List.prefix_append _ _
  · intro quiet
    have hall : t.decidedEvents bus.log.size = published moves := by
      rw [hpublished, account.decided_of_quiet quiet]
      simp
    obtain ⟨hthrough, hloading⟩ := account.idle_of_quiet quiet
    have hcount : t.ledger.loads = t.ledger.answers.length := by
      rw [account.loads, hloading]
      rfl
    have hloads : (Scan.of viewer minRole outcomes roles (published moves)).loads =
        (published moves).countP (·.affects viewer) := Scan.loads_of
    rw [hall] at hscan
    rw [← hloads, hscan, hcount, hthrough, List.append_nil]
    exact ⟨rfl, rfl, rfl⟩
  · intro more u rest own
    exact rest.length_le_effort own

open Move in
/-- A viewer without roles becomes a user while a queue of one event holds them up. -/
theorem exact_delivery_sample : ∃ w t, open? Sample.bus Sample.viewer .user .empty 1 = some w ∧
    Run w [publish Sample.change, publish Sample.players, forward (.ok Sample.user),
      forward (.ok Sample.user), forward (.ok Sample.user), take, forward (.ok Sample.user), take,
      forward (.ok Sample.user)] t ∧
    t.Quiet ∧ t.taken = [Sample.change, Sample.players] ∧ t.ledger.loads = 1 := by
  obtain ⟨t, ht, hquiet, hkept, hanswers⟩ : ∃ t, run? step [publish Sample.change,
      publish Sample.players, forward (.ok Sample.user), forward (.ok Sample.user),
      forward (.ok Sample.user), take, forward (.ok Sample.user), take,
      forward (.ok Sample.user)] (Sample.watch .empty) = some t ∧ t.Quiet ∧
      t.ledger.losses = [] ∧ t.ledger.answers = [.ok Sample.user] :=
    ⟨_, rfl, ⟨fun _ => rfl, rfl⟩, rfl, rfl⟩
  have hrun := run?_iff.mp ht
  have hanswered : t.ledger.Answered fun _ => .ok Sample.user := by
    intro k answer hk
    rw [hanswers] at hk
    simpa using (List.mem_of_getElem? hk)
  have hdelivery := (exact_delivery (Sample.open?_bus .empty) hrun (by simp) hkept _
    hanswered).2.1 hquiet
  exact ⟨_, t, Sample.open?_bus .empty, hrun, hquiet, hdelivery.1.trans rfl,
    hdelivery.2.2.trans rfl⟩

end Opened

end Watch

end Flotilla
