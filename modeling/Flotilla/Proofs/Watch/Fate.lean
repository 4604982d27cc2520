import Flotilla.Proofs.Watch.Account

/-!
# What becomes of each event

The ledger of a watch settles the positions of the bus in order, so the events that its
reader takes stand in the order in which they were published, and none is taken twice.
Of the events that the forwarder is past, each has one of five fates: it was taken, it is in
the queue, it waits for room in the queue, it was lost in a gap that was reported, or it was
rejected by the roles of its moment. A gap lies before everything that is received after it
is reported, and no deletion and nothing that concerns the whole fleet is ever rejected.
-/

namespace Flotilla

namespace Ledger

variable {ledger : Ledger} {position : Nat}

/-- The events that are let through are settled in that order. -/
theorem through_sublist (ledger : Ledger) : ledger.through.Sublist ledger.positions := by
  induction ledger with
  | nil => exact .refl _
  | cons note rest ih =>
      cases note with
      | lost first count => simpa using ih.trans (List.sublist_append_right _ _)
      | asked size cause => simpa using ih
      | told answer => simpa using ih
      | judged p admitted =>
          cases admitted with
          | false => simpa using ih.cons p
          | true => simpa using ih.cons_cons p

/-- What is lost is lost in one of the gaps. -/
theorem exists_gap (h : position ∈ ledger.losses) : ∃ before first count after,
    ledger = before ++ .lost first count :: after ∧ first ≤ position ∧ position < first + count := by
  obtain ⟨note, hmem, hnote⟩ := List.mem_flatMap.mp h
  obtain ⟨before, after, hledger⟩ := List.append_of_mem hmem
  cases note with
  | lost first count => exact ⟨before, first, count, after, hledger, List.mem_range'_1.mp hnote⟩
  | asked => simp at hnote
  | told => simp at hnote
  | judged => simp at hnote

end Ledger

namespace Watch

/-- The positions of the events that the reader has taken. -/
def takenAt (w : Watch) : List Nat := w.ledger.through.take w.taken.length

/-- The positions of the events in the queue. -/
def queuedAt (w : Watch) : List Nat :=
  (w.ledger.through.drop w.taken.length).take w.subscription.queue.length

/-- The position of the event that waits for room in the queue, if there is one. -/
def heldAt (w : Watch) : List Nat :=
  (w.ledger.through.drop w.taken.length).drop w.subscription.queue.length

/-- What can have become of the event at a position, for a viewer who held `roles` at first. -/
inductive Fate (roles : Roles) (w : Watch) (position : Nat) : Prop where
  | taken (h : position ∈ w.takenAt)
  | queued (h : position ∈ w.queuedAt)
  | held (h : position ∈ w.heldAt)
  /-- It lies in a gap, and whatever was decided on after the gap was published after it. -/
  | lost {before first count after} (reported : w.ledger = before ++ .lost first count :: after)
      (inside : first ≤ position ∧ position < first + count)
      (older : ∀ later admitted, Note.judged later admitted ∈ after → position < later)
  /-- The roles of its moment do not show it. -/
  | rejected {before after : Ledger} {event} (reported : w.ledger = before ++ .judged position false :: after)
      (present : w.bus.log[position]? = some event)
      (invisible : ¬ (before.rolesAfter roles).Visible w.subscription.minRole event)

namespace Account

variable {w : Watch} {start position : Nat} {roles : Roles}

theorem pairwise_positions (h : Account start roles w) :
    w.ledger.positions.Pairwise (· < ·) := by
  rw [h.positions]
  exact List.pairwise_lt_range'

theorem pairwise_through (h : Account start roles w) : w.ledger.through.Pairwise (· < ·) :=
  h.pairwise_positions.sublist (Ledger.through_sublist _)

/-- Whatever was let through stands on the bus. -/
theorem map_through (h : Account start roles w) :
    w.ledger.through.map (w.bus.log[·]?) =
      (w.taken ++ w.subscription.queue ++ w.subscription.held).map some := by
  have hpresent : ∀ position ∈ w.ledger.through, (w.bus.log[position]?).isSome := by
    intro position hmem
    have hsettled := (Ledger.through_sublist _).subset hmem
    have hlt := Nat.lt_of_lt_of_le (h.lt_of_mem hsettled).2 h.decided_le_size
    simp [hlt]
  rw [List.append_assoc, ← Subscription.letThrough, h.delivered, List.map_filterMap]
  generalize w.ledger.through = positions at hpresent
  induction positions with
  | nil => rfl
  | cons position rest ih =>
      obtain ⟨event, hevent⟩ := Option.isSome_iff_exists.mp (hpresent position (by simp))
      simp [hevent, ih fun p hp => hpresent p (List.mem_cons_of_mem _ hp)]

/-- The events that were let through are those taken, those in the queue and the held one, each
at its position. -/
theorem map_takenAt (h : Account start roles w) :
    w.takenAt.map (w.bus.log[·]?) = w.taken.map some ∧
      w.queuedAt.map (w.bus.log[·]?) = w.subscription.queue.map some ∧
      w.heldAt.map (w.bus.log[·]?) = w.subscription.held.map some := by
  simp only [takenAt, queuedAt, heldAt, List.map_take, List.map_drop, h.map_through]
  simp

/-- A gap lies before everything that is settled after it. -/
theorem lt_of_gap (h : Account start roles w) {before after : Ledger} {first count later : Nat}
    (hledger : w.ledger = before ++ .lost first count :: after)
    (inside : first ≤ position ∧ position < first + count) (hlater : later ∈ after.positions) :
    position < later := by
  have hpairwise := h.pairwise_positions
  rw [hledger, Ledger.positions_append, Ledger.positions_cons, List.pairwise_append,
    List.pairwise_append] at hpairwise
  exact hpairwise.2.1.2.2 position (List.mem_range'_1.mpr inside) later hlater

/-- What was let through was taken, or it is in the queue, or it is held. -/
theorem fate_of_through (hmem : position ∈ w.ledger.through) : Fate roles w position := by
  rw [← List.take_append_drop w.taken.length w.ledger.through, List.mem_append,
    ← List.take_append_drop w.subscription.queue.length (w.ledger.through.drop w.taken.length),
    List.mem_append] at hmem
  rcases hmem with htaken | hqueued | hheld
  · exact .taken htaken
  · exact .queued hqueued
  · exact .held hheld

/-- Every position that is settled has its fate. -/
theorem fate (h : Account start roles w) (hstart : start ≤ position)
    (hdecided : position < w.decided) : Fate roles w position := by
  have hsettled : position ∈ w.ledger.positions := by
    rw [h.positions, List.mem_range'_1]
    omega
  rcases Ledger.mem_positions hsettled with hlost | ⟨admitted, hjudged⟩
  · obtain ⟨before, first, count, after, hledger, inside⟩ := Ledger.exists_gap hlost
    exact .lost hledger inside fun later admitted hlater =>
      h.lt_of_gap hledger inside (Ledger.mem_positions_of_judged hlater)
  · cases admitted with
    | true => exact fate_of_through (Ledger.mem_through.mpr hjudged)
    | false =>
        obtain ⟨before, after, hledger⟩ := List.append_of_mem hjudged
        obtain ⟨event, present, hverdict, -⟩ := (h.explained before _ after hledger).verdict
        exact .rejected hledger present (by simpa using hverdict)

/-- Beyond what is settled, the forwarder has received at most the event that it looks roles
up for. -/
theorem next_eq (h : Account start roles w) :
    w.subscription.receiver.next = w.decided ∨
      w.subscription.receiver.next = w.decided + 1 ∧ ∃ event,
        w.bus.log[w.decided]? = some event ∧
        w.subscription.forwarder = .loading (some event) := by
  cases hforwarder : w.subscription.forwarder with
  | selecting => exact .inl (by simp [decided, Subscription.decided, hforwarder])
  | holding => exact .inl (by simp [decided, Subscription.decided, hforwarder])
  | finished => exact .inl (by simp [decided, Subscription.decided, hforwarder])
  | loading event =>
      cases event with
      | none => exact .inl (by simp [decided, Subscription.decided, hforwarder])
      | some event =>
          obtain ⟨position, hnext, present, -⟩ := h.attached.loading event hforwarder
          have hdecided : w.decided = position := by
            simp [decided, Subscription.decided, hforwarder, hnext]
          exact .inr ⟨by omega, event, hdecided ▸ present, rfl⟩

/-- Nothing is rejected that everybody may see. -/
theorem not_rejected (h : Account start roles w) {before after : Ledger} {event : Event}
    (hledger : w.ledger = before ++ .judged position false :: after)
    (present : w.bus.log[position]? = some event) :
    event.kind ≠ .deleted ∧ event.server? ≠ none := by
  obtain ⟨event', present', hverdict, -⟩ := (h.explained before _ after hledger).verdict
  obtain rfl := Option.some.inj (present.symm.trans present')
  have hinvisible : ¬ (before.rolesAfter roles).Visible w.subscription.minRole event := by
    simpa using hverdict
  exact ⟨fun hkind => hinvisible (.inl hkind), fun hserver => hinvisible (.inr (.inl hserver))⟩

end Account

section Opened

variable {w t : Watch} {moves : List Move} {bus : Bus} {viewer : ViewerId} {minRole : Role}
  {roles : Roles} {capacity : Nat}

/-- The order and the account of a subscription, along every run of it. What its reader has
taken, what is in the queue and what is held are the events at positions that ascend strictly
and that lie after the beginning of the subscription. Every position between the beginning
and the first undecided one has its fate, and only the event that roles are looked up for
may have been received beyond that. No deletion and nothing that concerns the whole fleet is
rejected. -/
theorem taken_in_order (opened : open? bus viewer minRole roles capacity = some w)
    (run : Run w moves t) :
    (t.takenAt.map (t.bus.log[·]?) = t.taken.map some ∧
      t.queuedAt.map (t.bus.log[·]?) = t.subscription.queue.map some ∧
      t.heldAt.map (t.bus.log[·]?) = t.subscription.held.map some) ∧
    (t.takenAt ++ t.queuedAt ++ t.heldAt).Pairwise (· < ·) ∧
    (∀ position ∈ t.takenAt ++ t.queuedAt ++ t.heldAt, bus.log.size ≤ position) ∧
    (∀ position, bus.log.size ≤ position → position < t.decided → Fate roles t position) ∧
    (t.subscription.receiver.next = t.decided ∨
      t.subscription.receiver.next = t.decided + 1 ∧ ∃ event,
        t.bus.log[t.decided]? = some event ∧
        t.subscription.forwarder = .loading (some event)) ∧
    ∀ before after position event, t.ledger = before ++ .judged position false :: after →
      t.bus.log[position]? = some event → event.kind ≠ .deleted ∧ event.server? ≠ none := by
  have account : Account bus.log.size roles t := run.account (account_of_open opened)
  have hthrough : t.takenAt ++ t.queuedAt ++ t.heldAt = t.ledger.through := by
    rw [takenAt, queuedAt, heldAt, List.append_assoc, List.take_append_drop,
      List.take_append_drop]
  refine ⟨account.map_takenAt, ?_, ?_, fun _ => account.fate, account.next_eq, ?_⟩
  · rw [hthrough]
    exact account.pairwise_through
  · intro position hmem
    rw [hthrough] at hmem
    exact (account.lt_of_mem ((Ledger.through_sublist _).subset hmem)).1
  · intro before after position event hledger present
    exact account.not_rejected hledger present

open Move in
/-- A viewer who is behind, and whose roles cannot be looked up: the first event is lost, the
second one is taken and the third one waits for room. -/
theorem taken_in_order_sample : ∃ (w t : Watch) (answer : Except AuthorityError Roles),
    open? Sample.bus Sample.viewer .user Sample.user 1 = some w ∧
    Run w [publish Sample.change, publish Sample.players, publish Sample.bans, refresh,
      forward answer, forward answer, forward answer, forward answer, forward answer, take] t ∧
    t.taken = [Sample.players] ∧ t.takenAt = [1] ∧ t.heldAt = [2] ∧ t.decided = 3 ∧
    (t.takenAt ++ t.queuedAt ++ t.heldAt).Pairwise (· < ·) ∧ Fate Sample.user t 0 := by
  have hopen := Sample.open?_bus Sample.user
  obtain ⟨t, ht, htaken, htakenAt, hheldAt, hdecided⟩ : ∃ t, run? step [publish Sample.change,
      publish Sample.players, publish Sample.bans, refresh, forward (.error (.unavailable "")),
      forward (.error (.unavailable "")), forward (.error (.unavailable "")),
      forward (.error (.unavailable "")), forward (.error (.unavailable "")), take]
      (Sample.watch Sample.user) = some t ∧ t.taken = [Sample.players] ∧ t.takenAt = [1] ∧
      t.heldAt = [2] ∧ t.decided = 3 :=
    ⟨_, rfl, rfl, rfl, rfl, rfl⟩
  have hrun := run?_iff.mp ht
  have horder := taken_in_order hopen hrun
  refine ⟨_, t, _, hopen, hrun, htaken, htakenAt, hheldAt, hdecided, horder.2.1, ?_⟩
  exact horder.2.2.2.1 0 (Nat.zero_le 0) (by omega)

end Opened

end Watch

end Flotilla
