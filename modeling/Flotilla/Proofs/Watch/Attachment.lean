import Flotilla.Proofs.Watch.Run

/-!
# How a subscription sits on its bus

A subscription that is attached to its bus has room for an event, has received nothing
that was not published, and looks up roles only for the event that it received last.
Every move keeps it attached. What a move does beside that is said by one equation each:
the positions that it settles are the undecided ones that it leaves behind, the events
that it lets through are those of its decisions, and its answer decides the roles.
-/

namespace Flotilla

theorem range'_append_range' {a b c : Nat} (hab : a ≤ b) (hbc : b ≤ c) :
    List.range' a (b - a) ++ List.range' b (c - b) = List.range' a (c - a) := by
  have happend := @List.range'_append_1 a (b - a) (c - b)
  rwa [Nat.add_sub_cancel' hab, show b - a + (c - b) = c - a by omega] at happend

namespace Subscription

/-- How a subscription sits on its bus. An event that the roles are looked up for is the
last one that was received. -/
structure Attached (bus : Bus) (s : Subscription) : Prop where
  capacity_pos : 0 < s.capacity
  next_le : s.receiver.next ≤ bus.log.size
  finished : s.forwarder = .finished → bus.isOpen = false ∧ s.receiver.next = bus.log.size
  loading : ∀ event, s.forwarder = .loading (some event) →
    ∃ position, s.receiver.next = position + 1 ∧ bus.log[position]? = some event ∧
      event.affects s.viewer = true

variable {bus : Bus} {answer : Except AuthorityError Roles} {s t : Subscription} {notes : Ledger}

theorem lt_size_of_present {position : Nat} {event : Event}
    (h : bus.log[position]? = some event) : position < bus.log.size :=
  (Array.getElem?_eq_some_iff.mp h).1

theorem Attached.forward (h : Attached bus s) (forwards : Forwards bus answer s notes t) :
    Attached bus t := by
  have capacity_pos : 0 < t.capacity := forwards.capacity ▸ h.capacity_pos
  cases forwards with
  | heedGranted => exact ⟨capacity_pos, h.next_le, by simp, by simp⟩
  | heedStored => exact ⟨capacity_pos, h.next_le, by simp, by simp⟩
  | skip => exact ⟨capacity_pos, Nat.sub_le _ _, by simp, by simp⟩
  | fetch selecting unasked present affected =>
      refine ⟨capacity_pos, lt_size_of_present present, by simp, ?_⟩
      intro event loading
      obtain rfl := by simpa using loading
      exact ⟨_, rfl, present, affected⟩
  | pass selecting unasked present unaffected =>
      refine ⟨capacity_pos, ?_, ?_, ?_⟩
      · simpa using Nat.succ_le_of_lt (lt_size_of_present present)
      · intro finished
        exact absurd finished (forwarder_judge_ne_finished _ _)
      · intro event loading
        exact absurd loading (forwarder_judge_ne_loading _ _ _)
  | park => exact ⟨capacity_pos, h.next_le, by simp, by simp⟩
  | finish selecting unasked absent closed =>
      have hsize : bus.log.size ≤ s.receiver.next := Array.getElem?_eq_none_iff.mp absent
      exact ⟨capacity_pos, h.next_le, fun _ => ⟨closed, Nat.le_antisymm h.next_le hsize⟩, by simp⟩
  | learn => exact ⟨capacity_pos, h.next_le, by simp, by simp⟩
  | learnFor loading =>
      refine ⟨capacity_pos, by simpa using h.next_le, ?_, ?_⟩
      · intro finished
        exact absurd finished (forwarder_judge_ne_finished _ _)
      · intro event loading
        exact absurd loading (forwarder_judge_ne_loading _ _ _)
  | release holding room =>
      refine ⟨capacity_pos, by simpa using h.next_le, ?_, ?_⟩
      · intro finished
        exact absurd finished (forwarder_offer_ne_finished _ _)
      · intro event loading
        exact absurd loading (forwarder_offer_ne_loading _ _ _)

theorem decided_le_next (s : Subscription) : s.decided ≤ s.receiver.next := by
  unfold decided
  split <;> omega

/-- A move settles the positions from the first undecided one on. -/
theorem Forwards.positions (forwards : Forwards bus answer s notes t) (h : Attached bus s) :
    s.decided ≤ t.decided ∧
      notes.positions = List.range' s.decided (t.decided - s.decided) := by
  cases forwards with
  | heedGranted selecting => simp [decided, selecting]
  | heedStored selecting => simp [decided, selecting]
  | skip selecting unasked behind => simpa [decided, selecting] using Nat.le_of_lt behind
  | fetch selecting => simp [decided, selecting]
  | pass selecting =>
      rw [decided_judge, decided_of_selecting selecting]
      simp
  | park selecting => simp [decided, selecting]
  | finish selecting => simp [decided, selecting]
  | learn loading => simp [decided, loading]
  | learnFor loading =>
      obtain ⟨position, hnext, -⟩ := h.loading _ loading
      have hdecided : s.decided = position := by simp [decided, loading, hnext]
      rw [decided_judge, hdecided]
      simp [hnext]
  | release holding =>
      have hdecided : s.decided = s.receiver.next := by simp [decided, holding]
      rw [decided_offer, hdecided]
      simp

/-- The events that a move lets through are those of its decisions. -/
theorem Forwards.letThrough (forwards : Forwards bus answer s notes t) (h : Attached bus s) :
    t.letThrough = s.letThrough ++ notes.through.filterMap (bus.log[·]?) := by
  cases forwards with
  | heedGranted selecting => simp [Subscription.letThrough, held, selecting]
  | heedStored selecting => simp [Subscription.letThrough, held, selecting]
  | skip selecting => simp [Subscription.letThrough, held, selecting]
  | fetch selecting => simp [Subscription.letThrough, held, selecting]
  | @pass _ event selecting unasked present =>
      rw [letThrough_judge, letThrough_of_selecting selecting,
        show admits { s with receiver := ⟨s.receiver.next + 1⟩ } event = s.admits event from rfl]
      split <;> simp_all
  | park selecting => simp [Subscription.letThrough, held, selecting]
  | finish selecting => simp [Subscription.letThrough, held, selecting]
  | learn loading => simp [Subscription.letThrough, held, loading]
  | learnFor loading =>
      obtain ⟨position, hnext, present, -⟩ := h.loading _ loading
      rw [letThrough_judge, letThrough_of_loading loading]
      split <;> simp_all
  | release holding =>
      rw [letThrough_offer]
      simp [Subscription.letThrough, held, holding]

/-- A move leaves the roles that its answer makes of them. -/
theorem Forwards.roles (forwards : Forwards bus answer s notes t) :
    t.roles = notes.rolesAfter s.roles := by
  cases forwards <;> simp

/-- Roles change only when they are looked up. -/
theorem Forwards.roles_of_not_isLoading (forwards : Forwards bus answer s notes t)
    (h : s.isLoading = false) : t.roles = s.roles := by
  cases forwards with
  | learn loading => simp [isLoading, loading] at h
  | learnFor loading => simp [isLoading, loading] at h
  | pass => exact roles_judge _ _
  | release => exact roles_offer _ _
  | heedGranted => rfl
  | heedStored => rfl
  | skip => rfl
  | fetch => rfl
  | park => rfl
  | finish => rfl

theorem isLoading_of_selecting {parked : Bool} (h : s.forwarder = .selecting parked) :
    s.isLoading = false := by
  simp [isLoading, h]

theorem isLoading_offer (event : Event) : (s.offer event).isLoading = false := by
  rcases forwarder_offer s event with h | h <;> simp [isLoading, h]

theorem isLoading_judge (event : Event) : (s.judge event).isLoading = false := by
  rcases forwarder_judge s event with h | h <;> simp [isLoading, h]

/-- A question is open exactly while the forwarder looks roles up. -/
theorem Forwards.loads (forwards : Forwards bus answer s notes t) :
    notes.loads + s.isLoading.toNat = notes.answers.length + t.isLoading.toNat := by
  cases forwards with
  | heedGranted selecting => simp [isLoading, selecting]
  | heedStored selecting => simp [isLoading, selecting]
  | skip selecting => simp [isLoading, selecting]
  | fetch selecting => simp [isLoading, selecting]
  | pass selecting => simp [isLoading_judge, isLoading_of_selecting selecting]
  | park selecting => simp [isLoading, selecting]
  | finish selecting => simp [isLoading, selecting]
  | learn loading => simp [isLoading, loading]
  | learnFor loading => simp [isLoading_judge, show s.isLoading = true by simp [isLoading, loading]]
  | release holding => simp [isLoading_offer, show s.isLoading = false by simp [isLoading, holding]]

/-- A move is answered exactly while the forwarder looks roles up. -/
theorem Forwards.length_answers (forwards : Forwards bus answer s notes t) :
    notes.answers.length = s.isLoading.toNat := by
  cases forwards with
  | heedGranted selecting => simp [isLoading, selecting]
  | heedStored selecting => simp [isLoading, selecting]
  | skip selecting => simp [isLoading, selecting]
  | fetch selecting => simp [isLoading, selecting]
  | pass selecting => simp [isLoading, selecting]
  | park selecting => simp [isLoading, selecting]
  | finish selecting => simp [isLoading, selecting]
  | learn loading => simp [isLoading, loading]
  | learnFor loading => simp [isLoading, loading]
  | release holding => simp [isLoading, holding]

end Subscription

end Flotilla
