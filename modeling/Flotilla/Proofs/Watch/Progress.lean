import Flotilla.Proofs.Watch.Account

/-!
# Watches come to rest

Every move of a forwarder uses up work, and every event that a reader takes is one that was
outstanding. The effort of a watch is the sum of the two, so it bounds what the forwarder
and the reader can still do by themselves. A watch that nobody else disturbs comes to rest
after that many moves at most, and a watch at rest has decided on everything that was
published.
-/

namespace Flotilla

namespace Forwarder

/-- The work that is left to a forwarder on what it has in its hands. -/
def work : Forwarder → Nat
  -- To look roles up for an event comes before holding it, and that before offering it.
  | .selecting false => 2
  | .selecting true => 1
  | .loading none => 3
  | .loading (some _) => 4
  | .holding _ => 3
  | .finished => 0

/-- How many events a forwarder has in its hands. -/
def inHand : Forwarder → Nat
  | .loading (some _) | .holding _ => 1
  | .selecting _ | .loading none | .finished => 0

@[simp] theorem work_selecting : (selecting false).work = 2 := rfl

@[simp] theorem work_parked : (selecting true).work = 1 := rfl

@[simp] theorem work_refreshing : (loading none).work = 3 := rfl

@[simp] theorem work_loading (event : Event) : (loading (some event)).work = 4 := rfl

@[simp] theorem work_holding (event : Event) : (holding event).work = 3 := rfl

@[simp] theorem work_finished : finished.work = 0 := rfl

@[simp] theorem inHand_selecting (parked : Bool) : (selecting parked).inHand = 0 := rfl

@[simp] theorem inHand_refreshing : (loading none).inHand = 0 := rfl

@[simp] theorem inHand_loading (event : Event) : (loading (some event)).inHand = 1 := rfl

@[simp] theorem inHand_holding (event : Event) : (holding event).inHand = 1 := rfl

@[simp] theorem inHand_finished : finished.inHand = 0 := rfl

theorem one_le_work_selecting (parked : Bool) : 1 ≤ (selecting parked).work := by
  cases parked <;> simp

theorem work_le (forwarder : Forwarder) : forwarder.work ≤ 4 := by
  unfold work
  split <;> omega

theorem inHand_le (forwarder : Forwarder) : forwarder.inHand ≤ 1 := by
  unfold inHand
  split <;> omega

end Forwarder

namespace Subscription

/-- The work that is left to a forwarder: on each event that was not received, on what it has
in its hands, and on each request. -/
def work (bus : Bus) (s : Subscription) : Nat :=
  4 * (bus.log.size - s.receiver.next) + s.forwarder.work + 3 * s.granted.toNat +
    3 * s.stored.toNat

/-- How many events can still be taken at most. -/
def outstanding (bus : Bus) (s : Subscription) : Nat :=
  s.queue.length + s.forwarder.inHand + (bus.log.size - s.receiver.next)

variable {bus : Bus} {answer : Except AuthorityError Roles} {s t : Subscription} {notes : Ledger}

theorem work_offer_le (event : Event) :
    (s.offer event).work bus ≤ 4 * (bus.log.size - s.receiver.next) + 3 +
      3 * s.granted.toNat + 3 * s.stored.toNat := by
  unfold offer
  split
  · simp only [work, Forwarder.work_selecting]
    omega
  · simp [work]

theorem work_judge_le (event : Event) :
    (s.judge event).work bus ≤ 4 * (bus.log.size - s.receiver.next) + 3 +
      3 * s.granted.toNat + 3 * s.stored.toNat := by
  unfold judge
  split
  · exact work_offer_le event
  · simp only [work, Forwarder.work_selecting]
    omega

/-- Every move of the forwarder uses up work. -/
theorem Forwards.work_lt (forwards : Forwards bus answer s notes t) : t.work bus < s.work bus := by
  cases forwards with
  | @heedGranted parked selecting granted =>
      have hselecting := Forwarder.one_le_work_selecting parked
      simp only [work, selecting, granted, Forwarder.work_refreshing, Bool.toNat_true,
        Bool.toNat_false]
      omega
  | @heedStored parked selecting ungranted stored =>
      have hselecting := Forwarder.one_le_work_selecting parked
      simp only [work, selecting, stored, Forwarder.work_refreshing, Bool.toNat_true,
        Bool.toNat_false]
      omega
  | @skip parked selecting unasked behind =>
      have hsize : bus.oldest ≤ bus.log.size := Nat.sub_le _ _
      have hselecting := Forwarder.one_le_work_selecting parked
      simp only [work, selecting, Forwarder.work_selecting]
      omega
  | @fetch parked event selecting unasked present affected =>
      have hlt := lt_size_of_present present
      have hselecting := Forwarder.one_le_work_selecting parked
      simp only [work, selecting, Forwarder.work_loading]
      omega
  | @pass parked event selecting unasked present unaffected =>
      have hlt := lt_size_of_present present
      have hselecting := Forwarder.one_le_work_selecting parked
      have hjudge := @work_judge_le bus { s with receiver := ⟨s.receiver.next + 1⟩ } event
      have hwork : s.work bus = 4 * (bus.log.size - s.receiver.next) +
          (Forwarder.selecting parked).work + 3 * s.granted.toNat + 3 * s.stored.toNat := by
        rw [work, selecting]
      simp only at hjudge
      omega
  | park selecting => simp [work, selecting]
  | @finish parked selecting =>
      have hselecting := Forwarder.one_le_work_selecting parked
      simp only [work, selecting, Forwarder.work_finished]
      omega
  | learn loading => simp [work, loading]
  | @learnFor event loading =>
      have hjudge := @work_judge_le bus { s with roles := s.roles.update answer } event
      have hwork : s.work bus = 4 * (bus.log.size - s.receiver.next) + 4 +
          3 * s.granted.toNat + 3 * s.stored.toNat := by
        rw [work, loading, Forwarder.work_loading]
      simp only at hjudge
      omega
  | @release event holding room =>
      simp only [work, offer, room, if_true, holding, Forwarder.work_selecting,
        Forwarder.work_holding]
      omega

theorem outstanding_offer (event : Event) :
    (s.offer event).outstanding bus =
      s.queue.length + 1 + (bus.log.size - s.receiver.next) := by
  unfold offer
  split <;> simp [outstanding]

theorem outstanding_judge_le (event : Event) :
    (s.judge event).outstanding bus ≤
      s.queue.length + 1 + (bus.log.size - s.receiver.next) := by
  unfold judge
  split
  · exact Nat.le_of_eq (outstanding_offer event)
  · simp only [outstanding, Forwarder.inHand_selecting]
    omega

/-- No move of the forwarder makes more events outstanding. -/
theorem Forwards.outstanding_le (forwards : Forwards bus answer s notes t) :
    t.outstanding bus ≤ s.outstanding bus := by
  cases forwards with
  | heedGranted selecting => simp [outstanding, selecting]
  | heedStored selecting => simp [outstanding, selecting]
  | skip selecting unasked behind =>
      simp only [outstanding, selecting, Forwarder.inHand_selecting]
      omega
  | fetch selecting unasked present affected =>
      have hlt := lt_size_of_present present
      simp only [outstanding, selecting, Forwarder.inHand_selecting, Forwarder.inHand_loading]
      omega
  | @pass parked event selecting unasked present unaffected =>
      have hlt := lt_size_of_present present
      have hjudge := @outstanding_judge_le bus { s with receiver := ⟨s.receiver.next + 1⟩ } event
      simp only [outstanding, selecting, Forwarder.inHand_selecting] at hjudge ⊢
      omega
  | park selecting => simp [outstanding, selecting]
  | finish selecting => simp [outstanding, selecting]
  | learn loading => simp [outstanding, loading]
  | @learnFor event loading =>
      have hjudge := @outstanding_judge_le bus { s with roles := s.roles.update answer } event
      simp only [outstanding, loading, Forwarder.inHand_loading] at hjudge ⊢
      omega
  | @release event holding =>
      rw [outstanding_offer]
      simp [outstanding, holding]

/-- Whether a forwarder has to wait does not depend on what it would be told. -/
theorem advance_eq_none {other : Except AuthorityError Roles} (h : s.advance bus answer = none) :
    s.advance bus other = none := by
  unfold advance at h ⊢
  split at h <;> simp_all

/-- A forwarder that has to wait, with nothing left in its queue, has decided on all that
was published. -/
theorem Attached.decided_of_waiting (h : Attached bus s)
    (waiting : ∀ answer, s.advance bus answer = none) (empty : s.queue = []) :
    s.decided = bus.log.size := by
  have hwaiting := waiting (.ok .empty)
  unfold advance at hwaiting
  split at hwaiting
  next parked selecting =>
    rw [decided_of_selecting selecting]
    refine Nat.le_antisymm h.next_le (Array.getElem?_eq_none_iff.mp ?_)
    split at hwaiting
    next => simp at hwaiting
    next =>
      split at hwaiting
      next => simp at hwaiting
      next =>
        unfold receive Bus.receive at hwaiting
        cases present : bus.log[s.receiver.next]? with
        | none => rfl
        | some event =>
            by_cases behind : s.receiver.next < bus.oldest
            · simp [behind] at hwaiting
            · simp [behind, present] at hwaiting
  next => simp at hwaiting
  next => simp at hwaiting
  next event holding =>
    have hroom : s.queue.length < s.capacity := by
      rw [empty]
      exact h.capacity_pos
    simp [hroom] at hwaiting
  next finished => simpa [decided, finished] using (h.finished finished).2

end Subscription

namespace Watch

variable {w t : Watch} {start : Nat} {roles : Roles} {move : Move} {moves : List Move}

/-- What the forwarder and the reader can still do by themselves. -/
def effort (w : Watch) : Nat := w.subscription.work w.bus + w.subscription.outstanding w.bus

/-- Every move of the forwarder or the reader uses up effort. -/
theorem Steps.effort_lt (steps : Steps w move t) (own : move.IsOwn) : t.effort < w.effort := by
  cases steps with
  | publish => exact own.elim
  | close => exact own.elim
  | refresh => exact own.elim
  | forward forwards => exact Nat.add_lt_add_of_lt_of_le forwards.work_lt forwards.outstanding_le
  | take ready =>
      simp only [effort, Subscription.work, Subscription.outstanding, ready, List.length_cons]
      omega

/-- A watch that is left to itself makes no more moves than its effort allows. -/
theorem Run.length_le_effort (run : Run w moves t) (own : ∀ move ∈ moves, move.IsOwn) :
    moves.length ≤ w.effort := by
  have hlength := run.length_add_le effort
    (fun own stepped => (steps_of_step stepped).effort_lt own) own
  omega

/-- A watch that is not at rest can go on by itself. -/
theorem exists_step_of_not_quiet (h : ¬ w.Quiet) :
    ∃ move t, move.IsOwn ∧ step move w = some t := by
  by_cases hqueue : w.subscription.queue = []
  · have hmoves : ¬ ∀ answer, w.subscription.advance w.bus answer = none :=
      fun hwaiting => h ⟨hwaiting, hqueue⟩
    obtain ⟨answer, hadvance⟩ := Classical.not_forall.mp hmoves
    obtain ⟨s, hs⟩ := Option.ne_none_iff_exists'.mp hadvance
    exact ⟨.forward answer, _, trivial, congrArg (Option.map _) hs⟩
  · obtain ⟨event, rest, hready⟩ := List.exists_cons_of_ne_nil hqueue
    have hnext : ∃ next, step .take w = some next := by
      simp [step, Subscription.take, hready]
    exact ⟨.take, hnext.choose, trivial, hnext.choose_spec⟩

/-- From wherever it stands, a watch can come to rest by itself. -/
theorem exists_run_quiet (w : Watch) :
    ∃ moves t, (∀ move ∈ moves, move.IsOwn) ∧ Run w moves t ∧ t.Quiet := by
  induction hn : w.effort using Nat.strongRecOn generalizing w with
  | ind n ih =>
      by_cases hquiet : w.Quiet
      · exact ⟨[], w, by simp, .nil w, hquiet⟩
      · obtain ⟨move, next, own, stepped⟩ := exists_step_of_not_quiet hquiet
        have hlt : next.effort < n := hn ▸ (steps_of_step stepped).effort_lt own
        obtain ⟨moves, t, hmoves, run, quiet⟩ := ih _ hlt next rfl
        exact ⟨move :: moves, t, by simpa using ⟨own, hmoves⟩, .cons stepped run, quiet⟩

/-- A watch at rest has decided on all that was published. -/
theorem Account.decided_of_quiet (h : Account start roles w) (quiet : w.Quiet) :
    w.decided = w.bus.log.size :=
  h.attached.decided_of_waiting quiet.1 quiet.2

/-- Nothing is on its way to the reader of a watch at rest, and no question is open. -/
theorem Account.idle_of_quiet (h : Account start roles w) (quiet : w.Quiet) :
    w.subscription.letThrough = [] ∧ w.subscription.isLoading = false := by
  have hwaiting := quiet.1 (.ok .empty)
  unfold Subscription.advance at hwaiting
  split at hwaiting
  next parked selecting =>
    rw [Subscription.letThrough_of_selecting selecting]
    exact ⟨quiet.2, Subscription.isLoading_of_selecting selecting⟩
  next => simp at hwaiting
  next => simp at hwaiting
  next event holding =>
    have hroom : w.subscription.queue.length < w.subscription.capacity := by
      rw [quiet.2]
      exact h.attached.capacity_pos
    simp [hroom] at hwaiting
  next finished =>
    simp [Subscription.letThrough, Subscription.held, Subscription.isLoading, finished, quiet.2]

end Watch

end Flotilla
