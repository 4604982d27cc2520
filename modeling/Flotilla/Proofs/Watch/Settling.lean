import Flotilla.Observatory
import Flotilla.Proofs.Watch.Progress

/-!
# What an observatory does is a run

An observatory moves its forwarders for as long as they need not wait, with a number of
moves that is fixed beforehand, and takes events while the forwarder goes on. Both are runs
of the watch in which only the forwarder and the reader move, and the number is always large
enough: a forwarder is left only when it has to wait, and whoever takes all that there is
leaves the watch at rest.
-/

namespace Flotilla

namespace Subscription

variable {bus : Bus} {answer : Except AuthorityError Roles} {s t : Subscription}

theorem work_le_fuel (bus : Bus) (s : Subscription) :
    s.work bus ≤ 4 * (bus.log.size - s.receiver.next) + 12 := by
  have hforwarder := s.forwarder.work_le
  have hgranted := s.granted.toNat_le
  have hstored := s.stored.toNat_le
  unfold work
  omega

theorem outstanding_lt_backlog (bus : Bus) (s : Subscription) :
    s.outstanding bus < s.backlog bus := by
  have hinHand := s.forwarder.inHand_le
  unfold outstanding backlog
  omega

/-- A forwarder that is given as many moves as it has work is left when it has to wait. -/
theorem settleUpTo_waits {fuel : Nat} {source : RoleSource} (h : s.work bus ≤ fuel) :
    (s.settleUpTo bus fuel source).2.advance bus answer = none := by
  induction fuel generalizing s source with
  | zero =>
      cases hadvance : s.advance bus answer with
      | none => exact hadvance
      | some next =>
          have hlt := (forwards_of_advance hadvance).work_lt
          omega
  | succ fuel ih =>
      unfold settleUpTo
      cases hadvance : s.advance bus (source.answer s.viewer) with
      | none => exact advance_eq_none hadvance
      | some next =>
          have hlt := (forwards_of_advance hadvance).work_lt
          apply ih
          omega

theorem settle_waits {source : RoleSource} : (s.settle bus source).2.advance bus answer = none :=
  settleUpTo_waits (work_le_fuel bus s)

theorem outstanding_settleUpTo_le {fuel : Nat} {source : RoleSource} :
    (s.settleUpTo bus fuel source).2.outstanding bus ≤ s.outstanding bus := by
  induction fuel generalizing s source with
  | zero => exact Nat.le_refl _
  | succ fuel ih =>
      unfold settleUpTo
      cases hadvance : s.advance bus (source.answer s.viewer) with
      | none => exact Nat.le_refl _
      | some next => exact Nat.le_trans ih (forwards_of_advance hadvance).outstanding_le

section Collect

variable {count : Nat} {source : RoleSource}

theorem collect_of_none (h : (s.settle bus source).2.take = none) :
    s.collect bus (count + 1) source =
      ([], (s.settle bus source).1, (s.settle bus source).2) := by
  simp only [collect, h]

theorem collect_of_some {event : Event} {next : Subscription}
    (h : (s.settle bus source).2.take = some (event, next)) :
    s.collect bus (count + 1) source =
      (event :: (next.collect bus count (s.settle bus source).1).1,
        (next.collect bus count (s.settle bus source).1).2) := by
  simp only [collect, h]

end Collect

/-- Whoever asks for more events than are outstanding leaves nothing to be done. -/
theorem collect_waits {count : Nat} {source : RoleSource} (h : s.outstanding bus < count) :
    (s.collect bus count source).2.2.advance bus answer = none ∧
      (s.collect bus count source).2.2.queue = [] := by
  induction count generalizing s source with
  | zero => omega
  | succ count ih =>
      cases htake : (s.settle bus source).2.take with
      | none =>
          rw [collect_of_none htake]
          refine ⟨settle_waits, ?_⟩
          unfold take at htake
          split at htake
          next hqueue => exact hqueue
          next => simp at htake
      | some ready =>
          obtain ⟨event, next⟩ := ready
          rw [collect_of_some htake]
          apply ih
          have hsettle : (s.settle bus source).2.outstanding bus ≤ s.outstanding bus :=
            outstanding_settleUpTo_le
          unfold take at htake
          split at htake
          next => simp at htake
          next first rest hqueue =>
            obtain ⟨rfl, rfl⟩ := by simpa using htake
            simp only [outstanding, hqueue, List.length_cons] at hsettle h ⊢
            omega

end Subscription

namespace Watch

variable {bus : Bus}

/-- The source after the questions that a ledger has answers to. -/
def asked (source : RoleSource) (notes : Ledger) : RoleSource :=
  { source with loads := source.loads + notes.answers.length }

/-- Settling is a run of the forwarder, and it asks the source as often as the ledger says. -/
theorem run_settleUpTo (fuel : Nat) (source : RoleSource) (s : Subscription) (taken : List Event)
    (ledger : Ledger) : ∃ moves notes, (∀ move ∈ moves, Move.IsOwn move) ∧
      (s.settleUpTo bus fuel source).1 = asked source notes ∧
      Run ⟨bus, s, taken, ledger⟩ moves
        ⟨bus, (s.settleUpTo bus fuel source).2, taken, ledger ++ notes⟩ := by
  induction fuel generalizing source s ledger with
  | zero => exact ⟨[], [], by simp, rfl, by simpa [Subscription.settleUpTo] using Run.nil _⟩
  | succ fuel ih =>
      unfold Subscription.settleUpTo
      cases hadvance : s.advance bus (source.answer s.viewer) with
      | none => exact ⟨[], [], by simp, rfl, by simpa using Run.nil _⟩
      | some next =>
          obtain ⟨moves, notes, own, hsource, run⟩ := ih
            (if s.isLoading then (source.load s.viewer).2 else source) next
            (ledger ++ s.notes bus (source.answer s.viewer))
          refine ⟨.forward (source.answer s.viewer) :: moves,
            s.notes bus (source.answer s.viewer) ++ notes, ?_, ?_, ?_⟩
          · simpa using ⟨trivial, own⟩
          · have hanswers := (Subscription.forwards_of_advance hadvance).length_answers
            rw [hsource]
            cases hloading : s.isLoading with
            | false =>
                simp only [hloading, Bool.toNat_false] at hanswers
                simp [asked, hanswers]
            | true =>
                simp only [hloading, Bool.toNat_true] at hanswers
                simp [asked, RoleSource.load, hanswers, Nat.add_assoc]
          · rw [List.append_assoc] at run
            refine .cons ?_ run
            simp only [step, hadvance, Option.map_some]

theorem run_settle (source : RoleSource) (s : Subscription) (taken : List Event)
    (ledger : Ledger) : ∃ moves notes, (∀ move ∈ moves, Move.IsOwn move) ∧
      (s.settle bus source).1 = asked source notes ∧
      Run ⟨bus, s, taken, ledger⟩ moves
        ⟨bus, (s.settle bus source).2, taken, ledger ++ notes⟩ :=
  run_settleUpTo _ source s taken ledger

/-- Collecting is a run of the forwarder and the reader, who takes what is collected. -/
theorem run_collect (count : Nat) (source : RoleSource) (s : Subscription) (taken : List Event)
    (ledger : Ledger) : ∃ moves notes, (∀ move ∈ moves, Move.IsOwn move) ∧
      (s.collect bus count source).2.1 = asked source notes ∧
      Run ⟨bus, s, taken, ledger⟩ moves
        ⟨bus, (s.collect bus count source).2.2, taken ++ (s.collect bus count source).1,
          ledger ++ notes⟩ := by
  induction count generalizing source s taken ledger with
  | zero => exact ⟨[], [], by simp, rfl, by simpa [Subscription.collect] using Run.nil _⟩
  | succ count ih =>
      obtain ⟨moves, notes, own, hsource, run⟩ := @run_settle bus source s taken ledger
      cases htake : (s.settle bus source).2.take with
      | none =>
          rw [Subscription.collect_of_none htake]
          exact ⟨moves, notes, own, hsource, by simpa using run⟩
      | some ready =>
          obtain ⟨event, next⟩ := ready
          obtain ⟨moves', notes', own', hsource', run'⟩ :=
            ih (s.settle bus source).1 next (taken ++ [event]) (ledger ++ notes)
          rw [Subscription.collect_of_some htake]
          refine ⟨moves ++ .take :: moves', notes ++ notes', ?_, ?_, ?_⟩
          · intro move hmove
            rcases List.mem_append.mp hmove with hmove | hmove
            · exact own move hmove
            · rcases List.mem_cons.mp hmove with rfl | hmove
              · trivial
              · exact own' move hmove
          · rw [hsource', hsource]
            simp [asked, Nat.add_assoc]
          · refine run.append (.cons ?_ (by simpa using run'))
            simp only [step, htake, Option.map_some]

end Watch

namespace Observatory

variable {o o' : Observatory} {name : String} {events : List Event} {ended : Bool}

/-- Whoever takes all that there is makes a run of the watch with the observatory's forwarder,
and leaves the watch at rest. -/
theorem run_of_collect (h : o.collect name none = some (events, ended, o')) :
    ∃ watcher watcher' moves notes, o.watchers.get? name = some watcher ∧
      o'.watchers.get? name = some watcher' ∧ (∀ move ∈ moves, Watch.Move.IsOwn move) ∧
      Watch.Run ⟨o.bus, watcher, [], []⟩ moves ⟨o.bus, watcher', events, notes⟩ ∧
      Watch.Quiet ⟨o.bus, watcher', events, notes⟩ := by
  simp only [collect, Option.map_eq_some_iff, Option.map_none, Option.getD_none] at h
  obtain ⟨watcher, hwatcher, hcollect⟩ := h
  obtain ⟨rfl, -, rfl⟩ := by simpa using hcollect
  obtain ⟨moves, notes, own, -, run⟩ :=
    Watch.run_collect (watcher.backlog o.bus) o.source watcher [] []
  have hwaits {answer : Except AuthorityError Roles} :=
    @Subscription.collect_waits o.bus answer watcher _ o.source
      (Subscription.outstanding_lt_backlog o.bus watcher)
  refine ⟨watcher, _, moves, notes, hwatcher, ?_, own, by simpa using run, ?_, ?_⟩
  · simp [record]
  · intro answer
    exact hwaits.1
  · exact (@hwaits (.ok .empty)).2

end Observatory

end Flotilla
