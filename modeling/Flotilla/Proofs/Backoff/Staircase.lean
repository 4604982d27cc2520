import Flotilla.Backoff
import Mathlib.Data.List.Induction

/-!
# Staircases of delays

The delay of a policy is found by a search from step to step, and a policy is made by checking
neighbouring steps only. Both are lifted here to statements about all steps at once: a policy is
made of exactly those steps whose thresholds ascend and whose delays rise up to the ceiling, and
more failures never ask for a shorter delay.

A history is a sequence of failures and successes. What is counted after it depends only on the
failures since the last success, so that between two successes the delays rise from the floor.
-/

namespace Flotilla

namespace BackoffPolicy

variable {steps : List BackoffStep} {ceiling : Span}

/-- No neighbours are at fault only if no two steps are. -/
theorem faultOf_eq_none_iff : faultOf ceiling steps = none ↔
    steps.Pairwise (fun a b => a.upTo < b.upTo) ∧
      steps.Pairwise (fun a b => a.delay ≤ b.delay) ∧ ∀ step ∈ steps, step.delay ≤ ceiling := by
  refine ⟨of_faultOf_eq_none, ?_⟩
  rintro ⟨ascend, rise, below⟩
  induction steps with
  | nil => rfl
  | cons a rest ih =>
      obtain ⟨above, ascend⟩ := List.pairwise_cons.mp ascend
      obtain ⟨longer, rise⟩ := List.pairwise_cons.mp rise
      have hrest := ih ascend rise fun step hstep => below step (List.mem_cons_of_mem a hstep)
      cases rest with
      | nil =>
          have := below a (by simp)
          simp only [Span.le_iff] at this
          simp [faultOf, Nat.not_lt.mpr this]
      | cons b rest =>
          have hup := above b (by simp)
          have hdelay := longer b (by simp)
          simp only [Span.le_iff] at hdelay
          simp [faultOf, Nat.not_le.mpr hup, Nat.not_lt.mpr hdelay, hrest]

theorem make_eq_ok_iff {policy : BackoffPolicy} :
    make steps ceiling = .ok policy ↔ policy.steps = steps ∧ policy.ceiling = ceiling := by
  constructor
  · intro h
    unfold make at h
    split at h
    next => simp at h
    next =>
      obtain rfl := Except.ok.inj h
      exact ⟨rfl, rfl⟩
  · rintro ⟨rfl, rfl⟩
    have sound : faultOf policy.ceiling policy.steps = none := faultOf_eq_none_iff.mpr
      ⟨policy.thresholds_ascend, policy.delays_rise, policy.delays_le_ceiling⟩
    unfold make
    split
    next error fault => simp [sound] at fault
    next => rfl

/-- The delays of a policy in the order of its steps, the ceiling last, do not descend. -/
theorem pairwise_delays_iff :
    (steps.map BackoffStep.delay ++ [ceiling]).Pairwise (· ≤ ·) ↔
      steps.Pairwise (fun a b => a.delay ≤ b.delay) ∧ ∀ step ∈ steps, step.delay ≤ ceiling := by
  simp [List.pairwise_append, List.pairwise_map]

/-- The steps and the ceiling of which a policy can be made. -/
theorem exists_make_iff :
    (∃ policy, make steps ceiling = .ok policy) ↔
      steps.Pairwise (fun a b => a.upTo < b.upTo) ∧
        (steps.map BackoffStep.delay ++ [ceiling]).Pairwise (· ≤ ·) := by
  rw [pairwise_delays_iff]
  constructor
  · rintro ⟨policy, made⟩
    obtain ⟨rfl, rfl⟩ := make_eq_ok_iff.mp made
    exact ⟨policy.thresholds_ascend, policy.delays_rise, policy.delays_le_ceiling⟩
  · rintro ⟨ascend, rise, below⟩
    exact ⟨⟨steps, ceiling, ascend, rise, below⟩, make_eq_ok_iff.mpr ⟨rfl, rfl⟩⟩

/-- The search for more failures ends no earlier, where the delays are no shorter. -/
theorem delay_le_of_find? (rise : steps.Pairwise (fun a b => a.delay ≤ b.delay)) {m n : Nat}
    (le : m ≤ n) {s t : BackoffStep} (hs : steps.find? (fun step => m ≤ step.upTo) = some s)
    (ht : steps.find? (fun step => n ≤ step.upTo) = some t) : s.delay ≤ t.delay := by
  induction steps with
  | nil => simp at hs
  | cons a rest ih =>
      obtain ⟨longer, rise⟩ := List.pairwise_cons.mp rise
      by_cases hm : m ≤ a.upTo
      · obtain rfl : a = s := by simpa [hm] using hs
        have hmem := List.mem_of_find?_eq_some ht
        obtain rfl | hmem := List.mem_cons.mp hmem
        · simp
        · exact longer t hmem
      · have hn : ¬ n ≤ a.upTo := by omega
        simp only [List.find?_cons, hm, hn, decide_false] at hs ht
        exact ih rise hs ht

variable (policy : BackoffPolicy)

theorem delayFor_le_ceiling (n : Nat) : policy.delayFor n ≤ policy.ceiling := by
  unfold delayFor
  split
  next step found => exact policy.delays_le_ceiling step (List.mem_of_find?_eq_some found)
  next => simp

/-- More failures never ask for a shorter delay. -/
theorem delayFor_mono {m n : Nat} (le : m ≤ n) : policy.delayFor m ≤ policy.delayFor n := by
  cases ht : policy.steps.find? (fun step => n ≤ step.upTo) with
  | none =>
      have hceiling : policy.delayFor n = policy.ceiling := by simp [delayFor, ht]
      rw [hceiling]
      exact policy.delayFor_le_ceiling m
  | some t =>
      have hreach : n ≤ t.upTo := by simpa using List.find?_some ht
      have hfound : (policy.steps.find? fun step => m ≤ step.upTo).isSome = true := by
        refine List.find?_isSome.mpr ⟨t, List.mem_of_find?_eq_some ht, ?_⟩
        simpa using Nat.le_trans le hreach
      obtain ⟨s, hs⟩ := Option.isSome_iff_exists.mp hfound
      simpa [delayFor, hs, ht] using delay_le_of_find? policy.delays_rise le hs ht

theorem floor_eq : policy.floor = policy.delayFor 0 := by
  unfold floor delayFor
  split
  next hsteps => simp [hsteps]
  next step rest hsteps => simp [hsteps]

end BackoffPolicy

namespace Reconnect

/-- How an attempt to connect, or the session after it, has ended or begun. -/
inductive Outcome where
  | failure
  | success
  deriving DecidableEq

/-- One more outcome is noted. -/
def note (policy : BackoffPolicy) (r : Reconnect) : Outcome → Reconnect
  | .failure => r.fail policy
  | .success => start policy

/-- What is known after a history, the oldest outcome first. -/
def after (policy : BackoffPolicy) (history : List Outcome) : Reconnect :=
  history.foldl (note policy) (start policy)

/-- The delays that the failures of a stretch of history ask for, one after the other. -/
def delays (policy : BackoffPolicy) (r : Reconnect) : List Outcome → List Span
  | [] => []
  | .failure :: rest => (r.fail policy).backoff :: delays policy (r.fail policy) rest
  | .success :: rest => delays policy (start policy) rest

/-- The number of failures at the end of a history. -/
def failuresSince (history : List Outcome) : Nat :=
  (history.reverse.takeWhile (· = .failure)).length

/-- A count that some history of failures and successes leads to. -/
structure Counted (policy : BackoffPolicy) (r : Reconnect) : Prop where
  le_max : r.failures ≤ maxFailures
  backoff_eq : r.backoff = policy.delayFor r.failures

variable {policy : BackoffPolicy} {r : Reconnect} {history stretch : List Outcome}

theorem counted_start (policy : BackoffPolicy) : Counted policy (start policy) :=
  ⟨Nat.zero_le _, policy.floor_eq⟩

theorem counted_fail (policy : BackoffPolicy) (r : Reconnect) : Counted policy (r.fail policy) :=
  ⟨Nat.min_le_right _ _, rfl⟩

@[simp] theorem after_concat (outcome : Outcome) :
    after policy (history ++ [outcome]) = note policy (after policy history) outcome := by
  simp [after]

theorem counted_after (policy : BackoffPolicy) (history : List Outcome) :
    Counted policy (after policy history) := by
  induction history using List.reverseRecOn with
  | nil => exact counted_start policy
  | append_singleton history outcome =>
      rw [after_concat]
      cases outcome with
      | failure => exact counted_fail policy _
      | success => exact counted_start policy

/-- All failures since the last success are counted, as far as the count goes. -/
theorem failures_after (policy : BackoffPolicy) (history : List Outcome) :
    (after policy history).failures = min (failuresSince history) maxFailures := by
  induction history using List.reverseRecOn with
  | nil => rfl
  | append_singleton history outcome ih =>
      rw [after_concat]
      cases outcome with
      | failure =>
          have hsince : failuresSince (history ++ [.failure]) = failuresSince history + 1 := by
            simp [failuresSince]
          have hfail : ((after policy history).fail policy).failures =
              min ((after policy history).failures + 1) maxFailures := rfl
          rw [note, hfail, hsince, ih]
          omega
      | success => simp [note, start, failuresSince]

/-- A failure asks for a delay that is no shorter than the one before. -/
theorem Counted.backoff_le_fail (h : Counted policy r) : r.backoff ≤ (r.fail policy).backoff := by
  have hfail : (r.fail policy).failures = min (r.failures + 1) maxFailures := rfl
  have hmax := h.le_max
  rw [h.backoff_eq, (counted_fail policy r).backoff_eq]
  apply policy.delayFor_mono
  omega

/-- Without a success in between, no delay is shorter than one before it. -/
theorem Counted.delays_rise (h : Counted policy r) (failed : .success ∉ stretch) :
    (∀ delay ∈ delays policy r stretch, r.backoff ≤ delay) ∧
      (delays policy r stretch).Pairwise (· ≤ ·) := by
  induction stretch generalizing r with
  | nil => simp [delays]
  | cons outcome rest ih =>
      cases outcome with
      | success => simp at failed
      | failure =>
          obtain ⟨longer, rise⟩ := ih (counted_fail policy r) (by simpa using failed)
          have hfirst := h.backoff_le_fail
          refine ⟨?_, List.pairwise_cons.mpr ⟨longer, rise⟩⟩
          intro delay hdelay
          obtain rfl | hdelay := List.mem_cons.mp hdelay
          · exact hfirst
          · exact Nat.le_trans hfirst (longer delay hdelay)

theorem delays_le_ceiling (policy : BackoffPolicy) (r : Reconnect) (stretch : List Outcome) :
    ∀ delay ∈ delays policy r stretch, delay ≤ policy.ceiling := by
  induction stretch generalizing r with
  | nil => simp [delays]
  | cons outcome rest ih =>
      cases outcome with
      | success => exact ih _
      | failure =>
          refine List.forall_mem_cons.mpr ⟨?_, ih _⟩
          rw [(counted_fail policy r).backoff_eq]
          exact policy.delayFor_le_ceiling _

theorem Counted.floor_le (h : Counted policy r) : policy.floor ≤ r.backoff := by
  rw [h.backoff_eq, policy.floor_eq]
  exact policy.delayFor_mono (Nat.zero_le _)

end Reconnect

/-- A policy can be made of steps and a ceiling exactly if the thresholds ascend strictly and the
delays, the ceiling last, do not descend. Under every policy, more failures never ask for a
shorter delay, the floor is the delay without failures, and the ceiling is never exceeded. After
every history, the failures since the last success are counted, further delays rise from the
floor until the next success, and a success leads back to the floor. -/
theorem backoff_monotone :
    (∀ (steps : List BackoffStep) (ceiling : Span),
      (∃ policy, BackoffPolicy.make steps ceiling = .ok policy) ↔
        steps.Pairwise (fun a b => a.upTo < b.upTo) ∧
          (steps.map BackoffStep.delay ++ [ceiling]).Pairwise (· ≤ ·)) ∧
    ∀ policy : BackoffPolicy,
      BackoffPolicy.make policy.steps policy.ceiling = .ok policy ∧
      (∀ m n, m ≤ n → policy.delayFor m ≤ policy.delayFor n) ∧
      policy.floor = policy.delayFor 0 ∧
      (∀ n, policy.delayFor n ≤ policy.ceiling) ∧
      ∀ history stretch : List Reconnect.Outcome,
        (Reconnect.after policy history).failures =
          min (Reconnect.failuresSince history) Reconnect.maxFailures ∧
        (.success ∉ stretch →
          (Reconnect.delays policy (Reconnect.after policy history) stretch).Pairwise (· ≤ ·) ∧
          ∀ delay ∈ Reconnect.delays policy (Reconnect.after policy history) stretch,
            policy.floor ≤ delay ∧ delay ≤ policy.ceiling) ∧
        Reconnect.after policy (history ++ [.success]) = ⟨0, policy.floor⟩ := by
  refine ⟨fun _ _ => BackoffPolicy.exists_make_iff, fun policy => ?_⟩
  refine ⟨BackoffPolicy.make_eq_ok_iff.mpr ⟨rfl, rfl⟩, fun m n => policy.delayFor_mono,
    policy.floor_eq, policy.delayFor_le_ceiling, fun history stretch => ?_⟩
  have counted := Reconnect.counted_after policy history
  refine ⟨Reconnect.failures_after policy history, ?_, Reconnect.after_concat .success⟩
  intro failed
  obtain ⟨longer, rise⟩ := counted.delays_rise failed
  refine ⟨rise, fun delay hdelay => ⟨?_, ?_⟩⟩
  · exact Nat.le_trans counted.floor_le (longer delay hdelay)
  · exact Reconnect.delays_le_ceiling policy _ stretch delay hdelay

/-- The sixteenth failure in a row is the first one that the usual policy makes wait longer. -/
theorem backoff_monotone_sample :
    BackoffPolicy.usual.delayFor 15 ≤ BackoffPolicy.usual.delayFor 16 ∧
    .success ∉ [Reconnect.Outcome.failure, .failure] ∧
    (Reconnect.delays .usual (Reconnect.after .usual (.replicate 14 .failure))
      [.failure, .failure]).Pairwise (· ≤ ·) ∧
    Reconnect.delays .usual (Reconnect.after .usual (.replicate 14 .failure))
      [.failure, .failure] = [.ofSeconds 3, .ofSeconds 10] := by
  have failed : .success ∉ [Reconnect.Outcome.failure, .failure] := by decide
  obtain ⟨-, hpolicy⟩ := backoff_monotone
  obtain ⟨-, mono, -, -, hhistory⟩ := hpolicy .usual
  obtain ⟨-, rise, -⟩ := hhistory (.replicate 14 .failure) [.failure, .failure]
  exact ⟨mono 15 16 (by decide), failed, (rise failed).1, by decide⟩

end Flotilla
