import Flotilla.Proofs.Channel.Telling

/-!
# The end of a channel

A channel ends for good, and only when it is cancelled. Until it comes to its end, a cancelled
channel has one thing to wait for: that it may begin, or that the question that is under way ends.
-/

namespace Flotilla

namespace Channel

variable {c next : Channel} {connection : Connection} {effects : List Effect} {signal : Signal}

theorem Fails.uncancelled (h : Fails c effects next) (cancelled : next.cancelled = true) :
    c.cancelled = true := by
  cases h <;> exact cancelled

theorem Attempts.uncancelled (h : Attempts c effects next) (cancelled : next.cancelled = true) :
    c.cancelled = true := by
  cases h with
  | connect => exact cancelled
  | unusable active resolved fails => exact fails.uncancelled cancelled
  | finish => exact cancelled

theorem Listens.uncancelled (h : Listens c connection effects next)
    (cancelled : next.cancelled = true) : c.cancelled = true := by
  cases h <;> exact cancelled

/-- A channel is cancelled by nothing but a cancellation. -/
theorem Steps.uncancelled (h : Steps c signal effects next) (cancelled : next.cancelled = true) :
    c.cancelled = true ∨ signal = .cancel := by
  cases h with
  | heed | stop => exact .inr rfl
  | start starting attempts => exact .inl (attempts.uncancelled cancelled)
  | wake resting attempts => exact .inl (attempts.uncancelled cancelled)
  | miss connecting missed fails => exact .inl (fails.uncancelled cancelled)
  | answer asking later ended read listens => exact .inl (listens.uncancelled cancelled)
  | excuse asking ended listens => exact .inl (listens.uncancelled cancelled)
  | lose asking ended useless inexcusable fails => exact .inl (fails.uncancelled cancelled)
  | notice listening announced listens => exact .inl (listens.uncancelled cancelled)
  | drop listening broken fails => exact .inl (fails.uncancelled cancelled)
  | _ => exact .inl cancelled

/-- A channel that is not cancelled after a run never was. -/
theorem active_of_run (signals : List Signal) (active : (c.run signals).1.cancelled = false) :
    c.cancelled = false := by
  induction signals generalizing c with
  | nil => exact active
  | cons signal rest ih =>
      have hnext : (c.step signal).1.cancelled = false := ih active
      cases hcancelled : c.cancelled with
      | false => rfl
      | true => simp [(c.steps_step signal).cancelled hcancelled] at hnext

/-- A channel that has come to its end does nothing any more. -/
theorem Steps.finished (h : Steps c signal effects next) (finished : c.activity = .finished) :
    next.activity = .finished ∧ next.status = c.status ∧ effects = [] := by
  cases h with
  | ignore => exact ⟨finished, rfl, rfl⟩
  | heed => exact ⟨finished, rfl, rfl⟩
  | stop idle => simp [finished] at idle
  | start starting => simp [finished] at starting
  | wake resting => simp [finished] at resting
  | begin connecting | miss connecting => simp [finished] at connecting
  | keep _ asking | seed asking | answer asking | excuse asking | lose asking =>
      simp [finished] at asking
  | notice listening | drop listening | overhear _ listening => simp [finished] at listening

theorem isFinished_iff {c : Channel} : c.isFinished = true ↔ c.activity = .finished := by
  unfold isFinished
  split
  next heq => simp [heq]
  next hne => simpa using hne

theorem Fails.finished (h : Fails c effects next) (cancelled : c.cancelled = true) :
    next.activity = .finished := by
  cases h with
  | rest active => simp [cancelled] at active
  | finish => rfl

theorem Attempts.finished (h : Attempts c effects next) (cancelled : c.cancelled = true) :
    next.activity = .finished := by
  cases h with
  | connect active | unusable active => simp [cancelled] at active
  | finish => rfl

/-- A cancelled channel that has not begun is finished when it begins. -/
theorem Steps.finished_of_start (h : Steps c .start effects next) (cancelled : c.cancelled = true)
    (starting : c.activity = .starting) : next.activity = .finished := by
  cases h with
  | start _ attempts => exact attempts.finished cancelled
  | ignore ignored => simp [Ignores, starting] at ignored
  | miss connecting => simp [starting] at connecting
  | keep _ asking | seed asking | answer asking | excuse asking | lose asking =>
      simp [starting] at asking
  | notice listening | drop listening | overhear _ listening => simp [starting] at listening

theorem Listens.finished (h : Listens c connection effects next) (cancelled : c.cancelled = true) :
    next.activity = .finished := by
  cases h with
  | finish => rfl
  | wait active | ask active => simp [cancelled] at active

/-- A cancelled channel that awaits an answer is finished when the question ends, unless it has just
been told the players at the beginning of a session. Then it asks for the bans. -/
theorem Steps.finished_of_ending {awaiting : Connection.Awaiting} {errand : Errand}
    {ending : Ending} (h : Steps c signal effects next) (cancelled : c.cancelled = true)
    (asking : c.activity = .asking connection awaiting errand)
    (ended : signal.ending? awaiting.id = some ending) : next.activity = .finished ∨
      errand = .seedPlayers ∧ (∃ report, signal.Answers .seedPlayers awaiting.id report) ∧
        ∃ kept again, next.activity = .asking kept again .seedBans := by
  cases h with
  | seed before read report =>
      obtain ⟨-, rfl, rfl⟩ := Activity.asking.inj (before.symm.trans asking)
      exact .inr ⟨rfl, ⟨_, _, read, report⟩, _, _, rfl⟩
  | answer _ _ _ _ listens | excuse _ _ listens => exact .inl (listens.finished cancelled)
  | lose _ _ _ _ fails => exact .inl (fails.finished cancelled)
  | keep uncancelled before unended =>
      obtain ⟨-, rfl, -⟩ := Activity.asking.inj (before.symm.trans asking)
      simp [unended] at ended
  | ignore ignored => simp [Ignores, asking] at ignored
  | heed | stop => simp [Signal.ending?] at ended
  | start starting => simp [asking] at starting
  | wake resting => simp [asking] at resting
  | begin connecting | miss connecting => simp [asking] at connecting
  | notice listening | drop listening | overhear _ listening => simp [asking] at listening

/-- A cancelled channel that awaits an answer is finished when it gives up waiting. -/
theorem Steps.finished_of_alarm {awaiting : Connection.Awaiting} {errand : Errand}
    (h : Steps c .alarm effects next) (cancelled : c.cancelled = true)
    (asking : c.activity = .asking connection awaiting errand) : next.activity = .finished := by
  rcases h.finished_of_ending cancelled asking rfl with finished | ⟨-, ⟨_, _, ended, -⟩, -⟩
  · exact finished
  · simp [Signal.ending?] at ended

/-- A cancelled channel is finished already, or when it begins, or when it gives up the question
that is under way. -/
theorem Orderly.exists_finishing (h : c.Orderly) (cancelled : c.cancelled = true) :
    c.isFinished = true ∨ ∃ signal, signal ≠ .cancel ∧ (c.step signal).1.isFinished = true := by
  rcases h.busy cancelled with starting | ⟨connection, awaiting, errand, asking⟩ | finished
  · have hstart := (c.steps_step .start).finished_of_start cancelled starting
    exact .inr ⟨.start, by simp, isFinished_iff.mpr hstart⟩
  · have halarm := (c.steps_step .alarm).finished_of_alarm cancelled asking
    exact .inr ⟨.alarm, by simp, isFinished_iff.mpr halarm⟩
  · exact .inl (isFinished_iff.mpr finished)

end Channel

end Flotilla
