import Flotilla.Proofs.Backoff.Staircase
import Flotilla.Proofs.Channel.Telling
import Flotilla.Proofs.Run

/-!
# The course of a channel

How a channel fares can be seen from the statuses that it shows and from the sleeps in between.
`Course` lists the ways in which these can go on from a phase of the channel, one at a time, with
the count of failures that goes along. Every step of a channel follows the course of its phase, so
that whatever holds of all courses holds of all channels, however long they run: attempts come in
rounds, a failure adds one to the count, a success clears it, and what is shown of the delay is
what the policy asks for and what the channel then sleeps.
-/

namespace Flotilla

namespace Effect

/-- Whether an effect shows how a channel fares: it shows a status, or the channel sleeps. -/
def marks : Effect → Bool
  | .show _ | .sleep _ => true
  | _ => false

/-- The status that an effect shows. -/
def status? : Effect → Option ChannelStatus
  | .show status => some status
  | _ => none

/-- The statuses that effects show, in order. -/
def statuses (effects : List Effect) : List ChannelStatus := effects.filterMap status?

variable {effects : List Effect} {status : ChannelStatus} {delay : Span}

@[simp] theorem statuses_show : statuses [.show status] = [status] := rfl

@[simp] theorem statuses_concat_show :
    statuses (effects ++ [.show status]) = statuses effects ++ [status] := by
  simp [statuses, status?]

@[simp] theorem statuses_concat_sleep :
    statuses (effects ++ [.sleep delay]) = statuses effects := by
  simp [statuses, status?]

end Effect

namespace ChannelStatus

/-- Whether a status counts the same failures as the one before it, and the same delay. -/
def Keeps (earlier later : ChannelStatus) : Prop :=
  later.failures = earlier.failures ∧ later.backoff = earlier.backoff

/-- How a status counts, given the one before it. A channel that is disconnected has failed once
more, unless this is the last status that it shows. -/
def Follows (last : Bool) (earlier later : ChannelStatus) : Prop :=
  match later.state with
  | .connecting => earlier.Keeps later
  | .connected => later.failures = 0
  | .disconnected =>
    if last then earlier.Keeps later
    else later.failures = min (earlier.failures + 1) Reconnect.maxFailures

/-- Whether a status shows the delay that its failures ask for, and counts none in a session. -/
structure Accords (policy : BackoffPolicy) (status : ChannelStatus) : Prop where
  backoff_eq : status.backoff =
    if status.failures = 0 then policy.floor else policy.delayFor status.failures
  unfailing : status.state = .connected → status.failures = 0

end ChannelStatus

namespace Reconnect

/-- The status of a channel that counts so. -/
def statusIn (r : Reconnect) (state : ConnectionState) : ChannelStatus :=
  ⟨state, r.failures, r.backoff⟩

variable (r : Reconnect) (state : ConnectionState)

@[simp] theorem statusIn_state : (r.statusIn state).state = state := rfl

@[simp] theorem statusIn_failures : (r.statusIn state).failures = r.failures := rfl

@[simp] theorem statusIn_backoff : (r.statusIn state).backoff = r.backoff := rfl

end Reconnect

namespace Channel

/-- How far a channel has come with its attempts. -/
inductive Phase where
  | ready
  | connecting
  | connected
  /-- An attempt or a session has just failed. -/
  | failed
  | resting
  | finished
  deriving DecidableEq

/-- The phase in which a channel does something. -/
def phaseOf : Activity → Phase
  | .starting => .ready
  | .connecting => .connecting
  | .asking .. | .listening _ => .connected
  | .resting => .resting
  | .finished => .finished

namespace Phase

/-- The state that a channel has shown last. -/
def state : Phase → ConnectionState
  | .connecting => .connecting
  | .connected => .connected
  | .ready | .failed | .resting | .finished => .disconnected

/-- What has been shown of a round that is under way. -/
def begun : Phase → List ConnectionState
  | .connecting => [.connecting]
  | .connected => [.connecting, .connected]
  | .ready | .failed | .resting | .finished => []

end Phase

/-- What has been shown of a channel up to a phase, and the count of failures there. -/
inductive Course (policy : BackoffPolicy) : List Effect → Phase → Reconnect → Prop where
  | create : Course policy [.show ((Reconnect.start policy).statusIn .disconnected)] .ready
      (.start policy)
  | attempt {log phase r} (course : Course policy log phase r)
      (idle : phase = .ready ∨ phase = .resting) :
      Course policy (log ++ [.show (r.statusIn .connecting)]) .connecting r
  | connect {log r} (course : Course policy log .connecting r) :
      Course policy (log ++ [.show ((Reconnect.start policy).statusIn .connected)]) .connected
        (.start policy)
  | fail {log phase r} (course : Course policy log phase r)
      (busy : phase = .connecting ∨ phase = .connected) :
      Course policy (log ++ [.show ((r.fail policy).statusIn .disconnected)]) .failed
        (r.fail policy)
  | sleep {log r} (course : Course policy log .failed r) :
      Course policy (log ++ [.sleep r.backoff]) .resting r
  | finish {log phase r} (course : Course policy log phase r) (begun : phase ≠ .ready)
      (unfinished : phase ≠ .finished) :
      Course policy (log ++ [.show (r.statusIn .disconnected)]) .finished r

/-- Rounds of attempts, each of which leads to a session or does not. -/
inductive Rounds : List ConnectionState → Prop where
  | nil : Rounds []
  | missed {rounds} (h : Rounds rounds) : Rounds (rounds ++ [.connecting, .disconnected])
  | served {rounds} (h : Rounds rounds) :
      Rounds (rounds ++ [.connecting, .connected, .disconnected])

/-- What a channel has done before it shows a status. Before an attempt, unless it is the first
one, the channel has shown the delay and slept as long. -/
def Rested (policy : BackoffPolicy) (before : List Effect) (status : ChannelStatus) : Prop :=
  status.state = .connecting →
    before = [.show ((Reconnect.start policy).statusIn .disconnected)] ∨
      ∃ earlier, before = earlier ++
        [.show ⟨.disconnected, status.failures, status.backoff⟩, .sleep status.backoff]

/-- A channel that is on the course of its phase. -/
structure OnCourse (policy : BackoffPolicy) (log : List Effect) (c : Channel) : Prop where
  policy_eq : c.settings.backoff = policy
  course : Course policy log (phaseOf c.activity) c.reconnect

variable {policy : BackoffPolicy} {log effects : List Effect} {phase : Phase} {r : Reconnect}
  {c next : Channel} {connection : Connection} {signal : Signal}

section Steps

theorem Fails.onCourse (h : Fails c effects next) (policy_eq : c.settings.backoff = policy)
    (course : Course policy log phase c.reconnect)
    (busy : phase = .connecting ∨ phase = .connected) :
    OnCourse policy (log ++ effects.filter Effect.marks) next := by
  subst policy_eq
  have failed := course.fail busy
  cases h with
  | rest active counted shown =>
      subst counted shown
      have slept := failed.sleep
      rw [List.append_assoc] at slept
      exact ⟨rfl, slept⟩
  | finish cancelled counted shown =>
      subst counted shown
      have finished := failed.finish (by simp) (by simp)
      rw [List.append_assoc] at finished
      exact ⟨rfl, finished⟩

theorem Attempts.onCourse (h : Attempts c effects next) (policy_eq : c.settings.backoff = policy)
    (course : Course policy log phase c.reconnect)
    (idle : phase = .ready ∨ phase = .resting) :
    OnCourse policy (log ++ effects.filter Effect.marks) next := by
  have attempted := course.attempt idle
  cases h with
  | connect => exact ⟨policy_eq, attempted⟩
  | unusable active resolved fails =>
      have failed := fails.onCourse policy_eq attempted (.inl rfl)
      rw [List.append_assoc] at failed
      exact failed
  | finish =>
      have finished := attempted.finish (by simp) (by simp)
      rw [List.append_assoc] at finished
      exact ⟨policy_eq, finished⟩

theorem Listens.onCourse (h : Listens c connection effects next)
    (policy_eq : c.settings.backoff = policy)
    (course : Course policy log .connected c.reconnect) :
    OnCourse policy (log ++ effects.filter Effect.marks) next := by
  cases h with
  | finish => exact ⟨policy_eq, course.finish (by simp) (by simp)⟩
  | wait =>
      rw [List.filter_nil, List.append_nil]
      exact ⟨policy_eq, course⟩
  | @ask active passed notification rest errand =>
      have hfilter : [Effect.send (errand.request connection.nextId)].filter Effect.marks = [] :=
        rfl
      rw [hfilter, List.append_nil]
      exact ⟨policy_eq, course⟩

theorem onCourse_create (server : Server) (settings : ChannelSettings) (cancelled : Bool) :
    OnCourse settings.backoff [.show (create server settings cancelled).status]
      (create server settings cancelled) :=
  ⟨rfl, .create⟩

/-- Every step of a channel follows its course. -/
theorem OnCourse.step (h : OnCourse policy log c) (steps : Steps c signal effects next) :
    OnCourse policy (log ++ effects.filter Effect.marks) next := by
  obtain ⟨policy_eq, course⟩ := h
  -- most steps in a session neither show a status nor count anything
  have still {next : Channel} {effects : List Effect} (quiet : effects.filter Effect.marks = [])
      (settings : next.settings = c.settings) (reconnect : next.reconnect = c.reconnect)
      (phase : phaseOf next.activity = phaseOf c.activity) :
      OnCourse policy (log ++ effects.filter Effect.marks) next := by
    rw [quiet, List.append_nil]
    refine ⟨?_, ?_⟩
    · rw [settings]
      exact policy_eq
    · rw [reconnect, phase]
      exact course
  cases steps with
  | ignore => exact still rfl rfl rfl rfl
  | start starting attempts =>
      rw [starting] at course
      exact attempts.onCourse policy_eq course (.inl rfl)
  | wake resting attempts =>
      rw [resting] at course
      exact attempts.onCourse policy_eq course (.inr rfl)
  | begin connecting reset shown =>
      subst policy_eq reset shown
      rw [connecting] at course
      exact ⟨rfl, course.connect⟩
  | miss connecting missed fails =>
      rw [connecting] at course
      exact fails.onCourse policy_eq course (.inl rfl)
  | heed => exact still rfl rfl rfl rfl
  | stop idle =>
      refine ⟨policy_eq, course.finish ?_ ?_⟩ <;>
        obtain idle | ⟨connection, idle⟩ | idle := idle <;> simp [idle, phaseOf]
  | keep uncancelled asking unended => exact still rfl rfl rfl (by rw [asking]; rfl)
  | seed asking => exact still rfl rfl rfl (by rw [asking]; rfl)
  | answer asking later ended read listens =>
      rw [asking] at course
      exact listens.onCourse policy_eq course
  | excuse asking ended listens =>
      rw [asking] at course
      exact listens.onCourse policy_eq course
  | lose asking ended useless inexcusable fails =>
      rw [asking] at course
      exact fails.onCourse policy_eq course (.inr rfl)
  | notice listening announced listens =>
      rw [listening] at course
      exact listens.onCourse policy_eq course
  | drop listening broken fails =>
      rw [listening] at course
      exact fails.onCourse policy_eq course (.inr rfl)
  | overhear => exact still rfl rfl rfl rfl

/-- A channel stays on its course, whatever happens to it. -/
theorem OnCourse.run (h : OnCourse policy log c) (signals : List Signal) :
    OnCourse policy (log ++ (c.run signals).2.filter Effect.marks) (c.run signals).1 := by
  induction signals generalizing log c with
  | nil => simpa using h
  | cons signal rest ih =>
      have hrest := ih (h.step (steps_step c signal))
      rw [List.append_assoc, ← List.filter_append] at hrest
      exact hrest

end Steps

section Statuses

open Effect (statuses)

variable {shown : List ChannelStatus} {earlier later : ChannelStatus}

theorem accords_statusIn (counted : Reconnect.Counted policy r) {state : ConnectionState}
    (unfailing : state = .connected → r.failures = 0) :
    (r.statusIn state).Accords policy := by
  refine ⟨?_, unfailing⟩
  by_cases none : r.failures = 0
  · simp [none, counted.backoff_eq, policy.floor_eq]
  · simp [none, counted.backoff_eq]

theorem Course.counted (course : Course policy log phase r) : Reconnect.Counted policy r := by
  induction course with
  | create => exact Reconnect.counted_start policy
  | connect => exact Reconnect.counted_start policy
  | fail => exact Reconnect.counted_fail policy _
  | attempt _ _ ih => exact ih
  | sleep _ ih => exact ih
  | finish _ _ _ ih => exact ih

/-- The status that was shown last tells the state and the count. -/
theorem Course.last (course : Course policy log phase r) :
    ∃ earlier, statuses log = earlier ++ [r.statusIn phase.state] := by
  induction course with
  | create => exact ⟨[], rfl⟩
  | sleep _ ih =>
      rw [Effect.statuses_concat_sleep]
      exact ih
  | attempt | connect | fail | finish => exact ⟨_, Effect.statuses_concat_show⟩

/-- A round that is under way is over once the channel is disconnected. -/
theorem Rounds.concluded {rounds : List ConnectionState} (h : Rounds rounds)
    (busy : phase = .connecting ∨ phase = .connected) :
    Rounds (rounds ++ (phase.begun ++ [.disconnected])) := by
  obtain rfl | rfl := busy
  · exact h.missed
  · exact h.served

theorem Rounds.exists_prefix {rounds : List ConnectionState} (h : Rounds rounds) (phase : Phase) :
    ∃ more, Rounds more ∧ rounds ++ phase.begun <+: more := by
  cases phase with
  | connecting => exact ⟨_, h.missed, by simp [Phase.begun]⟩
  | connected => exact ⟨_, h.served, by simp [Phase.begun]⟩
  | ready | failed | resting | finished => exact ⟨rounds, h, by simp [Phase.begun]⟩

/-- Until a channel is at its end, its states are shown in rounds. -/
theorem Course.rounds (course : Course policy log phase r) (unfinished : phase ≠ .finished) :
    ∃ rounds, Rounds rounds ∧
      (statuses log).map ChannelStatus.state = .disconnected :: (rounds ++ phase.begun) := by
  induction course with
  | create => exact ⟨[], .nil, rfl⟩
  | attempt _ idle ih =>
      obtain ⟨rounds, hrounds, shown⟩ := ih (by rintro rfl; simp at idle)
      refine ⟨rounds, hrounds, ?_⟩
      obtain rfl | rfl := idle <;> simp [shown, Phase.begun]
  | connect _ ih =>
      obtain ⟨rounds, hrounds, shown⟩ := ih (by simp)
      exact ⟨rounds, hrounds, by simp [shown, Phase.begun]⟩
  | fail _ busy ih =>
      obtain ⟨rounds, hrounds, shown⟩ := ih (by rintro rfl; simp at busy)
      exact ⟨_, hrounds.concluded busy, by simp [shown, Phase.begun]⟩
  | sleep _ ih =>
      rw [Effect.statuses_concat_sleep]
      exact ih (by simp)
  | finish => exact absurd rfl unfinished

/-- At its end a channel concludes the round that is under way, or shows once more that it is
disconnected. -/
theorem Course.rounds_finished (course : Course policy log .finished r) :
    ∃ rounds, Rounds rounds ∧
      ((statuses log).map ChannelStatus.state = .disconnected :: rounds ∨
        (statuses log).map ChannelStatus.state = .disconnected :: (rounds ++ [.disconnected])) := by
  cases course with
  | @finish log phase _ course begun unfinished =>
      obtain ⟨rounds, hrounds, shown⟩ := course.rounds unfinished
      cases phase with
      | ready => exact absurd rfl begun
      | finished => exact absurd rfl unfinished
      | connecting => exact ⟨_, hrounds.missed, .inl (by simp [shown, Phase.begun])⟩
      | connected => exact ⟨_, hrounds.served, .inl (by simp [shown, Phase.begun])⟩
      | failed | resting => exact ⟨rounds, hrounds, .inr (by simp [shown, Phase.begun])⟩

theorem Course.accords (course : Course policy log phase r) :
    ∀ status ∈ statuses log, status.Accords policy := by
  have shows {log : List Effect} {later : ChannelStatus}
      (ih : ∀ status ∈ statuses log, status.Accords policy) (accords : later.Accords policy) :
      ∀ status ∈ statuses (log ++ [.show later]), status.Accords policy := by
    rw [Effect.statuses_concat_show]
    exact List.forall_mem_append.mpr ⟨ih, List.forall_mem_singleton.mpr accords⟩
  induction course with
  | create =>
      rw [Effect.statuses_show]
      exact List.forall_mem_singleton.mpr
        (accords_statusIn (Reconnect.counted_start policy) (by simp))
  | attempt course _ ih => exact shows ih (accords_statusIn course.counted (by simp))
  | connect course ih =>
      exact shows ih (accords_statusIn (Reconnect.counted_start policy) fun _ => rfl)
  | fail course _ ih =>
      exact shows ih (accords_statusIn (Reconnect.counted_fail policy _) (by simp))
  | sleep course ih => simpa using ih
  | finish course _ _ ih => exact shows ih (accords_statusIn course.counted (by simp))

/-- Whether each status follows the one before it, the last one as the last of a channel if the
channel is at its end. -/
def Linked (finished : Bool) (shown : List ChannelStatus) : Prop :=
  ∀ before earlier later after, shown = before ++ earlier :: later :: after →
    earlier.Follows (finished && after.isEmpty) later

theorem Linked.concat {finished : Bool} (linked : Linked false (shown ++ [earlier]))
    (follows : earlier.Follows finished later) :
    Linked finished (shown ++ [earlier] ++ [later]) := by
  intro before x y after split
  have hsplit : shown ++ [earlier] ++ [later] = (before ++ [x]) ++ y :: after := by
    simpa using split
  -- either this is the new pair, or something is shown behind it by now
  obtain ⟨hbefore, rfl, rfl⟩ | ⟨rest, rfl, hshown⟩ := concat_eq_append_cons_iff.mp hsplit
  · obtain ⟨-, hx⟩ := List.append_inj' hbefore rfl
    obtain rfl := List.singleton_inj.mp hx
    simpa using follows
  · have hrest : (rest ++ [later]).isEmpty = false := by simp
    rw [hrest, Bool.and_false]
    exact linked before x y rest (by simpa using hshown)

/-- Every status follows the one before it. -/
theorem Course.linked (course : Course policy log phase r) :
    Linked (phase = .finished) (statuses log) := by
  have shows {log : List Effect} {phase : Phase} {r : Reconnect} {status : ChannelStatus}
      {finished : Bool} (course : Course policy log phase r) (unfinished : phase ≠ .finished)
      (linked : Linked (phase = .finished) (statuses log))
      (follows : (r.statusIn phase.state).Follows finished status) :
      Linked finished (statuses (log ++ [.show status])) := by
    obtain ⟨earlier, hlast⟩ := course.last
    rw [Effect.statuses_concat_show, hlast]
    refine Linked.concat ?_ follows
    simpa [hlast, unfinished] using linked
  induction course with
  | create =>
      intro before earlier later after split
      simp [List.singleton_eq_append_iff] at split
  | attempt course idle ih =>
      refine shows course ?_ ih ⟨rfl, rfl⟩
      obtain rfl | rfl := idle <;> simp
  | connect course ih => exact shows course (by simp) ih rfl
  | fail course busy ih =>
      refine shows course ?_ ih rfl
      obtain rfl | rfl := busy <;> simp
  | sleep course ih => simpa using ih
  | finish course begun unfinished ih => exact shows course unfinished ih ⟨rfl, rfl⟩

theorem Course.slept (course : Course policy log .resting r) :
    ∃ earlier, log = earlier ++ [.show (r.statusIn .disconnected), .sleep r.backoff] := by
  cases course with
  | sleep course =>
      cases course with
      | fail => exact ⟨_, List.append_assoc _ _ _⟩

/-- Before every attempt but the first one, a channel sleeps as long as it has just shown. -/
theorem Course.rested (course : Course policy log phase r) :
    ∀ before status after, log = before ++ .show status :: after →
      Rested policy before status := by
  have grows {log : List Effect} {effect : Effect}
      (ih : ∀ before status after, log = before ++ .show status :: after →
        Rested policy before status)
      (rested : ∀ status, effect = .show status → Rested policy log status) :
      ∀ before status after, log ++ [effect] = before ++ .show status :: after →
        Rested policy before status := by
    intro before status after split
    obtain ⟨rfl, hshow, -⟩ | ⟨rest, -, hlog⟩ := concat_eq_append_cons_iff.mp split
    · exact rested status hshow.symm
    · exact ih before status rest hlog
  have others {log : List Effect} {state : ConnectionState} {r : Reconnect}
      (other : state ≠ .connecting) (status : ChannelStatus)
      (shown : Effect.show (r.statusIn state) = .show status) : Rested policy log status := by
    obtain rfl := Effect.show.inj shown
    intro connecting
    exact absurd connecting other
  induction course with
  | create =>
      have hempty : ∀ before status after, ([] : List Effect) = before ++ .show status :: after →
          Rested policy before status := by simp
      exact grows hempty (others (by simp))
  | attempt course idle ih =>
      refine grows ih ?_
      intro status shown _
      obtain rfl := Effect.show.inj shown
      obtain rfl | rfl := idle
      · cases course
        exact .inl rfl
      · exact .inr course.slept
  | connect _ ih => exact grows ih (others (by simp))
  | fail _ _ ih => exact grows ih (others (by simp))
  | finish _ _ _ ih => exact grows ih (others (by simp))
  | sleep _ ih => exact grows ih (by simp)

theorem isFinished_eq (c : Channel) : c.isFinished = decide (phaseOf c.activity = .finished) := by
  unfold isFinished
  cases c.activity <;> rfl

/-- What a channel shows, whatever it goes through. It is disconnected at first; then it attempts
to connect, is connected or not, and is disconnected again, and so on; only at its end it may show
once more that it is disconnected. The delay that it shows is the one that its failures ask for,
and connected it has none. A failure adds one to them, as far as the count goes, and an attempt
and the end leave them as they are. Before every attempt but the first one, the channel sleeps for
the delay that it has just shown. The status that it has shown last tells what it is doing. -/
theorem statuses_run (server : Server) (settings : ChannelSettings) (cancelled : Bool)
    (signals : List Signal) :
    let start := create server settings cancelled
    let finish := (start.run signals).1
    let log := .show start.status :: (start.run signals).2.filter Effect.marks
    (∃ rounds, Rounds rounds ∧
      ((statuses log).map ChannelStatus.state <+: .disconnected :: rounds ∨
        finish.isFinished = true ∧
          (statuses log).map ChannelStatus.state =
            .disconnected :: (rounds ++ [.disconnected]))) ∧
    (∀ status ∈ statuses log,
      (status.backoff = if status.failures = 0 then settings.backoff.floor
        else settings.backoff.delayFor status.failures) ∧
      (status.state = .connected → status.failures = 0)) ∧
    (∀ before earlier later after, statuses log = before ++ earlier :: later :: after →
      earlier.Follows (finish.isFinished && after.isEmpty) later) ∧
    (∀ before status after, log = before ++ .show status :: after → status.state = .connecting →
      before = [.show start.status] ∨
        ∃ earlier, before = earlier ++
          [.show ⟨.disconnected, status.failures, status.backoff⟩, .sleep status.backoff]) ∧
    ∃ earlier, statuses log =
      earlier ++ [finish.reconnect.statusIn (phaseOf finish.activity).state] := by
  intro start finish log
  have course : Course settings.backoff log (phaseOf finish.activity) finish.reconnect :=
    ((onCourse_create server settings cancelled).run signals).course
  refine ⟨?_, ?_, ?_, course.rested, course.last⟩
  · by_cases finished : phaseOf finish.activity = .finished
    · obtain ⟨rounds, hrounds, shown | shown⟩ := (finished ▸ course).rounds_finished
      · exact ⟨rounds, hrounds, .inl (shown ▸ List.prefix_rfl)⟩
      · exact ⟨rounds, hrounds, .inr ⟨by simp [isFinished_eq, finished], shown⟩⟩
    · obtain ⟨rounds, hrounds, shown⟩ := course.rounds finished
      obtain ⟨more, hmore, hprefix⟩ := hrounds.exists_prefix (phaseOf finish.activity)
      refine ⟨more, hmore, .inl ?_⟩
      rw [shown]
      exact (List.prefix_cons_inj _).mpr hprefix
  · intro status hstatus
    obtain ⟨backoff_eq, unfailing⟩ := course.accords status hstatus
    exact ⟨backoff_eq, unfailing⟩
  · rw [isFinished_eq]
    exact course.linked

end Statuses

end Channel

namespace Sample

/-- The server at rest, or before its first attempt. -/
def idle (reconnect : Reconnect) (activity : Activity) : Channel :=
  ⟨host, policy, reconnect, false, reconnect.statusIn .disconnected, activity⟩

/-- The server while it tries to connect. -/
def attempting (reconnect : Reconnect) : Channel :=
  ⟨host, policy, reconnect, false, reconnect.statusIn .connecting, .connecting⟩

theorem attempt_idle : ∃ uri, ∀ reconnect activity, (idle reconnect activity).attempt =
    (attempting reconnect,
      [.show (reconnect.statusIn .connecting), .connect uri host.secret]) := by
  obtain ⟨uri, resolved⟩ := resolve_host
  refine ⟨uri, ?_⟩
  intro reconnect activity
  simp only [idle, Channel.attempt, Channel.enter, Channel.endpoint, resolved]
  rfl

/-- The first attempt is refused, and the channel is cancelled during the second one. -/
def refusal : List Signal := [.start, .refused, .alarm, .cancel]

theorem run_refusal :
    ((Channel.create host policy false).run refusal).1.isFinished = true ∧
      ((Channel.create host policy false).run refusal).2.filter Effect.marks =
        [.show ⟨.connecting, 0, ⟨1⟩⟩, .show ⟨.disconnected, 1, ⟨1⟩⟩, .sleep ⟨1⟩,
          .show ⟨.connecting, 1, ⟨1⟩⟩, .show ⟨.disconnected, 1, ⟨1⟩⟩] := by
  obtain ⟨uri, attempted⟩ := attempt_idle
  have started : (Channel.create host policy false).step .start =
      (attempting ⟨0, ⟨1⟩⟩, _) := attempted ⟨0, ⟨1⟩⟩ .starting
  have refused : (attempting ⟨0, ⟨1⟩⟩).step .refused =
      (idle ⟨1, ⟨1⟩⟩ .resting, [.show ⟨.disconnected, 1, ⟨1⟩⟩, .sleep ⟨1⟩]) := rfl
  have woken : (idle ⟨1, ⟨1⟩⟩ .resting).step .alarm = (attempting ⟨1, ⟨1⟩⟩, _) :=
    attempted ⟨1, ⟨1⟩⟩ .resting
  simp only [refusal, Channel.run, started, refused, woken]
  exact ⟨rfl, rfl⟩

end Sample

namespace Channel

/-- The second attempt begins after the delay that the failure of the first one has shown, and the
end leaves that failure counted. -/
theorem statuses_run_sample :
    let run := (create Sample.host Sample.policy false).run Sample.refusal
    let log := .show ⟨.disconnected, 0, ⟨1⟩⟩ :: run.2.filter Effect.marks
    run.1.isFinished = true ∧
    ChannelStatus.Follows true ⟨.connecting, 1, ⟨1⟩⟩ ⟨.disconnected, 1, ⟨1⟩⟩ ∧
    ∃ earlier rest, log = earlier ++ .show ⟨.disconnected, 1, ⟨1⟩⟩ :: .sleep ⟨1⟩ ::
      .show ⟨.connecting, 1, ⟨1⟩⟩ :: rest := by
  intro run log
  obtain ⟨finished, hlog⟩ := Sample.run_refusal
  obtain ⟨-, -, follows, rested, -⟩ := statuses_run Sample.host Sample.policy false Sample.refusal
  rw [finished, hlog] at follows
  rw [hlog] at rested
  refine ⟨finished, ?_, ?_⟩
  · exact follows [⟨.disconnected, 0, ⟨1⟩⟩, ⟨.connecting, 0, ⟨1⟩⟩, ⟨.disconnected, 1, ⟨1⟩⟩] _ _ []
      rfl
  · obtain hfirst | ⟨earlier, hearlier⟩ := rested [.show ⟨.disconnected, 0, ⟨1⟩⟩,
      .show ⟨.connecting, 0, ⟨1⟩⟩, .show ⟨.disconnected, 1, ⟨1⟩⟩, .sleep ⟨1⟩] ⟨.connecting, 1, ⟨1⟩⟩
      [.show ⟨.disconnected, 1, ⟨1⟩⟩] rfl rfl
    · simp at hfirst
    · refine ⟨earlier, [.show ⟨.disconnected, 1, ⟨1⟩⟩], ?_⟩
      have hrest : log = (earlier ++ [.show ⟨.disconnected, 1, ⟨1⟩⟩, .sleep ⟨1⟩]) ++
          [.show ⟨.connecting, 1, ⟨1⟩⟩, .show ⟨.disconnected, 1, ⟨1⟩⟩] := by
        rw [← hearlier]
        simp [log, run, hlog]
      simpa using hrest

end Channel

end Flotilla
