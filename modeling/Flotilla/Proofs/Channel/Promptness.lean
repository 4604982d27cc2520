import Flotilla.Proofs.Channel.Ending
import Flotilla.Proofs.Channel.Script

/-!
# Cancelling a channel

A cancellation may strike a channel while it waits for a signal, or between any two things that it
does about one. From then on the channel takes up nothing new. It asks at most what it owes: the
questions that are left of the beginning of its session, or of the announcement that it has taken
up. As soon as no question is under way any more, it shows that it is disconnected and comes to its
end.

Two facts carry this. The questions that a channel owes can be read off what it has done, and off
what it is doing: only the first question of a session leaves another one to be asked. And a script
that is played to a cancelled channel ends where the channel would look.
-/

namespace Flotilla

namespace Act

/-- Whether a channel takes up something new: a session, an announcement, an attempt to connect, or
a rest before the next one. -/
def ventures : Act → Bool
  | .begin | .take _ | .perform (.connect ..) | .perform (.sleep _) => true
  | .perform _ => false

/-- The question that is asked. -/
def question? : Act → Option String
  | .perform (.send request) => some request.method
  | _ => none

/-- The questions that a channel asks. -/
def questions (acts : List Act) : List String := acts.filterMap question?

/-- What an act leaves of the questions that a channel owes. A session begins with two of them, and
an announcement calls for one at most. Without a session nothing is owed. -/
def leaves (owed : List String) : Act → List String
  | .begin => [Request.playersMethod, Request.bansMethod]
  | .take notification => (Errand.ofNotification? notification).toList.map Errand.method
  | .perform (.send request) => owed.erase request.method
  | .perform (.show status) => if status.state = .connected then owed else []
  | .perform _ => owed

/-- The questions that a channel owes after all that it has done. -/
def owed (log : List Act) : List String := log.foldl leaves []

@[simp] theorem questions_append (first second : List Act) :
    questions (first ++ second) = questions first ++ questions second :=
  List.filterMap_append

theorem length_foldl_leaves_le {owed : List String} (few : owed.length ≤ 2) (log : List Act) :
    (log.foldl leaves owed).length ≤ 2 := by
  induction log generalizing owed with
  | nil => exact few
  | cons act rest ih =>
      refine ih ?_
      cases act with
      | begin => exact Nat.le_refl 2
      | take notification =>
          simp only [leaves, List.length_map]
          cases Errand.ofNotification? notification <;> simp
      | perform effect =>
          cases effect with
          | send request => exact Nat.le_trans List.erase_sublist.length_le few
          | «show» status =>
              simp only [leaves]
              split
              next => exact few
              next => exact Nat.zero_le 2
          | _ => exact few

/-- A channel owes two questions at most. -/
theorem length_owed_le (log : List Act) : (owed log).length ≤ 2 := by
  have few : ([] : List String).length ≤ 2 := Nat.zero_le 2
  exact length_foldl_leaves_le few log

end Act

namespace Errand

/-- The questions that are owed once an errand is under way. -/
def due : Errand → List String
  | .seedPlayers => [Request.bansMethod]
  | .seedBans | .players | .bans => []

end Errand

namespace Channel

/-- The questions that a channel still owes while it waits for a signal. -/
def due (c : Channel) : List String :=
  match c.activity with
  | .asking _ _ errand => errand.due
  | _ => []

/-- How a cancellation strikes a channel: what the channel has done about the signal at hand, what
it does about it in spite of the cancellation, and the channel from then on. -/
inductive Struck (c : Channel) : List Act → List Act → Channel → Prop where
  /-- The channel waits for a signal. -/
  | waiting : Struck c [] (c.cancel.2.map .perform) c.cancel.1
  /-- The channel is busy with a signal. If it comes to wait again, it finds out. -/
  | amid {signal before rest} (heard : signal ≠ .cancel)
      (reached : (c.script signal).Reaches before rest) :
      Struck c before ((rest.play true).2 ++ (rest.play true).1.cancel.2.map .perform)
        (rest.play true).1.cancel.1

/-- What is promised of a channel that has been cancelled, with the questions that it owed then and
all that it has done since. -/
structure Prompt (owed : List String) (since : List Act) (c : Channel) : Prop where
  modest : ∀ act ∈ since, act.ventures = false
  asked : Act.questions since <+: owed
  few : owed.length ≤ 2
  /-- If the channel has begun and no question is under way, it has come to its end, and the last
  thing that it has done is to show that it is disconnected. -/
  ended : c.activity = .starting ∨
    (∃ connection awaiting errand, c.activity = .asking connection awaiting errand) ∨
    c.activity = .finished ∧ c.status.state = .disconnected ∧
      ∃ earlier, since = earlier ++ [.perform (.show c.status)]
  begins : c.activity = .starting → (c.step .start).1.activity = .finished
  /-- When a question ends, so does the channel, but for the first question of a session. -/
  answered : ∀ {connection awaiting errand}, c.activity = .asking connection awaiting errand →
    ∀ {signal ending}, Signal.ending? awaiting.id signal = some ending →
      (c.step signal).1.activity = .finished ∨
        errand = .seedPlayers ∧ ∃ kept again,
          (c.step signal).1.activity = .asking kept again .seedBans

end Channel

namespace Script

open Channel (finishing)

/-- A script that asks no more than is owed. Where a channel looks, it comes to its end if it is
cancelled. -/
inductive Bound : List String → Script → Prop where
  | done {c : Channel} {owed} (unfinished : c.activity ≠ .finished) (owing : c.due = owed) :
      Bound owed (.done c)
  | act {owed act rest} (modest : act.ventures = false)
      (spent : act.question?.toList ++ act.leaves owed <+: owed)
      (bound : Bound (act.leaves owed) rest) : Bound owed (.act act rest)
  | look {owed acts active} (c : Channel) (bound : Bound (acts.foldl Act.leaves owed) active) :
      Bound owed (.look c.finishing acts active)

variable {owed : List String} {script rest : Script} {before : List Act}

/-- What is left of a script asks no more than is owed then. -/
theorem Bound.reaches (h : script.Bound owed) (reached : script.Reaches before rest) :
    rest.Bound (before.foldl Act.leaves owed) := by
  induction reached generalizing owed with
  | here => exact h
  | act _ ih =>
      obtain _ | ⟨-, -, bound⟩ := h
      exact ih bound
  | look _ ih =>
      obtain _ | _ | ⟨c, bound⟩ := h
      rw [List.foldl_append]
      exact ih bound

/-- What a channel owes after a script is what it still owes while it waits. -/
theorem Bound.due (h : script.Bound owed) :
    (script.play false).2.foldl Act.leaves owed = (script.play false).1.due := by
  induction h with
  | done _ owing => exact owing.symm
  | act _ _ _ ih => exact ih
  | look c _ ih => simpa [play] using ih

end Script

namespace Channel

open Script (Bound)

variable {c : Channel} {owed : List String} {since : List Act}

section Bound

theorem bound_posing (c : Channel) (connection : Connection) (errand : Errand) :
    (c.posing connection errand).Bound (errand.method :: errand.due) := by
  have hleft : Act.leaves (errand.method :: errand.due)
      (.perform (.send (errand.request connection.nextId))) = errand.due :=
    List.erase_cons_head _ _
  refine .act rfl ?_ ?_
  · rw [hleft]
    exact List.prefix_rfl
  · rw [hleft]
    exact .done (by simp [ask]) rfl

theorem bound_failing (c : Channel) : c.failing.Bound owed :=
  .act rfl List.nil_prefix (.look _ (.done (by simp [enter]) rfl))

theorem bound_attempting (c : Channel) : c.attempting.Bound owed := by
  refine .act rfl List.nil_prefix ?_
  cases Endpoint.resolve c.endpoint c.server.secret with
  | ok uri => exact .look _ (.done (by simp [enter]) rfl)
  | error error => exact .look _ (bound_failing _)

theorem bound_listeningTo (c : Channel) (connection : Connection) (waiting : List Notification) :
    (c.listeningTo connection waiting).Bound [] := by
  induction waiting with
  | nil => exact .look c (.done (by simp) rfl)
  | cons notification rest ih =>
      unfold listeningTo
      refine .look c ?_
      cases notification with
      | playersJoined | playersLeft => exact bound_posing c _ .players
      | bansAdded | bansRemoved => exact bound_posing c _ .bans
      | _ => exact ih

theorem bound_goingOn (c : Channel) (connection : Connection) (errand : Errand) :
    (c.goingOn connection errand).Bound errand.due := by
  cases errand with
  | seedPlayers => exact bound_posing c connection .seedBans
  | seedBans | players | bans => exact bound_listeningTo c connection connection.pending

theorem bound_concluding (c : Channel) (connection : Connection) (errand : Errand)
    (outcome : Except ConnectionError Json) :
    (c.concluding connection errand outcome).Bound errand.due := by
  cases outcome with
  | ok result =>
      simp only [concluding]
      cases errand.report? result with
      | none => exact bound_failing c
      | some report =>
          have told := bound_goingOn c connection errand
          exact .act rfl List.prefix_rfl (.act rfl List.prefix_rfl told)
  | error error =>
      cases error with
      | remote method error =>
          simp only [concluding]
          split
          next excused =>
            subst excused
            exact bound_listeningTo c connection connection.pending
          next => exact bound_failing c
      | _ => exact bound_failing c

theorem bound_hearing (c : Channel) (connection : Connection) (awaiting : Connection.Awaiting)
    (errand : Errand) (arrival : Arrival) :
    (c.hearing connection awaiting errand arrival).Bound errand.due := by
  unfold hearing
  obtain ⟨outcome, kept⟩ := connection.await awaiting arrival
  cases outcome with
  | none => exact .done (by simp) rfl
  | some outcome => exact bound_concluding c kept errand outcome

theorem bound_noticing {connection : Connection} (listening : c.activity = .listening connection)
    (arrival : Arrival) : (c.noticing connection arrival).Bound [] := by
  unfold noticing
  cases connection.listen arrival with
  | none => exact .done (by simp [listening]) (by simp [due, listening])
  | some heard =>
      cases heard with
      | ok notification => exact bound_listeningTo c _ _
      | error error => exact .look c (bound_failing c)

theorem bound_beginning (c : Channel) : c.beginning.Bound owed :=
  .look c (.act rfl List.prefix_rfl (bound_posing _ _ .seedPlayers))

/-- Whatever a channel does about a signal, it asks no more than it owes. -/
theorem bound_script (unfinished : c.activity ≠ .finished) {signal : Signal}
    (heard : signal ≠ .cancel) : (c.script signal).Bound c.due := by
  have ignored : (Script.done c).Bound c.due := .done unfinished rfl
  cases hactivity : c.activity with
  | finished => exact absurd hactivity unfinished
  | starting =>
      cases signal with
      | cancel => exact absurd rfl heard
      | start => simpa [script, hactivity] using bound_attempting c
      | _ => simpa [script, hactivity] using ignored
  | connecting =>
      have failing : (Script.look c.finishing [] c.failing).Bound c.due :=
        .look c (bound_failing c)
      cases signal with
      | cancel => exact absurd rfl heard
      | opened => simpa [script, hactivity] using bound_beginning c
      | refused | alarm => simpa [script, hactivity] using failing
      | _ => simpa [script, hactivity] using ignored
  | asking connection awaiting errand =>
      have hdue : c.due = errand.due := by simp [due, hactivity]
      have hearing := bound_hearing c connection awaiting errand
      cases signal with
      | cancel => exact absurd rfl heard
      | alarm => simpa [script, hactivity, hdue] using hearing .deadline
      | arrival arrival => simpa [script, hactivity, hdue] using hearing arrival
      | _ => simpa [script, hactivity] using ignored
  | listening connection =>
      have hdue : c.due = [] := by simp [due, hactivity]
      cases signal with
      | cancel => exact absurd rfl heard
      | arrival arrival => simpa [script, hactivity, hdue] using bound_noticing hactivity arrival
      | _ => simpa [script, hactivity] using ignored
  | resting =>
      have attempting : (Script.look c.finishing [] c.attempting).Bound c.due :=
        .look c (bound_attempting c)
      cases signal with
      | cancel => exact absurd rfl heard
      | alarm => simpa [script, hactivity] using attempting
      | _ => simpa [script, hactivity] using ignored

end Bound

section Winding

/-- How a channel that learns of its end winds up, with the questions that it owed and all that it
has done since. -/
structure Winds (owed : List String) (since : List Act) (c : Channel) : Prop where
  modest : ∀ act ∈ since, act.ventures = false
  asked : Act.questions since ++ c.due <+: owed
  ended : c.activity = .finished → c.status.state = .disconnected ∧
    ∃ earlier, since = earlier ++ [.perform (.show c.status)]

theorem winds_waiting (unfinished : c.activity ≠ .finished) (owing : c.due = owed) :
    c.Winds owed [] :=
  ⟨by simp, owing ▸ List.prefix_rfl, fun finished => absurd finished unfinished⟩

/-- A channel that comes to its end only shows that. -/
theorem winds_finish (c : Channel) : c.finish.1.Winds owed (c.finish.2.map .perform) :=
  ⟨by simp [finish, enter, Act.ventures], List.nil_prefix, fun _ => ⟨rfl, [], rfl⟩⟩

/-- What a channel does in spite of its cancellation, up to where it looks. -/
theorem winds_play {script : Script} (h : script.Bound owed) :
    (script.play true).1.Winds owed (script.play true).2 := by
  induction h with
  | done unfinished owing => exact winds_waiting unfinished owing
  | look c => exact winds_finish c
  | @act owed act rest modest spent _ ih =>
      refine ⟨List.forall_mem_cons.mpr ⟨modest, ih.modest⟩, ?_, fun finished => ?_⟩
      · have hquestions : Act.questions (act :: (rest.play true).2) =
            act.question?.toList ++ Act.questions (rest.play true).2 := by
          cases hquestion : act.question? <;> simp [Act.questions, hquestion]
        have hasked := (List.prefix_append_right_inj act.question?.toList).mpr ih.asked
        simpa only [Script.play, hquestions, List.append_assoc] using hasked.trans spent
      · obtain ⟨shown, earlier, hsince⟩ := ih.ended finished
        exact ⟨shown, act :: earlier, by simp [Script.play, hsince]⟩

/-- One stretch of the winding up after another. -/
theorem Winds.trans {next : Channel} {first second : List Act} (h : c.Winds owed first)
    (more : next.Winds c.due second) : next.Winds owed (first ++ second) := by
  refine ⟨List.forall_mem_append.mpr ⟨h.modest, more.modest⟩, ?_, fun finished => ?_⟩
  · have hasked := (List.prefix_append_right_inj (Act.questions first)).mpr more.asked
    rw [Act.questions_append, List.append_assoc]
    exact hasked.trans h.asked
  · obtain ⟨shown, earlier, rfl⟩ := more.ended finished
    exact ⟨shown, first ++ earlier, by simp⟩

/-- A channel that is told of its end where it waits comes to it. -/
theorem Winds.cancel (h : c.Winds owed since) :
    c.cancel.1.Winds owed (since ++ c.cancel.2.map .perform) := by
  obtain ⟨server, settings, reconnect, cancelled, status, activity⟩ := c
  cases activity with
  | connecting | listening | resting => exact h.trans (winds_finish _)
  | starting | asking | finished => simpa [Channel.cancel] using ⟨h.modest, h.asked, h.ended⟩

/-- What a cancelled channel does about a signal belongs to its winding up. -/
theorem Winds.step (h : c.Winds owed since) (orderly : c.Orderly) (cancelled : c.cancelled = true)
    (signal : Signal) :
    (c.step signal).1.Winds owed (since ++ ((c.script signal).play c.cancelled).2) := by
  have hnext := (plays_script orderly signal).1
  by_cases heard : signal = .cancel
  · subst heard
    have hscript : c.script .cancel = .performing c.cancel.2 c.cancel.1 := by simp [script]
    rw [← hnext, hscript, Script.play_performing]
    exact h.cancel
  by_cases finished : c.activity = .finished
  · have hscript : c.script signal = .done c := by
      cases signal with
      | cancel => exact absurd rfl heard
      | _ => simp [script, finished]
    rw [← hnext, hscript]
    simpa [Script.play] using h
  · rw [← hnext, cancelled]
    exact h.trans (winds_play (bound_script finished heard))

theorem Winds.run (h : c.Winds owed since) (orderly : c.Orderly) (cancelled : c.cancelled = true)
    (signals : List Signal) : (c.run signals).1.Winds owed (since ++ c.acts signals) ∧
      (c.run signals).1.Orderly ∧ (c.run signals).1.cancelled = true := by
  induction signals generalizing c since with
  | nil => simpa [acts] using ⟨h, orderly, cancelled⟩
  | cons signal rest ih =>
      have hsteps := c.steps_step signal
      have hrest := ih (h.step orderly cancelled signal) (orderly.step hsteps)
        (hsteps.cancelled cancelled)
      simpa only [acts, List.append_assoc, Channel.run, after] using hrest

/-- A cancelled channel that winds up keeps its promises. -/
theorem Winds.prompt (h : c.Winds owed since) (orderly : c.Orderly) (cancelled : c.cancelled = true)
    (few : owed.length ≤ 2) : c.Prompt owed since := by
  refine ⟨h.modest, (List.prefix_append _ _).trans h.asked, few, ?_, fun starting => ?_, ?_⟩
  · rcases orderly.busy cancelled with starting | asking | finished
    · exact .inl starting
    · exact .inr (.inl asking)
    · exact .inr (.inr ⟨finished, h.ended finished⟩)
  · exact (c.steps_step .start).finished_of_start cancelled starting
  · intro connection awaiting errand asking signal ending ended
    rcases (c.steps_step signal).finished_of_ending cancelled asking ended with
      finished | ⟨first, -, again⟩
    · exact .inl finished
    · exact .inr ⟨first, again⟩

end Winding

section Strike

theorem orderly_cancel (c : Channel) : c.cancel.1.Orderly := by
  obtain ⟨server, settings, reconnect, cancelled, status, activity⟩ := c
  cases activity <;> exact ⟨fun _ => rfl, fun _ => by simp [cancel, finish, enter]⟩

theorem Struck.orderly {before after : List Act} {next : Channel}
    (h : c.Struck before after next) : next.Orderly := by
  cases h <;> exact orderly_cancel _

theorem Struck.cancelled {before after : List Act} {next : Channel}
    (h : c.Struck before after next) : next.cancelled = true := by
  cases h <;> exact cancelled_cancel _

/-- A channel that is struck winds up. -/
theorem Struck.winds {before after : List Act} {next : Channel} (h : c.Struck before after next)
    (unfinished : c.activity ≠ .finished) :
    next.Winds (before.foldl Act.leaves c.due) after := by
  cases h with
  | waiting => exact (winds_waiting unfinished rfl).cancel
  | amid heard reached =>
      have hbound := (bound_script unfinished heard).reaches reached
      exact (winds_play hbound).cancel

/-- What a channel owes can be read off all that it has done, as long as it is not cancelled. -/
theorem owed_acts (orderly : c.Orderly) (signals : List Signal)
    (active : (c.run signals).1.cancelled = false) :
    (c.acts signals).foldl Act.leaves c.due = (c.run signals).1.due := by
  induction signals generalizing c with
  | nil => rfl
  | cons signal rest ih =>
      have hsteps := c.steps_step signal
      have hnext : (c.step signal).1.cancelled = false := active_of_run rest active
      have huncancelled := active_of_run (signal :: rest) active
      have heard : signal ≠ .cancel := by
        rintro rfl
        simp [cancelled_cancel] at hnext
      have unfinished : c.activity ≠ .finished := fun finished => by
        simp [orderly.finished finished] at huncancelled
      have hplay := (plays_script orderly signal).1
      rw [huncancelled] at hplay
      rw [acts, huncancelled, List.foldl_append, (bound_script unfinished heard).due, hplay]
      exact ih (orderly.step hsteps) active

/-- Whenever a channel is cancelled, it takes up no announcement, session or attempt any more, asks
at most the questions that it owed then, which are two at most, and comes to its end as soon as no
question is under way, by showing that it is disconnected. A channel that is cancelled before it is
set up is struck before it begins. -/
theorem prompt_after_cancel (server : Server) (settings : ChannelSettings)
    (signals later : List Signal) {before after : List Act} {next : Channel}
    (active : ((create server settings false).run signals).1.cancelled = false)
    (struck : ((create server settings false).run signals).1.Struck before after next) :
    (next.run later).1.Prompt (Act.owed ((create server settings false).acts signals ++ before))
      (after ++ next.acts later) := by
  have orderly := (orderly_create server settings false).run signals
  have unfinished : ((create server settings false).run signals).1.activity ≠ .finished :=
    fun finished => by simp [orderly.finished finished] at active
  have howed : ((create server settings false).acts signals).foldl Act.leaves [] =
      ((create server settings false).run signals).1.due :=
    owed_acts (orderly_create server settings false) signals active
  have hwinds := struck.winds unfinished
  rw [← howed, ← List.foldl_append] at hwinds
  obtain ⟨hfinal, orderly, cancelled⟩ := hwinds.run struck.orderly struck.cancelled later
  exact hfinal.prompt orderly cancelled (Act.length_owed_le _)

end Strike

end Channel

namespace Sample

/-- The channel asks for the players first. -/
theorem run_first : ((Channel.create host policy false).run [.start, .opened]).1 =
    connected first := by
  obtain ⟨uri, hstart⟩ := step_start
  simp only [Channel.run, hstart]
  rfl

/-- It writes down who plays and publishes that before it asks for the bans. -/
theorem script_nobody : (connected first).script nobody =
    .act (.perform (.write (.players []))) (.act (.perform (.publish (.players [])))
      ((connected first).posing ⟨2, [], ⟨10⟩⟩ .seedBans)) := by
  simp [Channel.script, nobody, connected, first, Channel.hearing, Connection.await,
    Connection.read, decode_nobody, Channel.concluding, report?_seedPlayers, Channel.goingOn]

end Sample

namespace Channel

/-- A channel that is cancelled between writing down who plays and publishing that asks once more,
and is told. -/
theorem prompt_after_cancel_sample :
    let before := ((create Sample.host Sample.policy false).run [.start, .opened]).1
    let log := (create Sample.host Sample.policy false).acts [.start, .opened]
    let written := .perform (.write (.players []))
    let rest := [.perform (.publish (.players [])),
      .perform (.send (Errand.seedBans.request 2))]
    let next := { Sample.connected Sample.second with cancelled := true }
    before.cancelled = false ∧ before.Struck [written] rest next ∧
      (next.run [Sample.spotless]).1.Prompt (Act.owed (log ++ [written]))
        (rest ++ next.acts [Sample.spotless]) := by
  intro before log written rest next
  have hbefore : before = Sample.connected Sample.first := Sample.run_first
  have active : before.cancelled = false := by rw [hbefore]; rfl
  have struck : before.Struck [written] rest next := by
    rw [hbefore]
    have heard : Sample.nobody ≠ .cancel := by simp [Sample.nobody]
    have reached : ((Sample.connected Sample.first).script Sample.nobody).Reaches [written]
        (.act (.perform (.publish (.players [])))
          ((Sample.connected Sample.first).posing ⟨2, [], ⟨10⟩⟩ .seedBans)) := by
      rw [Sample.script_nobody]
      exact .act (.here _)
    exact .amid heard reached
  exact ⟨active, struck, prompt_after_cancel Sample.host Sample.policy [.start, .opened]
    [Sample.spotless] active struck⟩

end Channel

end Flotilla
