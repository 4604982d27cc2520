import Flotilla.Proofs.Channel.Telling

/-!
# What a channel does, bit by bit

A step of a channel is not made in one go. It may be cancelled between any two things that it does
about a signal, and learns of that only where it looks. `Channel.script` lists what it does about a
signal with the places where it looks. There are three of them: while it tries to connect, while it
listens and before it rests. At each of them the channel chooses between its end and something else,
and this choice is made in one go: a channel that looks and is not cancelled takes up at once what
it has been waiting for, or what it wants to wait for.

A script says more than the step it belongs to. It tells when a session begins, and which
announcements the channel takes off the connection. `plays_script` says that apart from these it is
the step, if the channel is cancelled before the signal or not at all.
-/

namespace Flotilla

/-- One thing that a channel does by itself. -/
inductive Act where
  | perform (effect : Effect)
  /-- A session begins, as the attempt to connect has succeeded. -/
  | begin
  /-- An announcement is taken off the connection. -/
  | take (notification : Notification)

namespace Act

/-- What can be seen of an act. -/
def effect? : Act → Option Effect
  | .perform effect => some effect
  | .begin | .take _ => none

end Act

/-- What a channel has left to do about a signal. -/
inductive Script where
  /-- There is nothing left to do. -/
  | done (c : Channel)
  | act (first : Act) (rest : Script)
  /-- The channel looks whether it is cancelled. If it is not, it does `acts` at once. -/
  | look (stopped : Script) (acts : List Act) (active : Script)

namespace Script

/-- What a script comes to if the channel finds that it is cancelled, or that it is not, wherever
it looks. -/
def play (cancelled : Bool) : Script → Channel × List Act
  | .done c => (c, [])
  | .act first rest => ((rest.play cancelled).1, first :: (rest.play cancelled).2)
  | .look stopped acts active =>
    if cancelled then stopped.play cancelled
    else ((active.play cancelled).1, acts ++ (active.play cancelled).2)

/-- What a channel that is not cancelled has done of a script, and what is left of it. -/
inductive Reaches : Script → List Act → Script → Prop where
  | here (script) : Reaches script [] script
  | act {first rest before left} (h : Reaches rest before left) :
      Reaches (.act first rest) (first :: before) left
  | look {stopped acts active before left} (h : Reaches active before left) :
      Reaches (.look stopped acts active) (acts ++ before) left

/-- Some effects one after the other. -/
def performing : List Effect → Channel → Script
  | [], c => .done c
  | effect :: rest, c => .act (.perform effect) (performing rest c)

end Script

namespace Channel

/-- The channel comes to its end. -/
def finishing (c : Channel) : Script :=
  .act (.perform (.show (c.statusIn .disconnected))) (.done c.finish.1)

/-- The attempt or the session has failed. The channel looks before it rests. -/
def failing (c : Channel) : Script :=
  let c := { c with reconnect := c.reconnect.fail c.settings.backoff }
  let resting := (c.enter .disconnected .resting).1
  .act (.perform (.show (c.statusIn .disconnected)))
    (.look resting.finishing [.perform (.sleep c.reconnect.backoff)] (.done resting))

/-- The channel tries to connect. It looks before the attempt begins. -/
def attempting (c : Channel) : Script :=
  let connecting := (c.enter .connecting .connecting).1
  .act (.perform (.show (c.statusIn .connecting)))
    (match Endpoint.resolve c.endpoint c.server.secret with
    | .ok uri =>
      .look connecting.finishing [.perform (.connect uri c.server.secret)] (.done connecting)
    | .error _ => .look connecting.finishing [] connecting.failing)

/-- The channel asks the server for something. -/
def posing (c : Channel) (connection : Connection) (errand : Errand) : Script :=
  .act (.perform (.send (errand.request connection.nextId))) (.done (c.ask connection errand).1)

/-- The channel goes through the announcements that are waiting. It looks before each of them. -/
def listeningTo (c : Channel) (connection : Connection) : List Notification → Script
  | [] =>
    .look c.finishing [] (.done { c with activity := .listening { connection with pending := [] } })
  | notification :: rest =>
    .look c.finishing [.take notification]
      (match Errand.ofNotification? notification with
      | some errand => c.posing { connection with pending := rest } errand
      | none => c.listeningTo connection rest)

/-- The channel listens for announcements. -/
def listening (c : Channel) (connection : Connection) : Script :=
  c.listeningTo connection connection.pending

/-- The channel goes on after an errand. -/
def goingOn (c : Channel) (connection : Connection) : Errand → Script
  | .seedPlayers => c.posing connection .seedBans
  | .seedBans | .players | .bans => c.listening connection

/-- The channel deals with the answer to a question. -/
def concluding (c : Channel) (connection : Connection) (errand : Errand) :
    Except ConnectionError Json → Script
  | .ok result =>
    match errand.report? result with
    | some report =>
      .act (.perform (.write report))
        (.act (.perform (.publish report)) (c.goingOn connection errand))
    | none => c.failing
  | .error (.remote _ _) =>
    if errand = .seedBans then c.listening connection else c.failing
  | .error _ => c.failing

/-- Something arrives while a question is under way. The channel does not look. -/
def hearing (c : Channel) (connection : Connection) (awaiting : Connection.Awaiting)
    (errand : Errand) (arrival : Arrival) : Script :=
  match connection.await awaiting arrival with
  | (some outcome, connection) => c.concluding connection errand outcome
  | (none, connection) => .done { c with activity := .asking connection awaiting errand }

/-- Something arrives while the channel listens. -/
def noticing (c : Channel) (connection : Connection) (arrival : Arrival) : Script :=
  match connection.listen arrival with
  | some (.ok notification) => c.listening { connection with pending := [notification] }
  | some (.error _) => .look c.finishing [] c.failing
  | none => .done c

/-- The attempt to connect has succeeded. -/
def beginning (c : Channel) : Script :=
  let opened := { c with reconnect := Reconnect.start c.settings.backoff }
  .look c.finishing [.begin]
    (.act (.perform (.show (opened.statusIn .connected)))
      ((opened.enter .connected .connecting).1.posing (.opened c.settings.timeout) .seedPlayers))

/-- What a channel does about a signal. -/
def script (c : Channel) (signal : Signal) : Script :=
  match signal, c.activity with
  | .cancel, _ => .performing c.cancel.2 c.cancel.1
  | .start, .starting => c.attempting
  | .opened, .connecting => c.beginning
  | .refused, .connecting => .look c.finishing [] c.failing
  | .alarm, .connecting => .look c.finishing [] c.failing
  | .alarm, .resting => .look c.finishing [] c.attempting
  | .alarm, .asking connection awaiting errand => c.hearing connection awaiting errand .deadline
  | .arrival arrival, .asking connection awaiting errand =>
    c.hearing connection awaiting errand arrival
  | .arrival arrival, .listening connection => c.noticing connection arrival
  | _, _ => .done c

/-- All that a channel does about a sequence of signals. -/
def acts (c : Channel) : List Signal → List Act
  | [] => []
  | signal :: rest => ((c.script signal).play c.cancelled).2 ++ (c.step signal).1.acts rest

end Channel

namespace Script

/-- Whether a script comes to this, as far as it can be seen. -/
def Plays (script : Script) (cancelled : Bool) (outcome : Channel × List Effect) : Prop :=
  (script.play cancelled).1 = outcome.1 ∧
    (script.play cancelled).2.filterMap Act.effect? = outcome.2

variable {script stopped active : Script} {cancelled : Bool} {outcome : Channel × List Effect}
  {effect : Effect} {acts : List Act}

theorem plays_done (c : Channel) : (Script.done c).Plays cancelled (c, []) := ⟨rfl, rfl⟩

theorem Plays.perform (h : script.Plays cancelled outcome) :
    (Script.act (.perform effect) script).Plays cancelled (Channel.after [effect] outcome) := by
  refine ⟨h.1, ?_⟩
  simp [play, Act.effect?, Channel.after, h.2]

theorem play_performing (effects : List Effect) (c : Channel) (cancelled : Bool) :
    (performing effects c).play cancelled = (c, effects.map .perform) := by
  induction effects with
  | nil => rfl
  | cons effect rest ih => simp [performing, play, ih]

theorem plays_performing (effects : List Effect) (c : Channel) :
    (performing effects c).Plays cancelled (c, effects) := by
  have hseen : (effects.map Act.perform).filterMap Act.effect? = effects := by
    simp [List.filterMap_map, Function.comp_def, Act.effect?]
  exact ⟨by rw [play_performing], by rw [play_performing, hseen]⟩

theorem Plays.stop (h : stopped.Plays true outcome) :
    (Script.look stopped acts active).Plays true outcome := by
  simpa [Plays, play] using h

theorem Plays.look (h : active.Plays false outcome) :
    (Script.look stopped acts active).Plays false
      (Channel.after (acts.filterMap Act.effect?) outcome) := by
  simpa [Plays, play, Channel.after] using h

end Script

namespace Channel

open Script (Plays)

variable {c : Channel} {signal : Signal}

theorem plays_finishing (c : Channel) (cancelled : Bool) : c.finishing.Plays cancelled c.finish :=
  (Script.plays_done c.finish.1).perform

theorem plays_failing (c : Channel) : c.failing.Plays c.cancelled c.fail := by
  obtain ⟨server, settings, reconnect, cancelled, status, activity⟩ := c
  cases cancelled <;> exact ⟨rfl, rfl⟩

theorem plays_attempting (c : Channel) : c.attempting.Plays c.cancelled c.attempt := by
  obtain ⟨server, settings, reconnect, cancelled, status, activity⟩ := c
  unfold attempting attempt enter endpoint
  dsimp only
  generalize Endpoint.resolve _ server.secret = resolved
  cases resolved <;> cases cancelled <;> exact ⟨rfl, rfl⟩

theorem plays_posing (c : Channel) (connection : Connection) (errand : Errand) :
    (c.posing connection errand).Plays c.cancelled (c.ask connection errand) := ⟨rfl, rfl⟩

theorem plays_listeningTo (c : Channel) (connection : Connection) (waiting : List Notification) :
    (c.listeningTo connection waiting).Plays c.cancelled (c.listenTo connection waiting) := by
  induction waiting with
  | nil =>
      cases hcancelled : c.cancelled with
      | true => simpa [listeningTo, listenTo, hcancelled] using (plays_finishing c true).stop
      | false =>
          simp only [listeningTo, listenTo, hcancelled, Bool.false_eq_true, if_false]
          exact (Script.plays_done _).look
  | cons notification rest ih =>
      cases hcancelled : c.cancelled with
      | true => simpa [listeningTo, listenTo, hcancelled] using (plays_finishing c true).stop
      | false =>
          rw [hcancelled] at ih
          simp only [listeningTo, listenTo, hcancelled, Bool.false_eq_true, if_false]
          cases Errand.ofNotification? notification with
          | none => exact ih.look
          | some errand =>
              exact (hcancelled ▸ plays_posing c { connection with pending := rest } errand).look

theorem plays_goingOn (c : Channel) (connection : Connection) (errand : Errand) :
    (c.goingOn connection errand).Plays c.cancelled (c.goOn connection errand) := by
  cases errand with
  | seedPlayers => exact plays_posing c connection .seedBans
  | seedBans | players | bans => exact plays_listeningTo c connection connection.pending

theorem plays_concluding (c : Channel) (connection : Connection) (errand : Errand)
    (outcome : Except ConnectionError Json) :
    (c.concluding connection errand outcome).Plays c.cancelled
      (c.conclude connection errand outcome) := by
  cases outcome with
  | ok result =>
      simp only [concluding, conclude]
      cases errand.report? result with
      | none => exact plays_failing c
      | some report => exact (plays_goingOn c connection errand).perform.perform
  | error error =>
      cases error with
      | remote method error =>
          simp only [concluding, conclude]
          split
          next => exact plays_listeningTo c connection connection.pending
          next => exact plays_failing c
      | _ => exact plays_failing c

theorem plays_hearing (c : Channel) (connection : Connection) (awaiting : Connection.Awaiting)
    (errand : Errand) (arrival : Arrival) :
    (c.hearing connection awaiting errand arrival).Plays c.cancelled
      (c.hear connection awaiting errand arrival) := by
  unfold hearing hear
  obtain ⟨outcome, kept⟩ := connection.await awaiting arrival
  cases outcome with
  | none => exact Script.plays_done _
  | some outcome => exact plays_concluding c kept errand outcome

/-- Where a channel looks before it goes on, it is not cancelled unless it has been struck. -/
theorem plays_look_of_active {active : Script} {outcome : Channel × List Effect}
    (uncancelled : c.cancelled = false) (goes : active.Plays c.cancelled outcome) :
    (Script.look c.finishing [] active).Plays c.cancelled outcome := by
  rw [uncancelled] at goes ⊢
  exact goes.look

theorem plays_noticing (uncancelled : c.cancelled = false) (connection : Connection)
    (arrival : Arrival) :
    (c.noticing connection arrival).Plays c.cancelled (c.notice connection arrival) := by
  unfold noticing notice
  cases connection.listen arrival with
  | none => exact Script.plays_done c
  | some heard =>
      cases heard with
      | ok notification => exact plays_listeningTo c _ _
      | error => exact plays_look_of_active uncancelled (plays_failing c)

theorem plays_beginning (uncancelled : c.cancelled = false) :
    c.beginning.Plays c.cancelled c.begin := by
  rw [uncancelled]
  exact ⟨rfl, rfl⟩

/-- A channel that waits for a signal in one of these ways is not cancelled. -/
theorem Orderly.active (h : c.Orderly)
    (idle : c.activity = .connecting ∨ (∃ connection, c.activity = .listening connection) ∨
      c.activity = .resting) : c.cancelled = false := by
  cases hcancelled : c.cancelled with
  | false => rfl
  | true =>
      have busy := h.busy hcancelled
      obtain idle | ⟨connection, idle⟩ | idle := idle <;> simp [idle] at busy

/-- The script of a signal is the step that the channel makes about it, if the channel is cancelled
before it or not at all. -/
theorem plays_script (orderly : c.Orderly) (signal : Signal) :
    (c.script signal).Plays c.cancelled (c.step signal) := by
  have ignored : (Script.done c).Plays c.cancelled (c, []) := Script.plays_done c
  cases signal with
  | cancel => simpa [script, step] using Script.plays_performing c.cancel.2 c.cancel.1
  | start =>
      cases hactivity : c.activity with
      | starting => simpa [script, step, hactivity] using plays_attempting c
      | _ => simpa [script, step, hactivity] using ignored
  | opened =>
      cases hactivity : c.activity with
      | connecting =>
          simpa [script, step, hactivity] using plays_beginning (orderly.active (.inl hactivity))
      | _ => simpa [script, step, hactivity] using ignored
  | refused =>
      cases hactivity : c.activity with
      | connecting =>
          have uncancelled := orderly.active (.inl hactivity)
          simpa [script, step, hactivity] using plays_look_of_active uncancelled (plays_failing c)
      | _ => simpa [script, step, hactivity] using ignored
  | alarm =>
      cases hactivity : c.activity with
      | connecting =>
          have uncancelled := orderly.active (.inl hactivity)
          simpa [script, step, hactivity] using plays_look_of_active uncancelled (plays_failing c)
      | resting =>
          have uncancelled := orderly.active (.inr (.inr hactivity))
          simpa [script, step, hactivity] using
            plays_look_of_active uncancelled (plays_attempting c)
      | asking connection awaiting errand =>
          simpa [script, step, hactivity] using
            plays_hearing c connection awaiting errand .deadline
      | _ => simpa [script, step, hactivity] using ignored
  | arrival arrival =>
      cases hactivity : c.activity with
      | asking connection awaiting errand =>
          simpa [script, step, hactivity] using plays_hearing c connection awaiting errand arrival
      | listening connection =>
          have uncancelled := orderly.active (.inr (.inl ⟨connection, hactivity⟩))
          simpa [script, step, hactivity] using plays_noticing uncancelled connection arrival
      | _ => simpa [script, step, hactivity] using ignored

theorem Orderly.run (h : c.Orderly) (signals : List Signal) : (c.run signals).1.Orderly := by
  induction signals generalizing c with
  | nil => exact h
  | cons signal rest ih => exact ih (h.step (steps_step c signal))

/-- What can be seen of all that a channel does are the effects of its steps. -/
theorem effects_acts (h : c.Orderly) (signals : List Signal) :
    (c.acts signals).filterMap Act.effect? = (c.run signals).2 := by
  induction signals generalizing c with
  | nil => rfl
  | cons signal rest ih =>
      have first := (plays_script h signal).2
      have others := ih (h.step (steps_step c signal))
      simp only [acts, List.filterMap_append, first, others]
      rfl

end Channel

end Flotilla
