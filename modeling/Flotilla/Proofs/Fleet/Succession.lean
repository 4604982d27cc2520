import Flotilla.Proofs.Fleet.Deeds

/-!
# Succession

When a server that is not served is followed, a new channel begins, and there may be channels of
the same server from earlier times. Each of them is cancelled by then, or whoever took it off the
list is about to cancel it. But not all are finished: one that awaits an answer is still told, and
what it is told it still writes down and publishes, over whatever the new channel has found out. So
an entry may have two writers for a while. `Harbour.told_after_succession` says how much an earlier
channel can still tell once it is cancelled: nothing unless a question of it is under way, and else
the answer to that question, and to one more if its session had only just begun.
-/

namespace Flotilla

namespace Harbour

variable {h s : Harbour} {moves : List Move} {number : Nat} {channel : Channel}

/-- A channel of a server that another channel is set up for follows no server any more. -/
theorem adrift_of_launch {server : Server} (charted : h.fleet.Charted)
    (present : h.fleet.channels.get? number = some channel)
    (same : channel.server.id = server.id) : (h.fleet.launch server).Adrift number := by
  have hlt := charted.numbered present
  refine ⟨(charted.size_launch server).symm ▸ Nat.lt_succ_of_lt hlt, fun id htracked => ?_⟩
  rw [Fleet.launch, Index.get?_insert] at htracked
  split at htracked
  next => exact Nat.ne_of_lt hlt (Option.some.inj htracked).symm
  next hother =>
    obtain ⟨mapped, hmapped, hserver, -⟩ := charted.mapped htracked
    obtain rfl := Option.some.inj (hmapped.symm.trans present)
    exact hother (hserver.symm.trans same)

/-- What the question of a channel is answered is told. -/
theorem exists_telling {connection : Connection} {awaiting : Connection.Awaiting} {errand : Errand}
    {signal : Signal} {report : Report} (present : h.fleet.channels.get? number = some channel)
    (asking : channel.activity = .asking connection awaiting errand)
    (idle : h.bulletins.get? number = none) (answers : signal.Answers errand awaiting.id report) :
    ∃ next, Run h [.happen number signal, .publish number, .proceed number] next ∧
      next.told number = h.told number ++ Effect.telling [report] := by
  have tells := Fleet.report?_of_answers present asking answers
  refine ⟨h.signal number signal, run_report answers.uncancelled idle tells, ?_⟩
  have htold := (channel.steps_step signal).tells_of_answers asking answers
  simp [told, done, Harbour.signal, under_reaction, Fleet.signal_fst present, htold]

/-- What is left of a channel whose server has another channel now. -/
structure Superseded (h : Harbour) (number : Nat) (channel : Channel) : Prop where
  unfollowed : ∀ id, h.fleet.tracked.get? id ≠ some number
  /-- It is cancelled, unless whoever took its server off the list, or stopped the fleet, has still
  to cancel it. -/
  cancelled : channel.cancelled = true ∨ number ∈ h.leaving ∨ h.fleet.stopped = true
  /-- Once it is cancelled, it publishes the report that it has in hand and tells at most as many
  reports as it has questions left. -/
  bounded : channel.cancelled = true → ∀ moves next, Run h moves next → ∃ reports,
    next.told number ++ next.due number =
      h.told number ++ h.due number ++ Effect.telling reports ∧
    reports.length ≤ h.questions number
  /-- But what the question that is under way is answered it does tell. -/
  answered : ∀ connection awaiting errand signal report,
    channel.activity = .asking connection awaiting errand → h.bulletins.get? number = none →
      signal.Answers errand awaiting.id report →
        ∃ next, Run h [.happen number signal, .publish number, .proceed number] next ∧
          next.told number = h.told number ++ Effect.telling [report]

theorem Sound.superseded (sound : h.Sound) (adrift : h.fleet.Adrift number)
    (present : h.fleet.channels.get? number = some channel) : h.Superseded number channel where
  unfollowed := adrift.2
  cancelled := sound.cancelled_of_adrift adrift present
  bounded := by
    intro cancelled moves next run
    obtain ⟨_, -, -, reports, htold, hle⟩ := run.retired sound present cancelled
    exact ⟨reports, htold, by omega⟩
  answered := by
    intro connection awaiting errand signal report asking idle answers
    exact exists_telling present asking idle answers

/-- Once a channel has been set up for a server, each earlier channel of this server is superseded,
whatever callers do and whatever happens. -/
theorem told_after_succession {settings : ChannelSettings} {server : Server}
    (run : Run (start settings) moves s) (entering : s.entering = some server)
    (earlier : s.fleet.channels.get? number = some channel)
    (same : channel.server.id = server.id) :
    ∀ more t, Run s (.launch :: more) t →
      ∃ now, t.fleet.channels.get? number = some now ∧ t.Superseded number now := by
  intro more t later
  have sound := run.sound (sound_start settings)
  have reached := later.sound sound
  obtain ⟨now, hnow, -⟩ := Fleet.serverOf?_eq_some.mp
    (later.serverOf? sound (Fleet.serverOf?_eq_some.mpr ⟨channel, earlier, rfl⟩))
  -- the new channel takes the place of the earlier one in the list, if that still stood there
  have adrift : t.fleet.Adrift number := by
    cases later with
    | cons stepped rest =>
        have hsound := sound.step (steps_of_step stepped)
        cases steps_of_step stepped with
        | launch hentering =>
            obtain rfl := Option.some.inj (hentering.symm.trans entering)
            exact Run.adrift rest hsound (adrift_of_launch sound.charted earlier same)
  exact ⟨now, hnow, reached.superseded adrift hnow⟩

end Harbour

namespace Sample

/-- A channel whose server is not followed any more, while its first question is under way. -/
def retired : Channel := { connected first with cancelled := true }

/-- A harbour with one channel, which has no report in hand. -/
def harbour (channel : Channel) (tracked : Index ServerId Nat) (leaving : List Nat)
    (answers : List Answer) (log : List (Nat × Effect)) : Harbour :=
  ⟨⟨policy, .empty, Index.empty.insert 0 channel, tracked, false⟩, none, leaving, none, .empty,
    answers, log⟩

section

variable (channel : Channel) (tracked : Index ServerId Nat) (leaving : List Nat)
  (answers : List Answer) (log : List (Nat × Effect)) (signal : Signal)

theorem signal_harbour : (harbour channel tracked leaving answers log).fleet.signal 0 signal =
    ((channel.step signal).2,
      { (harbour (channel.step signal).1 tracked leaving answers log).fleet with
        store := (channel.step signal).2.foldl (Fleet.record channel.server.id) .empty }) := rfl

theorem report?_harbour : (harbour channel tracked leaving answers log).fleet.report? 0 signal =
    (channel.report? signal).map fun report => (channel.server.id, report) := rfl

end

/-- The server is followed, and its channel connects and asks who plays. -/
theorem run_connected : ∃ log, Harbour.Run (.start policy)
    [.hail host, .launch, .happen 0 .start, .happen 0 .opened]
    (harbour (connected first) (Index.empty.insert host.id 0) [] [.tracked host true] log) := by
  obtain ⟨uri, hstart⟩ := step_start
  let connecting : Channel :=
    ⟨host, policy, .start policy.backoff, false, ⟨.connecting, 0, ⟨1⟩⟩, .connecting⟩
  let anchored (channel : Channel) (log : List (Nat × Effect)) : Harbour :=
    harbour channel (Index.empty.insert host.id 0) [] [.tracked host true] log
  have launched : Harbour.Run (.start policy) [.hail host, .launch]
      (anchored (.create host policy false) []) :=
    .cons rfl (.cons rfl (.nil _))
  have started : Harbour.step (.happen 0 .start) (anchored (.create host policy false) []) =
      some (anchored connecting
        [(0, .show ⟨.connecting, 0, ⟨1⟩⟩), (0, .connect uri host.secret)]) := by
    rw [Harbour.step_happen (by simp)]
    simp only [anchored, report?_harbour, Channel.report?, Harbour.signal, Fleet.reaction,
      signal_harbour, hstart]
    rfl
  have opened (log : List (Nat × Effect)) : ∃ more, Harbour.step (.happen 0 .opened)
      (anchored connecting log) = some (anchored (connected first) more) := ⟨_, rfl⟩
  obtain ⟨log, hlog⟩ := opened _
  exact ⟨log, launched.append (.cons started (.cons hlog (.nil _)))⟩

/-- Then it is not followed any more, and its channel is cancelled. -/
theorem run_retired : ∃ log, Harbour.Run (.start policy)
    [.hail host, .launch, .happen 0 .start, .happen 0 .opened, .unfollow host.id, .dismiss 0]
    (harbour retired .empty [] [.tracked host true, .untracked host.id true] log) := by
  obtain ⟨log, run⟩ := run_connected
  have unfollowed : Harbour.step (.unfollow host.id)
      (harbour (connected first) (Index.empty.insert host.id 0) [] [.tracked host true] log) =
        some (harbour (connected first) .empty [0]
          [.tracked host true, .untracked host.id true] log) := rfl
  have dismissed : Harbour.step (.dismiss 0) (harbour (connected first) .empty [0]
      [.tracked host true, .untracked host.id true] log) =
        some (harbour retired .empty [] [.tracked host true, .untracked host.id true]
          (log ++ [])) := rfl
  exact ⟨_, run.append (.cons unfollowed (.cons dismissed (.nil _)))⟩

/-- It is followed anew: a second channel is set up for it. -/
theorem run_succeeded : ∃ s t, Harbour.Run (.start policy)
      [.hail host, .launch, .happen 0 .start, .happen 0 .opened, .unfollow host.id, .dismiss 0,
        .hail host] s ∧
    s.entering = some host ∧ s.fleet.channels.get? 0 = some retired ∧
    Harbour.Run s [.launch] t ∧ t.fleet.channels.get? 0 = some retired ∧
    t.bulletins.get? 0 = none := by
  obtain ⟨log, run⟩ := run_retired
  let left : Harbour := harbour retired .empty [] [.tracked host true, .untracked host.id true] log
  have hailed : Harbour.step (.hail host) left = some { left with entering := some host } := rfl
  exact ⟨_, _, run.append (.cons hailed (.nil _)), rfl, rfl, .cons rfl (.nil _), rfl, rfl⟩

end Sample

namespace Harbour

/-- The first question of a session is still answered after the server is followed anew. -/
theorem told_after_succession_sample : ∃ s t u, Run (start Sample.policy)
      [.hail Sample.host, .launch, .happen 0 .start, .happen 0 .opened, .unfollow Sample.host.id,
        .dismiss 0, .hail Sample.host] s ∧
    s.entering = some Sample.host ∧ Run s [.launch] t ∧
    Run t [.happen 0 Sample.nobody, .publish 0, .proceed 0] u ∧
    u.told 0 = t.told 0 ++ Effect.telling [.players []] := by
  obtain ⟨s, t, run, entering, earlier, launched, present, idle⟩ := Sample.run_succeeded
  obtain ⟨now, hnow, superseded⟩ := told_after_succession run entering earlier rfl [] t launched
  obtain rfl := Option.some.inj (hnow.symm.trans present)
  obtain ⟨u, later, htold⟩ := superseded.answered _ _ _ Sample.nobody (.players []) rfl idle
    Sample.answers_nobody
  exact ⟨s, t, u, run, entering, launched, later, htold⟩

/-- An earlier channel may tell something although another channel has been set up for its server:
its question is under way when it is cancelled, and the answer comes after the new channel. -/
theorem not_always_single_writer :
    ¬ ∀ (settings : ChannelSettings) (moves more : List Move) (s t u : Harbour) (server : Server)
      (number : Nat) (channel : Channel), Run (start settings) moves s →
        s.entering = some server → s.fleet.channels.get? number = some channel →
          channel.server.id = server.id → Run s [.launch] t → Run t more u →
            u.told number = t.told number := by
  intro single
  obtain ⟨s, t, run, entering, earlier, launched, present, idle⟩ := Sample.run_succeeded
  obtain ⟨u, later, htold⟩ := exists_telling present rfl idle Sample.answers_nobody
  have hsame := single Sample.policy _ _ s t u Sample.host 0 Sample.retired run entering earlier rfl
    launched later
  rw [hsame] at htold
  simp [told, done, Effect.telling] at htold

end Harbour

end Flotilla
