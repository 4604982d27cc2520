import Flotilla.Proofs.Fleet.Succession

/-!
# Invalidation

What is known of a server outlives its channel, until it is invalidated. It can come back
afterwards although the server is not followed any more: a channel that awaited an answer when it
was cancelled still writes down what it is told. Nothing else brings it back.
`Harbour.forgotten_iff_unwritten` says so of every run: after the last invalidation nothing is known
of a server exactly as long as no channel of it writes anything down, and how much a channel can
still write down once it is cancelled is bounded by the questions that it has left. The channel that
was taken off the list before is cancelled by then; one that another caller has taken off may not be
yet.
-/

namespace Flotilla

namespace Harbour

variable {h next s t u : Harbour} {move : Move} {moves : List Move} {id : ServerId} {number : Nat}

theorem written_of_log {more : List (Nat × Effect)} (hlog : next.log = h.log ++ more)
    (unwritten : ∀ entry ∈ more, entry.2.written? = none) (number : Nat) :
    next.written number = h.written number := by
  have hnone : (under number more).filterMap Effect.written? = [] := by
    refine List.filterMap_eq_nil_iff.mpr fun effect hmem => ?_
    obtain ⟨entry, hentry, hsome⟩ := List.mem_filterMap.mp hmem
    split at hsome
    next => exact Option.some.inj hsome ▸ unwritten entry hentry
    next => simp at hsome
  rw [written, done, hlog, under_append, List.filterMap_append, hnone, List.append_nil]
  rfl

/-- Up to a state, the channels of a server have written nothing down since an earlier one. -/
def Unwritten (h next : Harbour) (id : ServerId) : Prop :=
  ∀ number, next.fleet.serverOf? number = some id → next.written number = h.written number

/-- What a move means to what is known of a server that is not invalidated: whoever writes something
down is the channel of another server, or a channel of this one makes it known. -/
inductive Tidings (h next : Harbour) (id : ServerId) : Prop where
  | quiet (kept : next.fleet.store.snapshot id = h.fleet.store.snapshot id)
      (others : ∀ {number}, next.written number ≠ h.written number →
        ∃ other, h.fleet.serverOf? number = some other ∧ other ≠ id) : Tidings h next id
  | report {number report} (own : h.fleet.serverOf? number = some id)
      (written : next.written number = h.written number ++ [report])
      (known : next.fleet.store.snapshot id ≠ none) : Tidings h next id

theorem Tidings.of_log {more : List (Nat × Effect)}
    (kept : next.fleet.store.snapshot id = h.fleet.store.snapshot id)
    (hlog : next.log = h.log ++ more) (unwritten : ∀ entry ∈ more, entry.2.written? = none) :
    Tidings h next id :=
  .quiet kept fun changed => absurd (written_of_log hlog unwritten _) changed

theorem Tidings.of_silent {more : List (Nat × Effect)}
    (kept : next.fleet.store.snapshot id = h.fleet.store.snapshot id)
    (hlog : next.log = h.log ++ more) (silent : ∀ entry ∈ more, entry.2.tells = false) :
    Tidings h next id :=
  .of_log kept hlog fun entry hentry => Effect.written?_of_silent (silent entry hentry)

theorem silent_reaction {fleet : Fleet} {signal : Signal}
    (silent : ∀ effect ∈ (fleet.signal number signal).1, effect.tells = false) :
    ∀ entry ∈ fleet.reaction number signal, entry.2.tells = false := by
  intro entry hentry
  obtain ⟨effect, hmem, rfl⟩ := List.mem_map.mp hentry
  exact silent effect hmem

theorem tidings_write {other : Nat} {server : ServerId} {signal : Signal} {report : Report}
    (tells : h.fleet.report? other signal = some (server, report)) :
    Tidings h (h.write other server signal report) id := by
  obtain ⟨channel, present, hserver, -⟩ := Fleet.report?_eq_some.mp tells
  have hother : h.fleet.serverOf? other = some server :=
    Fleet.serverOf?_eq_some.mpr ⟨channel, present, hserver⟩
  have hwritten (number : Nat) : (h.write other server signal report).written number =
      h.written number ++ if other = number then [report] else [] := by
    simp only [written, done, Harbour.write, under_append, under_singleton, List.filterMap_append]
    split <;> rfl
  by_cases same : server = id
  · subst same
    exact .report hother ((hwritten other).trans (by rw [if_pos rfl]))
      (report.snapshot_write_ne_none _ _)
  · refine .quiet (report.snapshot_write_of_ne _ same) fun {number} changed => ?_
    have heq : other = number := by
      by_contra hne
      exact changed ((hwritten number).trans (by rw [if_neg hne, List.append_nil]))
    exact ⟨server, heq ▸ hother, same⟩

theorem Steps.tidings (steps : h.Steps move next) (uninvalidated : move ≠ .invalidate id) :
    Tidings h next id := by
  cases steps with
  | dismiss | reach =>
      exact .of_silent (by simp [Harbour.signal]) rfl (silent_reaction (h.fleet.silent_cancel _))
  | happen uncancelled idle silent =>
      have heffects := Fleet.silent_of_report?_eq_none silent
      exact .of_silent (congrArg (·.snapshot id) (Fleet.store_of_silent heffects)) rfl
        (silent_reaction heffects)
  | write idle tells => exact tidings_write tells
  | publish => exact .of_log rfl rfl (by simp [Effect.written?])
  | proceed => exact .of_silent rfl rfl (h.fleet.silent_sequel _ _)
  | invalidate other =>
      have hne : id ≠ other := fun heq => uninvalidated (heq ▸ rfl)
      exact .of_silent (by simp [tell, hne]) (List.append_nil _).symm (by simp)
  | _ => exact .of_silent rfl (List.append_nil _).symm (by simp)

/-- What is not known stays so exactly as long as nothing is written down. -/
theorem Run.forgotten_iff (run : Run h moves next) (sound : h.Sound)
    (uninvalidated : .invalidate id ∉ moves) : next.fleet.store.snapshot id = none ↔
      h.fleet.store.snapshot id = none ∧ Unwritten h next id := by
  induction run with
  | nil => simp [Unwritten]
  | @cons h move between moves next stepped rest ih =>
      have hsteps := steps_of_step stepped
      have hbetween := sound.step hsteps
      obtain ⟨hmove, hmoves⟩ := not_or.mp (List.mem_cons.not.mp uninvalidated)
      rw [ih hbetween hmoves]
      cases hsteps.tidings (Ne.symm hmove) with
      | quiet kept others =>
          rw [kept]
          refine and_congr_right fun _ => forall₂_congr fun number own => ?_
          have hsame : between.written number = h.written number := by
            by_contra changed
            obtain ⟨other, hother, hne⟩ := others changed
            have hlater := Run.serverOf? rest hbetween (hsteps.serverOf? sound hother)
            exact hne (Option.some.inj (hlater.symm.trans own))
          rw [hsame]
      | @report number report own written known =>
          refine iff_of_false (fun forgotten => known forgotten.1) fun forgotten => ?_
          -- what has been written down in between is not taken back
          have hown := Run.serverOf? rest hbetween (hsteps.serverOf? sound own)
          have hkept := ((Run.grows rest hbetween number).filterMap Effect.written?).length_le
          have hlength := congrArg List.length (forgotten.2 number hown)
          have hgrown := congrArg List.length written
          simp only [Harbour.written, List.length_append, List.length_singleton] at hlength hgrown
          omega

/-- Nobody follows a server, and nobody is about to. -/
structure Away (h : Harbour) (id : ServerId) : Prop where
  untracked : h.fleet.tracked.get? id = none
  unexpected : ∀ server ∈ h.entering, server.id ≠ id

theorem Steps.away (steps : h.Steps move next) (away : h.Away id)
    (apart : ∀ server, server.id = id → move ≠ .hail server) : next.Away id := by
  cases steps with
  | @enter server =>
      refine ⟨away.untracked, fun other hother => ?_⟩
      obtain rfl := Option.some.inj hother
      exact fun heq => apart server heq rfl
  | @launch server entering =>
      have hne : id ≠ server.id := Ne.symm (away.unexpected server entering)
      exact ⟨by simpa [tell, Fleet.launch, hne] using away.untracked, by simp [tell]⟩
  | unfollow free =>
      exact ⟨by simp [tell, Fleet.unfollow, away.untracked], by simp [tell, free]⟩
  | dismiss | reach | happen | proceed =>
      exact ⟨by simpa [Harbour.signal, Harbour.proceed, Fleet.proceed] using away.untracked,
        away.unexpected⟩
  | drain => exact ⟨rfl, away.unexpected⟩
  | _ => exact ⟨away.untracked, away.unexpected⟩

/-- A server that nobody is about to follow gets no channel. -/
theorem Steps.serverOf?_of_away (steps : h.Steps move next) (sound : h.Sound) (away : h.Away id)
    (own : next.fleet.serverOf? number = some id) : h.fleet.serverOf? number = some id := by
  obtain ⟨after, hafter, hserver⟩ := Fleet.serverOf?_eq_some.mp own
  cases hchannel : h.fleet.channels.get? number with
  | some channel =>
      obtain ⟨same, _, hsame, -, haffects⟩ := steps.affects sound hchannel
      obtain rfl := Option.some.inj (hsame.symm.trans hafter)
      exact Fleet.serverOf?_eq_some.mpr ⟨channel, hchannel, haffects.server ▸ hserver⟩
  | none =>
      rcases (steps.births sound hchannel).2 with hnone | ⟨server, hentering, hborn⟩
      · simp [hafter] at hnone
      · obtain rfl := Option.some.inj (hborn.symm.trans hafter)
        exact absurd hserver (away.unexpected server hentering)

theorem Run.away (run : Run h moves next) (away : h.Away id)
    (apart : ∀ server, server.id = id → .hail server ∉ moves) : next.Away id :=
  run.invariant (P := fun h => h.Away id) (fun _ hmem _ _ away stepped =>
    (steps_of_step stepped).away away fun server heq hmove => apart server heq (hmove ▸ hmem)) away

theorem Run.serverOf?_of_away (run : Run h moves next) (sound : h.Sound) (away : h.Away id)
    (apart : ∀ server, server.id = id → .hail server ∉ moves)
    (own : next.fleet.serverOf? number = some id) : h.fleet.serverOf? number = some id := by
  induction run with
  | nil => exact own
  | cons stepped _ ih =>
      have hsteps := steps_of_step stepped
      have hfirst := hsteps.away away fun server heq hmove => apart server heq (hmove ▸ .head _)
      have hrest := fun server heq hmem => apart server heq (List.mem_cons_of_mem _ hmem)
      exact hsteps.serverOf?_of_away sound away (ih (sound.step hsteps) hfirst hrest own)

theorem Steps.cancelled_of_dismiss {channel : Channel} (steps : h.Steps (.dismiss number) next)
    (present : h.fleet.channels.get? number = some channel) :
    ∃ after, next.fleet.channels.get? number = some after ∧ after.cancelled = true := by
  cases steps with
  | dismiss =>
      exact ⟨_, by simp [Harbour.signal, Fleet.get?_signal, present], channel.cancelled_cancel⟩

/-- Whoever cancels a channel has it cancelled for good. -/
theorem Run.cancelled_of_dismiss {channel : Channel} (run : Run h moves next) (sound : h.Sound)
    (present : h.fleet.channels.get? number = some channel) (dismissed : .dismiss number ∈ moves) :
    ∃ after, next.fleet.channels.get? number = some after ∧ after.cancelled = true := by
  induction run generalizing channel with
  | nil => simp at dismissed
  | cons stepped rest ih =>
      have hsteps := steps_of_step stepped
      have hsound := sound.step hsteps
      rcases List.mem_cons.mp dismissed with heq | hmem
      · subst heq
        obtain ⟨between, hbetween, hcancelled⟩ := hsteps.cancelled_of_dismiss present
        obtain ⟨after, hafter, hlater, -⟩ := Run.retired rest hsound hbetween hcancelled
        exact ⟨after, hafter, hlater⟩
      · obtain ⟨between, _, hbetween, -⟩ := hsteps.affects sound present
        exact ih hsound hbetween hmem

/-- What is answered to a channel makes its server known. -/
theorem exists_known {channel : Channel} {connection : Connection}
    {awaiting : Connection.Awaiting} {errand : Errand} {signal : Signal} {report : Report}
    (present : h.fleet.channels.get? number = some channel)
    (asking : channel.activity = .asking connection awaiting errand)
    (idle : h.bulletins.get? number = none) (answers : signal.Answers errand awaiting.id report) :
    ∃ next, step (.happen number signal) h = some next ∧
      next.fleet.store.snapshot channel.server.id ≠ none := by
  have hreport : h.fleet.report? number signal = some (channel.server.id, report) :=
    Fleet.report?_of_answers present asking answers
  refine ⟨h.write number channel.server.id signal report, ?_, ?_⟩
  · simp [step_happen answers.uncancelled, idle, hreport]
  · exact report.snapshot_write_ne_none _ _

/-- What becomes of a server that is taken off the list at `s` by a caller who has cancelled its
channel by `t`. Then the server is invalidated, for the last time until `u`. The moves are those
after the server was taken off the list, and after it was invalidated. -/
structure Aftermath (s t u : Harbour) (moves : List Move) (id : ServerId) : Prop where
  /-- Nothing is known of the server exactly as long as no channel of it writes anything down. -/
  forgotten : u.fleet.store.snapshot id = none ↔ Unwritten t u id
  /-- The channel that was taken off the list is cancelled for good. -/
  dismissed : ∀ number, s.fleet.tracked.get? id = some number →
    ∃ channel, u.fleet.channels.get? number = some channel ∧ channel.cancelled = true
  /-- So is every other channel of the server that does not follow it, unless whoever took it off
  the list, or stopped the fleet, has still to cancel it. -/
  retired : ∀ number channel, u.fleet.channels.get? number = some channel →
    channel.server.id = id → channel.cancelled = true ∨
      u.fleet.tracked.get? id = some number ∨ number ∈ u.leaving ∨ u.fleet.stopped = true
  /-- None does if nobody has wanted the server to be followed since. -/
  unfollowed : (∀ server, server.id = id → .hail server ∉ moves) →
    u.fleet.tracked.get? id = none
  /-- From the moment on at which a channel is cancelled it writes down at most as many reports as
  it has questions left. -/
  bounded : ∀ x between later number channel, Run t between x → Run x later u →
    x.fleet.channels.get? number = some channel → channel.cancelled = true →
      ∃ reports, u.written number = x.written number ++ reports ∧
        reports.length ≤ x.questions number
  /-- So nothing is known of the server for good if no question is left by `t`, and nobody has
  wanted it to be followed since. -/
  settled : (∀ server, server.id = id → .hail server ∉ moves) →
    (∀ number channel, t.fleet.channels.get? number = some channel → channel.server.id = id →
      channel.cancelled = true ∧ t.questions number = 0) → u.fleet.store.snapshot id = none
  /-- But what an open question is answered makes it known again. -/
  answered : ∀ number channel connection awaiting errand signal report,
    u.fleet.channels.get? number = some channel → channel.server.id = id →
      channel.activity = .asking connection awaiting errand → u.bulletins.get? number = none →
        signal.Answers errand awaiting.id report →
          ∃ next, step (.happen number signal) u = some next ∧
            next.fleet.store.snapshot id ≠ none

theorem away_of_unfollow (steps : s.Steps (.unfollow id) t) : t.Away id := by
  cases steps with
  | miss free absent => exact ⟨absent, by simp [tell, free]⟩
  | unfollow free => exact ⟨by simp [tell, Fleet.unfollow], by simp [tell, free]⟩

/-- What is known of a server once it has been taken off the list and invalidated, whatever else
callers do and whatever happens. -/
theorem forgotten_iff_unwritten {settings : ChannelSettings} {between later : List Move}
    (run : Run (start settings) moves s) (left : Run s (.unfollow id :: between) t)
    (returned : ∀ number, s.fleet.tracked.get? id = some number → .dismiss number ∈ between)
    (invalidated : Run t (.invalidate id :: later) u) (last : .invalidate id ∉ later) :
    s.Aftermath t u (between ++ later) id := by
  have soundS := run.sound (sound_start settings)
  have soundT := left.sound soundS
  have soundU := invalidated.sound soundT
  have away (apart : ∀ server, server.id = id → .hail server ∉ between ++ later) : t.Away id ∧
      ∀ server, server.id = id → .hail server ∉ Move.invalidate id :: later := by
    refine ⟨?_, fun server heq => by simpa using (not_or.mp (List.mem_append.not.mp
      (apart server heq))).2⟩
    cases left with
    | cons stepped rest =>
        exact Run.away rest (away_of_unfollow (steps_of_step stepped)) fun server heq hmem =>
          apart server heq (List.mem_append_left _ hmem)
  have forgotten : u.fleet.store.snapshot id = none ↔ Unwritten t u id := by
    cases invalidated with
    | cons stepped rest =>
        have hsteps := steps_of_step stepped
        have hsound := soundT.step hsteps
        cases hsteps with
        | invalidate =>
            refine (Run.forgotten_iff rest hsound last).trans ?_
            exact and_iff_right (by simp [tell])
  refine ⟨forgotten, ?_, ?_, ?_, ?_, ?_, ?_⟩
  · intro number followed
    obtain ⟨channel, hchannel, -⟩ := soundS.charted.mapped followed
    exact Run.cancelled_of_dismiss (left.append invalidated) soundS hchannel
      (.tail _ (List.mem_append_left _ (returned number followed)))
  · intro number channel present same
    cases hcancelled : channel.cancelled with
    | true => exact .inl rfl
    | false => exact .inr (same ▸ soundU.attended present hcancelled)
  · intro apart
    obtain ⟨awayT, apartT⟩ := away apart
    exact (invalidated.away awayT apartT).untracked
  · intro x first second number channel before after present cancelled
    exact after.written_of_cancelled (before.sound soundT) present cancelled
  · intro apart unasked
    obtain ⟨awayT, apartT⟩ := away apart
    refine forgotten.mpr fun number own => ?_
    obtain ⟨channel, present, same⟩ := Fleet.serverOf?_eq_some.mp
      (invalidated.serverOf?_of_away soundT awayT apartT own)
    obtain ⟨cancelled, hnone⟩ := unasked number channel present same
    obtain ⟨reports, hwritten, hle⟩ := invalidated.written_of_cancelled soundT present cancelled
    rw [hnone] at hle
    rw [hwritten, List.eq_nil_of_length_eq_zero (Nat.le_zero.mp hle), List.append_nil]
  · rintro number channel connection awaiting errand signal report present rfl asking idle answers
    exact exists_known present asking idle answers

end Harbour

namespace Sample

/-- The server is not followed any more and is invalidated, while the first question of its channel
is still open. -/
theorem run_invalidated : ∃ s t u,
    Harbour.Run (.start policy) [.hail host, .launch, .happen 0 .start, .happen 0 .opened] s ∧
    s.fleet.tracked.get? host.id = some 0 ∧
    Harbour.Run s [.unfollow host.id, .dismiss 0] t ∧ Harbour.Run t [.invalidate host.id] u ∧
    u.fleet.channels.get? 0 = some retired ∧ u.bulletins.get? 0 = none ∧
    Harbour.Unwritten t u host.id := by
  obtain ⟨log, run⟩ := run_connected
  exact ⟨_, harbour retired .empty [] [.tracked host true, .untracked host.id true] (log ++ []), _,
    run, rfl, .cons rfl (.cons rfl (.nil _)), .cons rfl (.nil _), rfl, rfl, fun _ _ => rfl⟩

end Sample

namespace Harbour

/-- The first question of a session is still answered after the server is invalidated. -/
theorem forgotten_iff_unwritten_sample : ∃ s t u next,
    Run (start Sample.policy) [.hail Sample.host, .launch, .happen 0 .start, .happen 0 .opened] s ∧
    Run s [.unfollow Sample.host.id, .dismiss 0] t ∧ Run t [.invalidate Sample.host.id] u ∧
    u.fleet.store.snapshot Sample.host.id = none ∧
    step (.happen 0 Sample.nobody) u = some next ∧
    next.fleet.store.snapshot Sample.host.id ≠ none := by
  obtain ⟨s, t, u, run, followed, left, invalidated, present, idle, unwritten⟩ :=
    Sample.run_invalidated
  have returned (number : Nat) (own : s.fleet.tracked.get? Sample.host.id = some number) :
      Move.dismiss number ∈ [Move.dismiss 0] := by
    obtain rfl := Option.some.inj (followed.symm.trans own)
    exact List.mem_singleton_self _
  have aftermath := forgotten_iff_unwritten run left returned invalidated (by simp)
  obtain ⟨next, answered, known⟩ := aftermath.answered 0 Sample.retired _ _ _ Sample.nobody
    (.players []) present rfl rfl idle Sample.answers_nobody
  exact ⟨s, t, u, next, run, left, invalidated, aftermath.forgotten.mpr unwritten, answered, known⟩

/-- A server may become known again after it is invalidated although it is not followed: its channel
has asked who plays, and the answer comes late. -/
theorem not_always_forgotten :
    ¬ ∀ (settings : ChannelSettings) (moves between later : List Move) (s t u : Harbour)
      (id : ServerId), Run (start settings) moves s → Run s (.unfollow id :: between) t →
        (∀ number, s.fleet.tracked.get? id = some number → .dismiss number ∈ between) →
          Run t (.invalidate id :: later) u →
            (∀ server, server.id = id → .hail server ∉ between ++ later) →
              u.fleet.store.snapshot id = none := by
  intro always
  obtain ⟨s, t, u, run, followed, left, invalidated, present, idle, -⟩ := Sample.run_invalidated
  obtain ⟨next, answered, known⟩ := exists_known present rfl idle Sample.answers_nobody
  have late : Run t [.invalidate Sample.host.id, .happen 0 Sample.nobody] next :=
    invalidated.append (.cons answered (.nil next))
  refine known (always Sample.policy _ [.dismiss 0] [.happen 0 Sample.nobody] s t next
    Sample.host.id run left ?_ late (by simp))
  intro number own
  obtain rfl := Option.some.inj (followed.symm.trans own)
  exact List.mem_singleton_self _

end Harbour

end Flotilla
