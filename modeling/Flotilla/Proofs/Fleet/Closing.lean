import Flotilla.Proofs.Fleet.Deeds

/-!
# Shutting a fleet down

A shutdown stops the fleet before it takes the servers out of the list, and callers go on in
between. A channel that was there when the fleet was stopped is cancelled, so it is finished once it
has begun, or once the question that is under way is given up. A channel that comes later is
cancelled from the beginning: all that it ever does is to show that it is connecting and that it is
not. `Harbour.shutdown_stops` joins the two.
-/

namespace Flotilla

namespace Channel

variable {c next : Channel} {effects log : List Effect} {signal : Signal}

/-- A channel that was cancelled before it began, with all that it has done. -/
inductive Stillborn (c : Channel) : List Effect → Prop where
  | waiting (cancelled : c.cancelled = true) (starting : c.activity = .starting)
      (shown : c.status.state = .disconnected) : Stillborn c []
  | ended (finished : c.activity = .finished) {first last : ChannelStatus}
      (began : first.state = .connecting) (shown : last.state = .disconnected)
      (current : c.status = last) : Stillborn c [.show first, .show last]

theorem stillborn_create (server : Server) (settings : ChannelSettings) :
    (create server settings true).Stillborn [] := .waiting rfl rfl rfl

/-- A cancelled channel that begins comes to its end at once. -/
theorem Attempts.stillborn (h : Attempts c effects next) (cancelled : c.cancelled = true) :
    next.Stillborn effects := by
  cases h with
  | connect active | unusable active => simp [cancelled] at active
  | finish => exact .ended rfl rfl rfl rfl

theorem Stillborn.step (h : c.Stillborn log) (steps : Steps c signal effects next) :
    next.Stillborn (log ++ effects) := by
  cases h with
  | waiting cancelled starting shown =>
      cases steps with
      | ignore => exact .waiting cancelled starting shown
      | start _ attempts => exact attempts.stillborn cancelled
      | heed => exact .waiting rfl starting shown
      | wake resting => simp [starting] at resting
      | begin connecting | miss connecting => simp [starting] at connecting
      | stop idle => simp [starting] at idle
      | keep _ asking | seed asking | answer asking | excuse asking | lose asking =>
          simp [starting] at asking
      | notice listening | drop listening | overhear _ listening => simp [starting] at listening
  | ended finished began shown current =>
      obtain ⟨hfinished, hstatus, rfl⟩ := steps.finished finished
      exact .ended hfinished began shown (hstatus.trans current)

/-- A stillborn channel asks nothing, so it tells no report. -/
theorem Stillborn.report? (h : c.Stillborn log) (signal : Signal) : c.report? signal = none := by
  cases hreport : c.report? signal with
  | none => rfl
  | some report =>
      obtain ⟨connection, awaiting, errand, asking, -⟩ := report?_eq_some_iff.mp hreport
      cases h with
      | waiting cancelled starting => simp [starting] at asking
      | ended finished => simp [finished] at asking

theorem Stillborn.affects {held later : Option Bulletin} (h : c.Stillborn log)
    (affects : Affects c held effects next later) : next.Stillborn (log ++ effects) := by
  cases affects with
  | spare => simpa using h
  | cancel steps | signal steps => exact h.step steps
  | write tells | publish tells | proceed tells => simp [h.report?] at tells

/-- What a stillborn channel has done is nothing but to show its status. -/
theorem Stillborn.silent (h : c.Stillborn log) :
    ∀ effect ∈ log, ∃ status, effect = .show status := by
  cases h with
  | waiting => simp
  | ended => simp

theorem Stillborn.disconnected (h : c.Stillborn log) : c.status.state = .disconnected := by
  cases h with
  | waiting cancelled starting shown => exact shown
  | ended finished began shown current => exact current ▸ shown

/-- A stillborn channel is not connected, and it is finished once it begins. -/
theorem Stillborn.ends (h : c.Stillborn log) : c.status.state = .disconnected ∧
    (c.step .start).1.isFinished = true ∧ (c.step .start).1.status.state = .disconnected := by
  have hsteps := c.steps_step .start
  refine ⟨h.disconnected, isFinished_iff.mpr ?_, (h.step hsteps).disconnected⟩
  cases h with
  | waiting cancelled starting shown => exact hsteps.finished_of_start cancelled starting
  | ended finished began shown current => exact (hsteps.finished finished).1

end Channel

namespace Harbour

variable {h next : Harbour} {move : Move} {moves : List Move} {number : Nat}

theorem stopped_step (steps : h.Steps move next) (stopped : h.fleet.stopped = true) :
    next.fleet.stopped = true := by
  cases steps with
  | stop => rfl
  | dismiss | reach | happen | proceed => exact (Fleet.stopped_signal _ _ _).trans stopped
  | _ => exact stopped

/-- A number that no channel has yet has done nothing. -/
def Quiet (h : Harbour) : Prop :=
  ∀ number, h.fleet.channels.get? number = none → h.done number = []

theorem Quiet.step (quiet : h.Quiet) (steps : h.Steps move next) (sound : h.Sound) :
    next.Quiet := by
  intro number absent
  cases hbefore : h.fleet.channels.get? number with
  | none => rw [(steps.births sound hbefore).1, quiet number hbefore]
  | some channel =>
      obtain ⟨after, -, hafter, -⟩ := steps.affects sound hbefore
      simp [hafter] at absent

theorem Run.quiet (run : Run h moves next) (sound : h.Sound) (quiet : h.Quiet) : next.Quiet :=
  run.preserves sound (fun hsteps sound quiet => quiet.step hsteps sound) quiet

/-- A channel that is set up once the fleet is stopped is stillborn. -/
theorem Run.stillborn (run : Run h moves next) (sound : h.Sound) (stopped : h.fleet.stopped = true)
    (before : h.fleet.channels.get? number = none ∧ h.done number = [] ∨
      ∃ channel, h.fleet.channels.get? number = some channel ∧ channel.Stillborn (h.done number)) :
    next.fleet.channels.get? number = none ∧ next.done number = [] ∨
      ∃ channel, next.fleet.channels.get? number = some channel ∧
        channel.Stillborn (next.done number) := by
  induction run with
  | nil => exact before
  | cons stepped _ ih =>
      have hsteps := steps_of_step stepped
      refine ih (sound.step hsteps) (stopped_step hsteps stopped) ?_
      rcases before with ⟨habsent, hdone⟩ | ⟨channel, hchannel, hstillborn⟩
      · obtain ⟨hsame, hnone | ⟨server, -, hborn⟩⟩ := hsteps.births sound habsent
        · exact .inl ⟨hnone, hsame.trans hdone⟩
        · rw [stopped] at hborn
          exact .inr ⟨_, hborn, hsame.trans hdone ▸ Channel.stillborn_create server _⟩
      · obtain ⟨after, effects, hafter, hdone, haffects⟩ := hsteps.affects sound hchannel
        exact .inr ⟨after, hafter, hdone ▸ hstillborn.affects haffects⟩

variable {found awaited : List Nat}

/-- The shutdown waits for the channels that it has found. Those that it does not await any more are
finished. -/
structure Waits (h : Harbour) (found awaited : List Nat) : Prop where
  stopped : h.fleet.stopped = true
  closing : h.closing = some ⟨found, awaited⟩
  subset : awaited ⊆ found
  found : ∀ number ∈ found, ∃ channel, h.fleet.channels.get? number = some channel ∧
    (number ∉ awaited → channel.isFinished = true)

/-- What a shutdown finds is what is on the list. -/
theorem Steps.waits_of_drain (steps : h.Steps .drain next) (sound : h.Sound) :
    next.Waits (h.fleet.tracked.entries.map (·.2)) (h.fleet.tracked.entries.map (·.2)) := by
  cases steps with
  | drain free first stopped =>
      refine ⟨stopped, rfl, List.Subset.refl _, fun number hfound => ?_⟩
      obtain ⟨entry, hentry, rfl⟩ := List.mem_map.mp hfound
      obtain ⟨channel, hchannel, -⟩ :=
        sound.charted.mapped ((Index.mem_entries_iff _ _).mp hentry)
      exact ⟨channel, hchannel, fun habsent => absurd hfound habsent⟩

theorem Waits.step (waits : h.Waits found awaited) (steps : h.Steps move next) (sound : h.Sound) :
    ∃ awaited, next.Waits found awaited := by
  have hfound (later : List Nat) (seen : ∀ number, number ∉ later → number ∉ awaited ∨
      h.fleet.areFinished [number] = true) : ∀ number ∈ found, ∃ channel,
        next.fleet.channels.get? number = some channel ∧
          (number ∉ later → channel.isFinished = true) := by
    intro number hmem
    obtain ⟨channel, hchannel, hfinished⟩ := waits.found number hmem
    obtain ⟨after, effects, hafter, -, haffects⟩ := steps.affects sound hchannel
    have hseen (habsent : number ∉ later) : channel.isFinished = true := by
      rcases seen number habsent with hbefore | hnow
      · exact hfinished hbefore
      · simpa [Fleet.areFinished, hchannel] using hnow
    exact ⟨after, hafter, fun habsent => Channel.isFinished_iff.mpr
      (haffects.finished (Channel.isFinished_iff.mp (hseen habsent)))⟩
  have hkept := hfound awaited fun number habsent => .inl habsent
  have hstopped := stopped_step steps waits.stopped
  cases steps with
  | drain free first => simp [waits.closing] at first
  | @await number closing waiting mem finished =>
      obtain rfl := Option.some.inj (waits.closing.symm.trans waiting)
      refine ⟨_, hstopped, rfl, fun other hother => waits.subset (List.mem_of_mem_erase hother),
        hfound _ fun other habsent => ?_⟩
      by_cases heq : other = number
      · exact .inr (heq ▸ finished)
      · exact .inl fun hmem => habsent ((List.mem_erase_of_ne heq).mpr hmem)
  | _ => exact ⟨awaited, hstopped, waits.closing, waits.subset, hkept⟩

theorem Run.waits (run : Run h moves next) (sound : h.Sound) (waits : h.Waits found awaited) :
    ∃ awaited, next.Waits found awaited :=
  run.preserves (P := fun h => ∃ awaited, h.Waits found awaited) sound
    (fun hsteps sound ⟨_, waits⟩ => waits.step hsteps sound) ⟨awaited, waits⟩

/-- A channel can always be done with the report that it has in hand. -/
theorem exists_done_with {bulletin : Bulletin}
    (held : h.bulletins.get? number = some bulletin) :
    ∃ moves ready, Run h moves ready ∧ ready.closing = h.closing ∧
      ready.bulletins.get? number = none ∧
      ready.fleet.channels = (h.fleet.signal number bulletin.signal).2.channels ∧
      ready.fleet.stopped = h.fleet.stopped := by
  have going {h : Harbour} {bulletin : Bulletin}
      (held : h.bulletins.get? number = some bulletin) (published : bulletin.published = true) :
      Run h [.proceed number] (h.proceed number bulletin) :=
    .cons (by simp [step, held, published]) (.nil _)
  have idle (h : Harbour) (bulletin : Bulletin) :
      (h.proceed number bulletin).bulletins.get? number = none := by
    simp [Harbour.proceed]
  cases hpublished : bulletin.published with
  | true => exact ⟨_, _, going held hpublished, rfl, idle _ _, rfl, Fleet.stopped_signal _ _ _⟩
  | false =>
      have hpublish : step (.publish number) h = some (h.publish number bulletin) := by
        simp [step, held, hpublished]
      have hheld : (h.publish number bulletin).bulletins.get? number =
          some { bulletin with published := true } := by
        simp [Harbour.publish]
      exact ⟨_, _, .cons hpublish (going hheld rfl), rfl, idle _ _, rfl,
        Fleet.stopped_signal _ _ _⟩

/-- Whatever may happen to a channel that has no report in hand can happen, to its end. -/
theorem exists_run_signal {signal : Signal} (uncancelled : signal ≠ .cancel)
    (idle : h.bulletins.get? number = none) : ∃ moves, Run h moves (h.signal number signal) := by
  cases hreport : h.fleet.report? number signal with
  | none =>
      have hhappen : step (.happen number signal) h = some (h.signal number signal) := by
        simp [step_happen uncancelled, idle, hreport]
      exact ⟨_, .cons hhappen (.nil _)⟩
  | some told => exact ⟨_, run_report uncancelled idle hreport⟩

/-- A channel of a stopped fleet that has no report in hand can be finished. -/
theorem exists_finishing_of_idle {channel : Channel} (sound : h.Sound)
    (stopped : h.fleet.stopped = true) (idle : h.bulletins.get? number = none)
    (present : h.fleet.channels.get? number = some channel) :
    ∃ moves ready, Run h moves ready ∧ ready.closing = h.closing ∧
      ready.fleet.areFinished [number] = true := by
  have hreach : step (.reach number) h = some (h.signal number .cancel) := by simp [step, stopped]
  have horderly := (sound.charted.orderly present).step (channel.steps_step .cancel)
  rcases horderly.exists_finishing channel.cancelled_cancel with hdone | ⟨signal, hsignal, hdone⟩
  · refine ⟨_, _, .cons hreach (.nil _), rfl, ?_⟩
    simp [Fleet.areFinished, Harbour.signal, Fleet.get?_signal, present, hdone]
  · have hidle : (h.signal number .cancel).bulletins.get? number = none := idle
    obtain ⟨moves, run⟩ := exists_run_signal hsignal hidle
    refine ⟨_, _, .cons hreach run, rfl, ?_⟩
    simp [Fleet.areFinished, Harbour.signal, Fleet.get?_signal, present, hdone]

/-- A channel of a stopped fleet can be finished. -/
theorem exists_finishing {channel : Channel} (sound : h.Sound) (stopped : h.fleet.stopped = true)
    (present : h.fleet.channels.get? number = some channel) :
    ∃ moves ready, Run h moves ready ∧ ready.closing = h.closing ∧
      ready.fleet.areFinished [number] = true := by
  cases hheld : h.bulletins.get? number with
  | none => exact exists_finishing_of_idle sound stopped hheld present
  | some bulletin =>
      obtain ⟨first, idle, hfirst, hclosing, hidle, hchannels, hstopped⟩ := exists_done_with hheld
      have hpresent : idle.fleet.channels.get? number =
          some (channel.step bulletin.signal).1 := by
        rw [hchannels, Fleet.get?_signal, if_pos rfl, present]
        rfl
      obtain ⟨rest, ready, hrest, hready, hfinished⟩ :=
        exists_finishing_of_idle (hfirst.sound sound) (hstopped.trans stopped) hidle hpresent
      exact ⟨_, ready, hfirst.append hrest, hready.trans hclosing, hfinished⟩

/-- One more of the channels that the shutdown waits for can be finished and seen to be so. -/
theorem Waits.exists_await (waits : h.Waits found (number :: awaited)) (sound : h.Sound) :
    ∃ moves next, Run h moves next ∧ next.Waits found awaited := by
  obtain ⟨channel, hchannel, -⟩ := waits.found number (waits.subset List.mem_cons_self)
  obtain ⟨moves, ready, run, hclosing, hfinished⟩ := exists_finishing sound waits.stopped hchannel
  have hawait : Harbour.step (.await number) ready =
      some { ready with closing := some ⟨found, awaited⟩ } := by
    simp [Harbour.step, hclosing, waits.closing, hfinished]
  have hrun : Run h (moves ++ [.await number]) _ := run.append (.cons hawait (.nil _))
  obtain ⟨later, hlater⟩ := hrun.waits sound waits
  obtain rfl : awaited = later := (Closing.mk.inj (Option.some.inj hlater.closing)).2
  exact ⟨_, _, hrun, hlater⟩

/-- The shutdown can always come to its end. -/
theorem Waits.exists_return (waits : h.Waits found awaited) (sound : h.Sound) :
    ∃ moves next, Run h moves next ∧ next.Waits found [] := by
  induction awaited generalizing h with
  | nil => exact ⟨[], h, .nil h, waits⟩
  | cons number awaited ih =>
      obtain ⟨first, between, hfirst, hbetween⟩ := waits.exists_await sound
      obtain ⟨rest, next, hrest, hnext⟩ := ih hbetween (hfirst.sound sound)
      exact ⟨first ++ rest, next, hfirst.append hrest, hnext⟩

/-- What is left to say of a channel that is set up once the fleet is stopped: it shows its status
and does nothing else, it is not connected, and it is finished once it begins. -/
def Fizzles (h : Harbour) (number : Nat) (channel : Channel) : Prop :=
  (∀ effect ∈ h.done number, ∃ status, effect = .show status) ∧
    channel.status.state = .disconnected ∧
    (channel.step .start).1.isFinished = true ∧
    (channel.step .start).1.status.state = .disconnected

/-- Whatever callers do meanwhile and afterwards, a shutdown stops the fleet. When it has seen all
the channels finished that it awaits, every channel is finished that followed a server when the list
was emptied, and the shutdown can always come to that. A channel that is set up once the fleet is
stopped never connects, writes or publishes anything, and ends disconnected. -/
theorem shutdown_stops {settings : ChannelSettings} (run : Run (start settings) moves h) :
    (∀ drained more after, step .drain h = some drained → Run drained more after →
      ∃ found awaited, after.closing = some ⟨found, awaited⟩ ∧
        (awaited = [] → ∀ id number, h.fleet.tracked.get? id = some number →
          ∃ channel, after.fleet.channels.get? number = some channel ∧
            channel.isFinished = true) ∧
        ∃ rest returned, Run after rest returned ∧ returned.closing = some ⟨found, []⟩) ∧
    ∀ more after number channel, h.fleet.stopped = true → Run h more after →
      h.fleet.channels.get? number = none →
        after.fleet.channels.get? number = some channel → after.Fizzles number channel := by
  have sound := run.sound (sound_start settings)
  constructor
  · intro drained more after stepped later
    have hsteps := steps_of_step stepped
    have hdrained := sound.step hsteps
    obtain ⟨awaited, hwaits⟩ := later.waits hdrained (hsteps.waits_of_drain sound)
    refine ⟨_, awaited, hwaits.closing, fun hreturned id number htracked => ?_, ?_⟩
    · have hfound : number ∈ h.fleet.tracked.entries.map (·.2) :=
        List.mem_map.mpr ⟨(id, number), (Index.mem_entries_iff _ _).mpr htracked, rfl⟩
      obtain ⟨channel, hchannel, hfinished⟩ := hwaits.found number hfound
      exact ⟨channel, hchannel, hfinished (by simp [hreturned])⟩
    · obtain ⟨rest, returned, hrest, hdone⟩ := hwaits.exists_return (later.sound hdrained)
      exact ⟨rest, returned, hrest, hdone.closing⟩
  · intro more after number channel stopped later absent present
    have hquiet := run.quiet (sound_start settings) fun number _ => rfl
    rcases later.stillborn sound stopped (.inl ⟨absent, hquiet number absent⟩) with
      ⟨hnone, -⟩ | ⟨same, hsame, hstillborn⟩
    · simp [hnone] at present
    · obtain rfl := Option.some.inj (hsame.symm.trans present)
      exact ⟨hstillborn.silent, hstillborn.ends⟩

end Harbour

namespace Sample

/-- A stopped fleet with a channel that has not begun, and whatever list and shutdown. -/
def stoppedHarbour (tracked : Index ServerId Nat) (closing : Option Closing) : Harbour :=
  ⟨⟨policy, .empty, Index.empty.insert 0 (.create host policy false), tracked, true⟩, none, [],
    closing, .empty, [.tracked host true], []⟩

end Sample

namespace Harbour

/-- A server is followed when the fleet is stopped and the list is emptied. It is followed again
while the shutdown waits, until the first channel has begun, only to be finished. -/
theorem shutdown_stops_sample : ∃ h drained after,
    Run (start Sample.policy) [.hail Sample.host, .launch, .stop] h ∧
    step .drain h = some drained ∧ h.fleet.stopped = true ∧
    Run drained [.hail Sample.host, .launch, .happen 1 .start, .reach 0, .happen 0 .start, .await 0]
      after ∧
    (∃ channel, after.fleet.channels.get? 0 = some channel ∧ channel.isFinished = true) ∧
    ∃ channel, after.fleet.channels.get? 1 = some channel ∧ after.Fizzles 1 channel := by
  have stopped : Run (start Sample.policy) [.hail Sample.host, .launch, .stop]
      (Sample.stoppedHarbour (Index.empty.insert Sample.host.id 0) none) :=
    .cons rfl (.cons rfl (.cons rfl (.nil _)))
  have drained : step .drain (Sample.stoppedHarbour (Index.empty.insert Sample.host.id 0) none) =
      some (Sample.stoppedHarbour .empty (some ⟨[0], [0]⟩)) := rfl
  have computed : ((run? step [.hail Sample.host, .launch, .happen 1 .start, .reach 0,
      .happen 0 .start, .await 0] (Sample.stoppedHarbour .empty (some ⟨[0], [0]⟩))).map fun after =>
        (after.closing.map (·.awaited), (after.fleet.channels.get? 1).isSome)) =
      some (some [], true) := rfl
  obtain ⟨after, hafter, hseen⟩ := Option.map_eq_some_iff.mp computed
  obtain ⟨hawaited, hlate⟩ := Prod.mk.inj hseen
  have later := run?_iff.mp hafter
  obtain ⟨returns, fizzles⟩ := shutdown_stops stopped
  obtain ⟨found, awaited, hclosing, hfinished, -⟩ := returns _ _ _ drained later
  obtain ⟨channel, hchannel⟩ := Option.isSome_iff_exists.mp hlate
  have hreturned : awaited = [] := by simpa [hclosing] using hawaited
  exact ⟨_, _, after, stopped, drained, rfl, later, hfinished hreturned Sample.host.id 0 rfl,
    channel, hchannel, fizzles _ after 1 channel rfl (.cons drained later) rfl hchannel⟩

end Harbour

end Flotilla
