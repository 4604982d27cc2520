import Mathlib.Data.List.Basic
import Flotilla.Proofs.Fleet.Harbour

/-!
# What the channels of a harbour do

A harbour logs all that its channels do, each effect under the number of its channel. `Affects` says
what a move can mean to one channel, which may have a report in hand: it is left alone, it is
cancelled, it does what it does about a signal that it tells nothing about, or it tells a report in
three parts.

From this comes what a cancelled channel still does. It asks nothing on its own account any more, so
what it tells from then on is counted against the questions that it has left: one if a question is
under way, two if this is the first one of a session, and one less while the answer is in hand
already. `Run.retired` says so of every run.
-/

namespace Flotilla

namespace Effect

/-- The report that an effect writes down. -/
def written? : Effect → Option Report
  | .write report => some report
  | _ => none

@[simp] theorem filterMap_written?_telling (reports : List Report) :
    (telling reports).filterMap written? = reports := by
  induction reports with
  | nil => rfl
  | cons report rest ih => exact congrArg (report :: ·) ih

theorem written?_of_silent {effect : Effect} (silent : effect.tells = false) :
    effect.written? = none := by
  cases effect with
  | write => simp [tells] at silent
  | _ => rfl

/-- What is written down is told. -/
theorem filterMap_written?_filter (effects : List Effect) :
    (effects.filter tells).filterMap written? = effects.filterMap written? := by
  rw [List.filterMap_filter]
  refine List.filterMap_congr fun effect _ => ?_
  cases effect <;> rfl

end Effect

namespace Bulletin

/-- What a channel has still to tell of the report that it has in hand. -/
def due : Option Bulletin → List Effect
  | some bulletin => if bulletin.published then [] else [.publish bulletin.report]
  | none => []

theorem filterMap_written?_due (held : Option Bulletin) :
    (due held).filterMap Effect.written? = [] := by
  cases held with
  | none => rfl
  | some bulletin =>
      rw [due]
      split <;> rfl

end Bulletin

namespace Channel

variable {channel next : Channel} {held later : Option Bulletin} {effects : List Effect}

/-- How many questions of a channel are left, besides the one whose answer is in hand. -/
def questions (channel : Channel) (held : Option Bulletin) : Nat :=
  channel.outstanding - if held.isSome then 1 else 0

/-- A question whose answer is told is one of those that were left. -/
theorem outstanding_pos {signal : Signal} {report : Report}
    (tells : channel.report? signal = some report) : 0 < channel.outstanding := by
  obtain ⟨connection, awaiting, errand, asking, -⟩ := report?_eq_some_iff.mp tells
  rw [outstanding, asking]
  cases errand <;> simp [Errand.outstanding]

/-- What a move can mean to a channel with the report that it has in hand. -/
inductive Affects (channel : Channel) :
    Option Bulletin → List Effect → Channel → Option Bulletin → Prop where
  | spare {held : Option Bulletin} : Affects channel held [] channel held
  | cancel {held : Option Bulletin} {effects next} (steps : channel.Steps .cancel effects next) :
      Affects channel held effects next held
  | signal {signal} {effects : List Effect} {next} (steps : channel.Steps signal effects next)
      (silent : ∀ effect ∈ effects, effect.tells = false) : Affects channel none effects next none
  | write {signal report} (tells : channel.report? signal = some report) :
      Affects channel none [.write report] channel (some ⟨signal, report, false⟩)
  | publish {signal report} (tells : channel.report? signal = some report) :
      Affects channel (some ⟨signal, report, false⟩) [.publish report] channel
        (some ⟨signal, report, true⟩)
  | proceed {signal report rest next} (tells : channel.report? signal = some report)
      (steps : channel.Steps signal (.write report :: .publish report :: rest) next)
      (silent : ∀ effect ∈ rest, effect.tells = false) :
      Affects channel (some ⟨signal, report, true⟩) rest next none

/-- A channel that is finished stays so. -/
theorem Affects.finished (h : Affects channel held effects next later)
    (finished : channel.activity = .finished) : next.activity = .finished := by
  cases h with
  | spare | write | publish => exact finished
  | cancel steps | signal steps | proceed _ steps => exact (steps.finished finished).1

theorem Affects.server (h : Affects channel held effects next later) :
    next.server = channel.server := by
  cases h with
  | spare | write | publish => rfl
  | cancel steps | signal steps | proceed _ steps => exact steps.server

/-- Whatever a cancelled channel tells is counted against the questions that it has left. -/
theorem Affects.retired (h : Affects channel held effects next later) (orderly : channel.Orderly)
    (cancelled : channel.cancelled = true) :
    next.cancelled = true ∧ ∃ reports,
      effects.filter Effect.tells ++ Bulletin.due later =
        Bulletin.due held ++ Effect.telling reports ∧
      reports.length + next.questions later ≤ channel.questions held := by
  have silently {effects : List Effect} {held : Option Bulletin}
      (silent : ∀ effect ∈ effects, effect.tells = false) :
      effects.filter Effect.tells ++ Bulletin.due held =
        Bulletin.due held ++ Effect.telling [] := by
    rw [Effect.filter_tells_of_silent silent]
    exact (List.append_nil _).symm
  cases h with
  | spare => exact ⟨cancelled, [], silently (by simp), by simp⟩
  | cancel steps =>
      obtain ⟨reports, -, hle⟩ := steps.outstanding orderly cancelled
      refine ⟨steps.cancelled cancelled, [], silently steps.silent_of_cancel, ?_⟩
      simp only [questions, List.length_nil]
      omega
  | signal steps silent =>
      obtain ⟨reports, -, hle⟩ := steps.outstanding orderly cancelled
      refine ⟨steps.cancelled cancelled, [], silently silent, ?_⟩
      simp only [questions, List.length_nil]
      omega
  | @write signal report tells =>
      have hpos := outstanding_pos tells
      refine ⟨cancelled, [report], rfl, ?_⟩
      simp [questions]
      omega
  | publish => exact ⟨cancelled, [], rfl, by simp [questions]⟩
  | @proceed signal report rest next tells steps silent =>
      obtain ⟨reports, htold, hle⟩ := steps.outstanding orderly cancelled
      rw [Effect.filter_tells_answered report silent] at htold
      -- what the step tells is the report in hand, which has been counted when it was written down
      have hlength : reports.length = 1 := by
        have htwo := congrArg List.length htold
        rw [Effect.length_telling, Effect.length_telling, List.length_singleton] at htwo
        omega
      refine ⟨steps.cancelled cancelled, [], silently silent, ?_⟩
      simp [questions]
      omega

end Channel

namespace Harbour

variable {h next : Harbour} {move : Move} {moves : List Move} {number : Nat} {channel : Channel}

/-- The effects that are logged under a number. -/
def under (number : Nat) (log : List (Nat × Effect)) : List Effect :=
  log.filterMap fun entry => if entry.1 = number then some entry.2 else none

/-- All that the channel of a number has done. -/
def done (h : Harbour) (number : Nat) : List Effect := under number h.log

/-- All that the channel of a number has told. -/
def told (h : Harbour) (number : Nat) : List Effect := (h.done number).filter Effect.tells

/-- The reports that the channel of a number has written down. -/
def written (h : Harbour) (number : Nat) : List Report := (h.done number).filterMap Effect.written?

/-- What the channel of a number has still to tell of the report that it has in hand. -/
def due (h : Harbour) (number : Nat) : List Effect := Bulletin.due (h.bulletins.get? number)

/-- How many questions of the channel of a number are left, besides the one whose answer is in hand.
-/
def questions (h : Harbour) (number : Nat) : Nat :=
  match h.fleet.channels.get? number with
  | some channel => channel.questions (h.bulletins.get? number)
  | none => 0

theorem questions_eq (present : h.fleet.channels.get? number = some channel) :
    h.questions number = channel.questions (h.bulletins.get? number) := by
  rw [questions, present]

/-- What has been written down is read off what has been told. -/
theorem filterMap_written?_told (h : Harbour) (number : Nat) :
    (h.told number ++ h.due number).filterMap Effect.written? = h.written number := by
  rw [List.filterMap_append, told, due, Effect.filterMap_written?_filter,
    Bulletin.filterMap_written?_due, List.append_nil, written]

@[simp] theorem under_append (first second : List (Nat × Effect)) :
    under number (first ++ second) = under number first ++ under number second :=
  List.filterMap_append

theorem under_map (other : Nat) (effects : List Effect) :
    under number (effects.map fun effect => (other, effect)) =
      if other = number then effects else [] := by
  rw [under, List.filterMap_map]
  split
  next heq => simp [heq]
  next hne => simp [hne]

theorem under_singleton (other : Nat) (effect : Effect) :
    under number [(other, effect)] = if other = number then [effect] else [] :=
  under_map other [effect]

theorem under_reaction (fleet : Fleet) (other : Nat) (signal : Signal) :
    under number (fleet.reaction other signal) =
      if other = number then (fleet.signal other signal).1 else [] :=
  under_map other _

theorem under_sequel (fleet : Fleet) (other : Nat) (signal : Signal) (hne : other ≠ number) :
    under number (fleet.sequel other signal) = [] := by
  refine List.filterMap_eq_nil_iff.mpr fun entry hentry => ?_
  obtain ⟨effect, -, rfl⟩ := List.mem_map.mp (List.mem_filter.mp hentry).1
  exact if_neg hne

/-- The number of the channel that a move concerns, if it concerns one that is there already. -/
def Move.number? : Move → Option Nat
  | .dismiss number | .reach number | .happen number _ | .publish number | .proceed number =>
    some number
  | _ => none

section Apart

variable (steps : h.Steps move next) (apart : move.number? ≠ some number)

include steps apart

/-- What the other channels have done, and what they have in hand, is not changed by a move. -/
theorem Steps.done_of_apart : next.done number = h.done number := by
  have hlog {log : List (Nat × Effect)} (hnone : under number log = []) :
      under number (h.log ++ log) = h.done number := by
    rw [under_append, hnone, List.append_nil, done]
  cases steps with
  | dismiss | reach | happen =>
      have hne := Option.some_inj.not.mp apart
      exact hlog (by rw [under_reaction, if_neg hne])
  | write | publish =>
      have hne := Option.some_inj.not.mp apart
      exact hlog (by rw [under_singleton, if_neg hne])
  | proceed => exact hlog (under_sequel _ _ _ (Option.some_inj.not.mp apart))
  | _ => rfl

theorem Steps.bulletin_of_apart : next.bulletins.get? number = h.bulletins.get? number := by
  cases steps with
  | write | publish =>
      have hne := Ne.symm (Option.some_inj.not.mp apart)
      exact (Index.get?_insert _ _ _ _).trans (if_neg hne)
  | proceed =>
      have hne := Ne.symm (Option.some_inj.not.mp apart)
      exact (Index.get?_erase _ _ _).trans (if_neg hne)
  | _ => rfl

theorem Steps.channel_of_apart (unlaunched : move ≠ .launch) :
    next.fleet.channels.get? number = h.fleet.channels.get? number := by
  cases steps with
  | launch => exact absurd rfl unlaunched
  | dismiss | reach | happen | proceed =>
      have hne := Ne.symm (Option.some_inj.not.mp apart)
      exact (Fleet.get?_signal _ _ _ _).trans (if_neg hne)
  | _ => rfl

end Apart

/-- What a move means to a channel. -/
theorem Steps.affects (steps : h.Steps move next) (sound : h.Sound)
    (present : h.fleet.channels.get? number = some channel) :
    ∃ after effects, next.fleet.channels.get? number = some after ∧
      next.done number = h.done number ++ effects ∧
        channel.Affects (h.bulletins.get? number) effects after (next.bulletins.get? number) := by
  by_cases apart : move.number? = some number
  · have here (signal : Signal) : (h.fleet.signal number signal).2.channels.get? number =
        some (channel.step signal).1 := by
      rw [Fleet.get?_signal, if_pos rfl, present]
      rfl
    have hreaction (signal : Signal) :
        under number (h.log ++ h.fleet.reaction number signal) =
          h.done number ++ (channel.step signal).2 := by
      rw [under_append, under_reaction, if_pos rfl, Fleet.signal_fst present]
      rfl
    have hsingleton (effect : Effect) :
        under number (h.log ++ [(number, effect)]) = h.done number ++ [effect] := by
      rw [under_append, under_singleton, if_pos rfl]
      rfl
    have hcurrent {bulletin : Bulletin} (held : h.bulletins.get? number = some bulletin) :
        channel.report? bulletin.signal = some bulletin.report := by
      obtain ⟨same, hsame, hreport⟩ := sound.current held
      rwa [Option.some.inj (hsame.symm.trans present)] at hreport
    cases steps with
    | dismiss | reach =>
        obtain rfl := Option.some.inj apart
        exact ⟨_, _, here .cancel, hreaction .cancel, .cancel (channel.steps_step .cancel)⟩
    | happen uncancelled idle silent =>
        obtain rfl := Option.some.inj apart
        have heffects := Fleet.silent_of_report?_eq_none silent
        rw [Fleet.signal_fst present] at heffects
        refine ⟨_, _, here _, hreaction _, ?_⟩
        rw [Harbour.signal, idle]
        exact .signal (channel.steps_step _) heffects
    | write idle tells =>
        obtain rfl := Option.some.inj apart
        obtain ⟨same, hsame, -, hreport⟩ := Fleet.report?_eq_some.mp tells
        obtain rfl := Option.some.inj (hsame.symm.trans present)
        refine ⟨same, _, present, hsingleton _, ?_⟩
        rw [Harbour.write, idle, Index.get?_insert, if_pos rfl]
        exact .write hreport
    | @publish _ bulletin held unpublished =>
        obtain rfl := Option.some.inj apart
        obtain ⟨signal, report, _⟩ := bulletin
        obtain rfl := unpublished
        refine ⟨channel, _, present, hsingleton _, ?_⟩
        rw [Harbour.publish, held, Index.get?_insert, if_pos rfl]
        exact .publish (hcurrent held)
    | @proceed _ bulletin held published =>
        obtain rfl := Option.some.inj apart
        obtain ⟨signal, report, _⟩ := bulletin
        obtain rfl := published
        have hreport := hcurrent held
        obtain ⟨rest, heffects, silent⟩ := Channel.effects_of_report? hreport
        refine ⟨_, rest, here signal, ?_, ?_⟩
        · rw [Harbour.proceed, done, under_append, Fleet.sequel_eq present heffects silent,
            under_map, if_pos rfl]
          rfl
        · rw [Harbour.proceed, held, Index.get?_erase, if_pos rfl]
          exact .proceed hreport (heffects ▸ channel.steps_step signal) silent
    | _ => simp [Move.number?] at apart
  · have hdone : next.done number = h.done number ++ [] := by
      rw [steps.done_of_apart apart, List.append_nil]
    rw [steps.bulletin_of_apart apart]
    by_cases hlaunch : move = .launch
    · subst hlaunch
      cases steps with
      | launch => exact ⟨channel, [], sound.charted.get?_launch _ present, hdone, .spare⟩
    · exact ⟨channel, [], steps.channel_of_apart apart hlaunch ▸ present, hdone, .spare⟩

/-- What a move means to a number that no channel has: none at all, unless it is given to a new
channel. -/
theorem Steps.births (steps : h.Steps move next) (sound : h.Sound)
    (absent : h.fleet.channels.get? number = none) :
    next.done number = h.done number ∧ (next.fleet.channels.get? number = none ∨
      ∃ server, h.entering = some server ∧ next.fleet.channels.get? number =
        some (Channel.create server h.fleet.settings h.fleet.stopped)) := by
  by_cases apart : move.number? = some number
  · have hsignal (signal : Signal) : (h.signal number signal).done number = h.done number ∧
        (h.signal number signal).fleet.channels.get? number = none := by
      simp [Harbour.signal, done, Fleet.reaction, Fleet.signal_of_absent absent, absent]
    cases steps with
    | dismiss | reach | happen =>
        obtain rfl := Option.some.inj apart
        exact ⟨(hsignal _).1, .inl (hsignal _).2⟩
    | write idle tells =>
        obtain rfl := Option.some.inj apart
        simp [Fleet.report?, absent] at tells
    | publish held | proceed held =>
        obtain rfl := Option.some.inj apart
        obtain ⟨channel, hchannel, -⟩ := sound.current held
        simp [absent] at hchannel
    | _ => simp [Move.number?] at apart
  · refine ⟨steps.done_of_apart apart, ?_⟩
    by_cases hlaunch : move = .launch
    · subst hlaunch
      cases steps with
      | @launch server entering =>
          by_cases heq : number = h.fleet.nextNumber
          · exact .inr ⟨server, entering, by simp [tell, Fleet.launch, heq]⟩
          · exact .inl (by simpa [tell, Fleet.launch, heq] using absent)
    · exact .inl ((steps.channel_of_apart apart hlaunch).trans absent)

/-- What is done stays done. -/
theorem Steps.grows (steps : h.Steps move next) (sound : h.Sound) (number : Nat) :
    h.done number <+: next.done number := by
  cases hchannel : h.fleet.channels.get? number with
  | none => exact (steps.births sound hchannel).1 ▸ List.prefix_rfl
  | some channel =>
      obtain ⟨after, effects, -, hdone, -⟩ := steps.affects sound hchannel
      exact ⟨effects, hdone.symm⟩

theorem Run.grows (run : Run h moves next) (sound : h.Sound) (number : Nat) :
    h.done number <+: next.done number :=
  run.preserves (P := fun next => h.done number <+: next.done number) sound
    (fun hsteps sound grown => grown.trans (hsteps.grows sound number)) List.prefix_rfl

/-- A number stays with the server that its channel belongs to. -/
theorem Steps.serverOf? {id : ServerId} (steps : h.Steps move next) (sound : h.Sound)
    (own : h.fleet.serverOf? number = some id) : next.fleet.serverOf? number = some id := by
  obtain ⟨channel, hchannel, hserver⟩ := Fleet.serverOf?_eq_some.mp own
  obtain ⟨after, effects, hafter, -, haffects⟩ := steps.affects sound hchannel
  exact Fleet.serverOf?_eq_some.mpr ⟨after, hafter, haffects.server ▸ hserver⟩

theorem Run.serverOf? {id : ServerId} (run : Run h moves next) (sound : h.Sound)
    (own : h.fleet.serverOf? number = some id) : next.fleet.serverOf? number = some id :=
  run.preserves (P := fun h => h.fleet.serverOf? number = some id) sound
    (fun hsteps sound own => hsteps.serverOf? sound own) own

theorem Steps.retired (steps : h.Steps move next) (sound : h.Sound)
    (present : h.fleet.channels.get? number = some channel)
    (cancelled : channel.cancelled = true) : ∃ after,
      next.fleet.channels.get? number = some after ∧ after.cancelled = true ∧ ∃ reports,
        next.told number ++ next.due number =
          h.told number ++ h.due number ++ Effect.telling reports ∧
        reports.length + next.questions number ≤ h.questions number := by
  obtain ⟨after, effects, hafter, hdone, haffects⟩ := steps.affects sound present
  obtain ⟨hcancelled, reports, htold, hle⟩ :=
    haffects.retired (sound.charted.orderly present) cancelled
  refine ⟨after, hafter, hcancelled, reports, ?_, ?_⟩
  · rw [told, hdone, List.filter_append, List.append_assoc, due, htold, ← List.append_assoc]
    rfl
  · rwa [questions_eq hafter, questions_eq present]

/-- A channel that is cancelled stays so. Whatever it tells is counted against the questions that it
has left, however the harbour goes on. -/
theorem Run.retired (run : Run h moves next) (sound : h.Sound)
    (present : h.fleet.channels.get? number = some channel)
    (cancelled : channel.cancelled = true) : ∃ after,
      next.fleet.channels.get? number = some after ∧ after.cancelled = true ∧ ∃ reports,
        next.told number ++ next.due number =
          h.told number ++ h.due number ++ Effect.telling reports ∧
        reports.length + next.questions number ≤ h.questions number := by
  induction run generalizing channel with
  | nil => exact ⟨channel, present, cancelled, [], by simp [Effect.telling], by simp⟩
  | cons stepped _ ih =>
      have hsteps := steps_of_step stepped
      obtain ⟨between, hbetween, hcancelled, first, hfirst, hle⟩ :=
        hsteps.retired sound present cancelled
      obtain ⟨after, hafter, hlater, second, hsecond, hrest⟩ :=
        ih (sound.step hsteps) hbetween hcancelled
      refine ⟨after, hafter, hlater, first ++ second, ?_, ?_⟩
      · rw [hsecond, hfirst]
        simp [Effect.telling]
      · rw [List.length_append]
        omega

/-- So a cancelled channel writes down no more reports than it has questions left. -/
theorem Run.written_of_cancelled (run : Run h moves next) (sound : h.Sound)
    (present : h.fleet.channels.get? number = some channel)
    (cancelled : channel.cancelled = true) : ∃ reports,
      next.written number = h.written number ++ reports ∧
        reports.length ≤ h.questions number := by
  obtain ⟨after, -, -, reports, htold, hle⟩ := run.retired sound present cancelled
  refine ⟨reports, ?_, by omega⟩
  rw [← filterMap_written?_told, htold, List.filterMap_append, filterMap_written?_told,
    Effect.filterMap_written?_telling]

/-- A channel that follows no server is cancelled, unless whoever took its server off the list, or
stopped the fleet, has still to cancel it. -/
theorem Sound.cancelled_of_adrift (sound : h.Sound) (adrift : h.fleet.Adrift number)
    (present : h.fleet.channels.get? number = some channel) :
    channel.cancelled = true ∨ number ∈ h.leaving ∨ h.fleet.stopped = true := by
  cases hcancelled : channel.cancelled with
  | true => exact .inl rfl
  | false => exact .inr ((sound.attended present hcancelled).resolve_left (adrift.2 _))

end Harbour

end Flotilla
