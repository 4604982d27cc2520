import Flotilla.Proofs.Channel.Ending
import Flotilla.Proofs.Fleet.Reaction
import Flotilla.Proofs.Run

/-!
# Harbours

A harbour is a fleet with any number of callers at once, whose calls are taken apart. To follow a
server, a caller looks whether it is served, with the followed servers to itself, and sets up the
channel only afterwards; meanwhile the fleet may be stopped. Whoever stops following a server
cancels its channel later. A shutdown stops the fleet, of which the channels learn one after the
other; it empties the list of followed servers, and waits for the channels that it found there. What
the channels do is taken apart as well: one that tells a report writes it down, publishes it later,
and goes on only then. Between any two parts of a call or of a report, parts of others may come, and
anything may happen to any other channel.

Each call takes effect at one moment between its beginning and its end, and `Harbour.answers` keeps
the answers in that order. `track_eq`, `untrack_eq` and `halt_eq` say that the parts of a call come
to what the call does on a fleet, and `signal_eq` says so of the parts of a report. That an answer
has come is seen by nobody before its report is written down, so the two are one move.

What carries the results on harbours is that a followed server has a channel of its own that nobody
cancels before the fleet is stopped. So it is not finished, and to be followed is to be served. The
other way round, a channel that follows no server is cancelled, or someone is about to cancel it.
-/

namespace Flotilla

namespace Fleet

variable {fleet : Fleet} {number other : Nat} {id : ServerId} {server : Server}

/-- Stops following a server, with its channel going on. -/
def unfollow (fleet : Fleet) (id : ServerId) : Fleet :=
  { fleet with tracked := fleet.tracked.erase id }

/-- From now on, channels are cancelled from the beginning. -/
def stop (fleet : Fleet) : Fleet := { fleet with stopped := true }

/-- To stop following a server is to take it out of the list and then to cancel its channel. -/
theorem untrack_eq (h : fleet.tracked.get? id = some number) :
    fleet.untrack id = (true, ((fleet.unfollow id).signal number .cancel).2) := by
  simp [untrack, unfollow, h]

/-- To cancel every channel, those to come included, is to stop the fleet and to cancel one channel
after the other. -/
theorem halt_eq (fleet : Fleet) : fleet.halt = fleet.stop.cancelAll fleet.channels.keys := rfl

/-- A followed server has a channel of its own, which is cancelled only after the fleet is stopped.
-/
structure Charted (fleet : Fleet) : Prop where
  /-- Numbers are given out in order. -/
  numbered : ∀ {number channel}, fleet.channels.get? number = some channel →
    number < fleet.channels.size
  orderly : ∀ {number channel}, fleet.channels.get? number = some channel → channel.Orderly
  mapped : ∀ {id number}, fleet.tracked.get? id = some number →
    ∃ channel, fleet.channels.get? number = some channel ∧ channel.server.id = id ∧
      (channel.cancelled = true → fleet.stopped = true)

theorem charted_create (settings : ChannelSettings) : (create settings).Charted := by
  constructor <;> simp [create]

namespace Charted

theorem fresh (h : fleet.Charted) : fleet.channels.get? fleet.nextNumber = none := by
  cases hchannel : fleet.channels.get? fleet.nextNumber with
  | none => rfl
  | some channel => exact absurd (h.numbered hchannel) (Nat.lt_irrefl _)

/-- No channel follows two servers. -/
theorem eq_of_mapped (h : fleet.Charted) {other : ServerId}
    (first : fleet.tracked.get? id = some number)
    (second : fleet.tracked.get? other = some number) :
    id = other := by
  obtain ⟨channel, hchannel, rfl, -⟩ := h.mapped first
  obtain ⟨same, hsame, rfl, -⟩ := h.mapped second
  rw [hchannel] at hsame
  rw [Option.some.inj hsame]

/-- The channel of a followed server. -/
theorem channel?_isSome (h : fleet.Charted) :
    (fleet.channel? id).isSome = (fleet.tracked.get? id).isSome := by
  cases htracked : fleet.tracked.get? id with
  | none => simp [channel?, htracked]
  | some number =>
      obtain ⟨channel, hchannel, -⟩ := h.mapped htracked
      simp [channel?, htracked, hchannel]

/-- Before the fleet is stopped, exactly the followed servers are served. -/
theorem isServed_eq (h : fleet.Charted) (active : fleet.stopped = false) (id : ServerId) :
    fleet.isServed id = (fleet.tracked.get? id).isSome := by
  cases htracked : fleet.tracked.get? id with
  | none => simp [isServed, channel?, htracked]
  | some number =>
      obtain ⟨channel, hchannel, -, hcancelled⟩ := h.mapped htracked
      have hunfinished : channel.isFinished = false := by
        rw [← Bool.not_eq_true, Channel.isFinished_iff]
        intro finished
        have hstopped := hcancelled ((h.orderly hchannel).finished finished)
        simp [active] at hstopped
      simp [isServed, channel?, htracked, hchannel, hunfinished]

theorem get?_launch (h : fleet.Charted) (server : Server) {channel : Channel}
    (present : fleet.channels.get? number = some channel) :
    (fleet.launch server).channels.get? number = some channel := by
  have hne : number ≠ fleet.nextNumber := Nat.ne_of_lt (h.numbered present)
  simpa [launch, hne] using present

theorem size_launch (h : fleet.Charted) (server : Server) :
    (fleet.launch server).channels.size = fleet.channels.size + 1 := by
  simp [launch, Index.size_insert, h.fresh]

theorem launch (h : fleet.Charted) (server : Server) : (fleet.launch server).Charted := by
  constructor
  · intro number channel present
    rw [h.size_launch]
    rcases get?_of_launch present with ⟨rfl, -⟩ | ⟨-, hchannel⟩
    · exact Nat.lt_succ_self _
    · exact Nat.lt_succ_of_lt (h.numbered hchannel)
  · intro number channel present
    rcases get?_of_launch present with ⟨-, rfl⟩ | ⟨-, hchannel⟩
    · exact Channel.orderly_create server fleet.settings fleet.stopped
    · exact h.orderly hchannel
  · intro id number htracked
    rw [Fleet.launch, Index.get?_insert] at htracked
    split at htracked
    next heq =>
      obtain rfl := Option.some.inj htracked
      exact ⟨Channel.create server fleet.settings fleet.stopped, by simp [Fleet.launch], heq.symm,
        fun stopped => stopped⟩
    next =>
      obtain ⟨channel, hchannel, hserver, hcancelled⟩ := h.mapped htracked
      exact ⟨channel, h.get?_launch server hchannel, hserver, hcancelled⟩

/-- Anything may happen to a channel, but to be cancelled before the fleet is stopped only if it
does not follow a server any more. -/
theorem signal (h : fleet.Charted) {number : Nat} {signal : Signal}
    (allowed : signal = .cancel →
      fleet.stopped = true ∨ ∀ id, fleet.tracked.get? id ≠ some number) :
    (fleet.signal number signal).2.Charted := by
  constructor
  · intro other next hnext
    obtain ⟨channel, hchannel, -⟩ := exists_of_signal hnext
    rw [size_signal]
    exact h.numbered hchannel
  · intro other next hnext
    obtain ⟨channel, hchannel, rfl | ⟨effects, steps⟩⟩ := exists_of_signal hnext
    · exact h.orderly hchannel
    · exact (h.orderly hchannel).step steps
  · intro id other htracked
    rw [tracked_signal] at htracked
    obtain ⟨channel, hchannel, hserver, hcancelled⟩ := h.mapped htracked
    rw [get?_signal, stopped_signal, hchannel]
    split
    next heq =>
      refine ⟨_, rfl, (channel.steps_step signal).server ▸ hserver, fun cancelled => ?_⟩
      rcases (channel.steps_step signal).uncancelled cancelled with hbefore | hsignal
      · exact hcancelled hbefore
      · exact (allowed hsignal).resolve_right fun apart => apart id (heq ▸ htracked)
    next => exact ⟨channel, rfl, hserver, hcancelled⟩

theorem unfollow (h : fleet.Charted) (id : ServerId) : (fleet.unfollow id).Charted := by
  refine ⟨h.numbered, h.orderly, fun {other number} htracked => ?_⟩
  rw [Fleet.unfollow, Index.get?_erase] at htracked
  split at htracked
  next => simp at htracked
  next => exact h.mapped htracked

theorem invalidate (h : fleet.Charted) (id : ServerId) : (fleet.invalidate id).2.Charted :=
  ⟨h.numbered, h.orderly, h.mapped⟩

theorem stop (h : fleet.Charted) : fleet.stop.Charted := by
  refine ⟨h.numbered, h.orderly, fun htracked => ?_⟩
  obtain ⟨channel, hchannel, hserver, -⟩ := h.mapped htracked
  exact ⟨channel, hchannel, hserver, fun _ => rfl⟩

theorem write (h : fleet.Charted) (id : ServerId) (report : Report) :
    (fleet.write id report).Charted :=
  ⟨h.numbered, h.orderly, h.mapped⟩

theorem proceed (h : fleet.Charted) {number : Nat} {signal : Signal}
    (uncancelled : signal ≠ .cancel) : (fleet.proceed number signal).Charted := by
  have hsignal : (fleet.signal number signal).2.Charted :=
    h.signal fun hcancel => absurd hcancel uncancelled
  exact ⟨hsignal.numbered, hsignal.orderly, hsignal.mapped⟩

theorem drain (h : fleet.Charted) : fleet.drain.2.Charted :=
  ⟨h.numbered, h.orderly, fun htracked => by simp [Fleet.drain] at htracked⟩

end Charted

/-- A channel that follows no server. As numbers are used once, it never will again. -/
def Adrift (fleet : Fleet) (number : Nat) : Prop :=
  number < fleet.channels.size ∧ ∀ id, fleet.tracked.get? id ≠ some number

theorem Adrift.launch (adrift : fleet.Adrift number) (h : fleet.Charted) (server : Server) :
    (fleet.launch server).Adrift number := by
  obtain ⟨hlt, hother⟩ := adrift
  refine ⟨(h.size_launch server).symm ▸ Nat.lt_succ_of_lt hlt, fun id hid => ?_⟩
  rw [Fleet.launch, Index.get?_insert] at hid
  split at hid
  next => exact Nat.ne_of_lt hlt (Option.some.inj hid).symm
  next => exact hother id hid

theorem Adrift.signal (adrift : fleet.Adrift number) (other : Nat) (signal : Signal) :
    (fleet.signal other signal).2.Adrift number := by
  simpa [Adrift] using adrift

theorem Adrift.unfollow (adrift : fleet.Adrift number) (id : ServerId) :
    (fleet.unfollow id).Adrift number := by
  refine ⟨adrift.1, fun other hother => ?_⟩
  rw [Fleet.unfollow, Index.get?_erase] at hother
  split at hother
  next => simp at hother
  next => exact adrift.2 other hother

/-- The channel of a server that has just been taken out of the list follows no other one. -/
theorem Charted.adrift_unfollow (h : fleet.Charted)
    (htracked : fleet.tracked.get? id = some number) :
    (fleet.unfollow id).Adrift number := by
  obtain ⟨channel, hchannel, -⟩ := h.mapped htracked
  refine ⟨h.numbered hchannel, fun other hother => ?_⟩
  rw [Fleet.unfollow, Index.get?_erase] at hother
  split at hother
  next => simp at hother
  next hne => exact hne (h.eq_of_mapped hother htracked)

/-- If a server is not served, the channel that follows it is cancelled. -/
theorem Charted.cancelled_of_unserved {channel : Channel} (h : fleet.Charted)
    (unserved : fleet.isServed id = false) (htracked : fleet.tracked.get? id = some number)
    (present : fleet.channels.get? number = some channel) : channel.cancelled = true := by
  have hfinished : channel.isFinished = true := by
    simpa [isServed, channel?, htracked, present] using unserved
  exact (h.orderly present).finished (Channel.isFinished_iff.mp hfinished)

theorem isServed_eq_false_iff : fleet.isServed id = false ↔
    ∀ channel, fleet.channel? id = some channel → channel.isFinished = true := by
  unfold isServed
  split
  next channel heq => simp [heq]
  next heq => simp [heq]

/-- The channel of a followed server, after something has happened to some channel. -/
theorem channel?_of_signal {signal : Signal} {next : Channel}
    (present : (fleet.signal number signal).2.channel? id = some next) :
    ∃ channel, fleet.channel? id = some channel ∧
      (next = channel ∨ next = (channel.step signal).1) := by
  obtain ⟨own, htracked, hnext⟩ := Option.bind_eq_some_iff.mp present
  rw [tracked_signal] at htracked
  rw [get?_signal] at hnext
  split at hnext
  next =>
    obtain ⟨channel, hchannel, rfl⟩ := Option.map_eq_some_iff.mp hnext
    exact ⟨channel, by simp [channel?, htracked, hchannel], .inr rfl⟩
  next => exact ⟨next, by simp [channel?, htracked, hnext], .inl rfl⟩

/-- A channel that is not cancelled after something has happened was not cancelled before, and it
is not the one that has been cancelled. -/
theorem exists_active_of_signal {signal : Signal} {next : Channel}
    (present : (fleet.signal number signal).2.channels.get? other = some next)
    (active : next.cancelled = false) :
    ∃ channel, fleet.channels.get? other = some channel ∧ channel.cancelled = false ∧
      channel.server = next.server ∧ (signal = .cancel → other ≠ number) := by
  rw [get?_signal] at present
  split at present
  next =>
    obtain ⟨channel, hchannel, rfl⟩ := Option.map_eq_some_iff.mp present
    have steps := channel.steps_step signal
    refine ⟨channel, hchannel, ?_, steps.server.symm, ?_⟩
    · rw [← Bool.not_eq_true]
      intro cancelled
      simp [steps.cancelled cancelled] at active
    · rintro rfl
      simp [channel.cancelled_cancel] at active
  next hother => exact ⟨next, present, active, rfl, fun _ => hother⟩

/-- What is not served is not served by anything that happens to a channel. -/
theorem isServed_signal (unserved : fleet.isServed id = false) (number : Nat) (signal : Signal) :
    (fleet.signal number signal).2.isServed id = false := by
  rw [isServed_eq_false_iff] at unserved ⊢
  intro next present
  obtain ⟨channel, hchannel, rfl | rfl⟩ := channel?_of_signal present
  · exact unserved _ hchannel
  · have hfinished := Channel.isFinished_iff.mp (unserved channel hchannel)
    exact Channel.isFinished_iff.mpr ((channel.steps_step signal).finished hfinished).1

end Fleet

/-- What a caller is told. -/
inductive Answer where
  /-- Whether a channel has been set up for a server. -/
  | tracked (server : Server) (accepted : Bool)
  /-- Whether a server was followed that is not followed any more. -/
  | untracked (id : ServerId) (found : Bool)
  /-- Whether anything was known of a server that nothing is known of any more. -/
  | invalidated (id : ServerId) (known : Bool)
  | listed (servers : List Tracking)

/-- How far a shutdown has got that waits for channels. -/
structure Closing where
  /-- The channels of the servers that were followed when it took them out of the list. -/
  found : List Nat
  /-- Those of them that it has not seen finished yet. -/
  awaited : List Nat

/-- A report that a channel has written down, until the channel goes on. -/
structure Bulletin where
  /-- What the channel has been answered. -/
  signal : Signal
  report : Report
  published : Bool

/-- A fleet in the middle of the calls of many callers. -/
structure Harbour where
  fleet : Fleet
  /-- The server that some caller is about to set up a channel for. This caller has the followed
  servers to itself until it has done so. -/
  entering : Option Server
  /-- The channels of servers that are not followed any more, as long as they are not cancelled. -/
  leaving : List Nat
  closing : Option Closing
  /-- The reports that channels have in hand, by number. -/
  bulletins : Index Nat Bulletin
  /-- What callers have been told, in the order in which their calls took effect. -/
  answers : List Answer
  /-- Each effect of a channel with its number, the oldest first. -/
  log : List (Nat × Effect)

namespace Harbour

/-- A fleet that follows no server, and no caller. -/
def start (settings : ChannelSettings) : Harbour :=
  ⟨.create settings, none, [], none, .empty, [], []⟩

/-- What may happen in a harbour. -/
inductive Move where
  /-- A caller that wants a server to be followed looks whether it is served. -/
  | hail (server : Server)
  /-- The caller sets up the channel of a server that it has found unserved. -/
  | launch
  /-- A caller takes a server out of the list. -/
  | unfollow (id : ServerId)
  /-- The channel of a server that was taken out of the list is cancelled. -/
  | dismiss (number : Nat)
  | invalidate (id : ServerId)
  | list
  /-- The fleet is stopped. -/
  | stop
  /-- The channel of a number learns that the fleet is stopped. -/
  | reach (number : Nat)
  /-- The shutdown takes all servers out of the list. -/
  | drain
  /-- The shutdown sees that the channel of a number is finished. -/
  | await (number : Nat)
  /-- Something other than a cancellation happens to the channel of a number, unless the channel
  has a report in hand. If it tells a report about that, it only writes it down. -/
  | happen (number : Nat) (signal : Signal)
  /-- The channel of a number publishes the report that it has in hand. -/
  | publish (number : Nat)
  /-- The channel of a number goes on after it has told its report. -/
  | proceed (number : Nat)

/-- Something happens to the channel of a number. -/
def signal (h : Harbour) (number : Nat) (signal : Signal) : Harbour :=
  { h with
    fleet := (h.fleet.signal number signal).2
    log := h.log ++ h.fleet.reaction number signal }

/-- The channel of a number writes down a report on its server. -/
def write (h : Harbour) (number : Nat) (id : ServerId) (signal : Signal) (report : Report) :
    Harbour :=
  { h with
    fleet := h.fleet.write id report
    bulletins := h.bulletins.insert number ⟨signal, report, false⟩
    log := h.log ++ [(number, .write report)] }

/-- The channel of a number publishes the report that it has in hand. -/
def publish (h : Harbour) (number : Nat) (bulletin : Bulletin) : Harbour :=
  { h with
    bulletins := h.bulletins.insert number { bulletin with published := true }
    log := h.log ++ [(number, .publish bulletin.report)] }

/-- The channel of a number goes on, with no report in hand any more. -/
def proceed (h : Harbour) (number : Nat) (bulletin : Bulletin) : Harbour :=
  { h with
    fleet := h.fleet.proceed number bulletin.signal
    bulletins := h.bulletins.erase number
    log := h.log ++ h.fleet.sequel number bulletin.signal }

/-- A caller is told something. -/
def tell (h : Harbour) (answer : Answer) : Harbour := { h with answers := h.answers ++ [answer] }

/-- One move, or `none` if it cannot be made. -/
def step (move : Move) (h : Harbour) : Option Harbour :=
  match move with
  | .hail server =>
    if h.entering.isSome then none
    else if h.fleet.isServed server.id then some (h.tell (.tracked server false))
    else some { h with entering := some server }
  | .launch =>
    h.entering.map fun server =>
      { h with fleet := h.fleet.launch server, entering := none }.tell (.tracked server true)
  | .unfollow id =>
    if h.entering.isSome then none
    else
      match h.fleet.tracked.get? id with
      | none => some (h.tell (.untracked id false))
      | some number =>
        some ({ h with fleet := h.fleet.unfollow id, leaving := number :: h.leaving }.tell
          (.untracked id true))
  | .dismiss number =>
    if number ∈ h.leaving then
      some { h.signal number .cancel with leaving := h.leaving.erase number }
    else none
  | .invalidate id =>
    some ({ h with fleet := (h.fleet.invalidate id).2 }.tell
      (.invalidated id (h.fleet.invalidate id).1))
  | .list => if h.entering.isSome then none else some (h.tell (.listed h.fleet.list))
  | .stop => some { h with fleet := h.fleet.stop }
  | .reach number => if h.fleet.stopped then some (h.signal number .cancel) else none
  | .drain =>
    if h.entering.isNone ∧ h.closing.isNone ∧ h.fleet.stopped then
      some { h with
        fleet := h.fleet.drain.2, closing := some ⟨h.fleet.drain.1, h.fleet.drain.1⟩ }
    else none
  | .await number =>
    h.closing.bind fun closing =>
      if number ∈ closing.awaited ∧ h.fleet.areFinished [number] then
        some { h with closing := some { closing with awaited := closing.awaited.erase number } }
      else none
  | .happen _ .cancel => none
  | .happen number signal =>
    if (h.bulletins.get? number).isSome then none
    else
      match h.fleet.report? number signal with
      | some (id, report) => some (h.write number id signal report)
      | none => some (h.signal number signal)
  | .publish number =>
    (h.bulletins.get? number).bind fun bulletin =>
      if bulletin.published then none else some (h.publish number bulletin)
  | .proceed number =>
    (h.bulletins.get? number).bind fun bulletin =>
      if bulletin.published then some (h.proceed number bulletin) else none

/-- Moves made one after the other. -/
abbrev Run : Harbour → List Move → Harbour → Prop := Flotilla.Run step

/-- All that a move can come to. -/
inductive Steps (h : Harbour) : Move → Harbour → Prop where
  | refuse {server} (free : h.entering = none) (served : h.fleet.isServed server.id = true) :
      Steps h (.hail server) (h.tell (.tracked server false))
  | enter {server} (free : h.entering = none) (unserved : h.fleet.isServed server.id = false) :
      Steps h (.hail server) { h with entering := some server }
  | launch {server} (entering : h.entering = some server) :
      Steps h .launch
        ({ h with fleet := h.fleet.launch server, entering := none }.tell (.tracked server true))
  | miss {id} (free : h.entering = none) (absent : h.fleet.tracked.get? id = none) :
      Steps h (.unfollow id) (h.tell (.untracked id false))
  | unfollow {id number} (free : h.entering = none)
      (followed : h.fleet.tracked.get? id = some number) :
      Steps h (.unfollow id)
        ({ h with fleet := h.fleet.unfollow id, leaving := number :: h.leaving }.tell
          (.untracked id true))
  | dismiss {number} (left : number ∈ h.leaving) :
      Steps h (.dismiss number)
        { h.signal number .cancel with leaving := h.leaving.erase number }
  | invalidate (id) :
      Steps h (.invalidate id)
        ({ h with fleet := (h.fleet.invalidate id).2 }.tell
          (.invalidated id (h.fleet.invalidate id).1))
  | list (free : h.entering = none) : Steps h .list (h.tell (.listed h.fleet.list))
  | stop : Steps h .stop { h with fleet := h.fleet.stop }
  | reach {number} (stopped : h.fleet.stopped = true) :
      Steps h (.reach number) (h.signal number .cancel)
  | drain (free : h.entering = none) (first : h.closing = none)
      (stopped : h.fleet.stopped = true) :
      Steps h .drain
        { h with fleet := h.fleet.drain.2, closing := some ⟨h.fleet.drain.1, h.fleet.drain.1⟩ }
  | await {number closing} (waiting : h.closing = some closing) (awaited : number ∈ closing.awaited)
      (finished : h.fleet.areFinished [number] = true) :
      Steps h (.await number)
        { h with closing := some { closing with awaited := closing.awaited.erase number } }
  | happen {number signal} (uncancelled : signal ≠ .cancel) (idle : h.bulletins.get? number = none)
      (silent : h.fleet.report? number signal = none) :
      Steps h (.happen number signal) (h.signal number signal)
  | write {number signal id report} (idle : h.bulletins.get? number = none)
      (tells : h.fleet.report? number signal = some (id, report)) :
      Steps h (.happen number signal) (h.write number id signal report)
  | publish {number bulletin} (held : h.bulletins.get? number = some bulletin)
      (unpublished : bulletin.published = false) :
      Steps h (.publish number) (h.publish number bulletin)
  | proceed {number bulletin} (held : h.bulletins.get? number = some bulletin)
      (published : bulletin.published = true) :
      Steps h (.proceed number) (h.proceed number bulletin)

variable {h next : Harbour} {move : Move} {moves : List Move}

theorem step_happen {number : Nat} {signal : Signal} (uncancelled : signal ≠ .cancel) :
    step (.happen number signal) h =
      if (h.bulletins.get? number).isSome then none
      else
        match h.fleet.report? number signal with
        | some (id, report) => some (h.write number id signal report)
        | none => some (h.signal number signal) := by
  cases signal with
  | cancel => exact absurd rfl uncancelled
  | _ => rfl

/-- Every move comes to one of those things. -/
theorem steps_of_step (stepped : step move h = some next) : h.Steps move next := by
  cases move with
  | hail server =>
      obtain ⟨hbusy, hnext⟩ := Option.ite_none_left_eq_some.mp stepped
      have hfree : h.entering = none := by simpa using hbusy
      split at hnext
      next hserved =>
        obtain rfl := Option.some.inj hnext
        exact .refuse hfree hserved
      next hunserved =>
        obtain rfl := Option.some.inj hnext
        exact .enter hfree (by simpa using hunserved)
  | launch =>
      obtain ⟨server, hentering, rfl⟩ := Option.map_eq_some_iff.mp stepped
      exact .launch hentering
  | unfollow id =>
      obtain ⟨hbusy, hnext⟩ := Option.ite_none_left_eq_some.mp stepped
      have hfree : h.entering = none := by simpa using hbusy
      split at hnext
      next habsent =>
        obtain rfl := Option.some.inj hnext
        exact .miss hfree habsent
      next number hfollowed =>
        obtain rfl := Option.some.inj hnext
        exact .unfollow hfree hfollowed
  | dismiss number =>
      obtain ⟨hleft, hnext⟩ := Option.ite_none_right_eq_some.mp stepped
      obtain rfl := Option.some.inj hnext
      exact .dismiss hleft
  | invalidate id =>
      obtain rfl := Option.some.inj stepped
      exact .invalidate id
  | list =>
      obtain ⟨hbusy, hnext⟩ := Option.ite_none_left_eq_some.mp stepped
      obtain rfl := Option.some.inj hnext
      exact .list (by simpa using hbusy)
  | stop =>
      obtain rfl := Option.some.inj stepped
      exact .stop
  | reach number =>
      obtain ⟨hstopped, hnext⟩ := Option.ite_none_right_eq_some.mp stepped
      obtain rfl := Option.some.inj hnext
      exact .reach hstopped
  | drain =>
      obtain ⟨⟨hfree, hfirst, hstopped⟩, hnext⟩ := Option.ite_none_right_eq_some.mp stepped
      obtain rfl := Option.some.inj hnext
      exact .drain (by simpa using hfree) (by simpa using hfirst) hstopped
  | await number =>
      obtain ⟨closing, hwaiting, hguarded⟩ := Option.bind_eq_some_iff.mp stepped
      obtain ⟨⟨hawaited, hfinished⟩, hnext⟩ := Option.ite_none_right_eq_some.mp hguarded
      obtain rfl := Option.some.inj hnext
      exact .await hwaiting hawaited hfinished
  | happen number signal =>
      have uncancelled : signal ≠ .cancel := by
        rintro rfl
        simp [step] at stepped
      rw [step_happen uncancelled] at stepped
      obtain ⟨hbusy, hnext⟩ := Option.ite_none_left_eq_some.mp stepped
      have hidle : h.bulletins.get? number = none := by simpa using hbusy
      split at hnext
      next id report htells =>
        obtain rfl := Option.some.inj hnext
        exact .write hidle htells
      next hsilent =>
        obtain rfl := Option.some.inj hnext
        exact .happen uncancelled hidle hsilent
  | publish number =>
      obtain ⟨bulletin, hheld, hguarded⟩ := Option.bind_eq_some_iff.mp stepped
      obtain ⟨hunpublished, hnext⟩ := Option.ite_none_left_eq_some.mp hguarded
      obtain rfl := Option.some.inj hnext
      exact .publish hheld (by simpa using hunpublished)
  | proceed number =>
      obtain ⟨bulletin, hheld, hguarded⟩ := Option.bind_eq_some_iff.mp stepped
      obtain ⟨hpublished, hnext⟩ := Option.ite_none_right_eq_some.mp hguarded
      obtain rfl := Option.some.inj hnext
      exact .proceed hheld hpublished

/-- If nobody comes in between, the parts of a report come to what the fleet does at once. -/
theorem run_report {number : Nat} {id : ServerId} {signal : Signal} {report : Report}
    (uncancelled : signal ≠ .cancel) (idle : h.bulletins.get? number = none)
    (tells : h.fleet.report? number signal = some (id, report)) :
    Run h [.happen number signal, .publish number, .proceed number] (h.signal number signal) := by
  let written := h.write number id signal report
  let published := written.publish number ⟨signal, report, false⟩
  have hwrite : step (.happen number signal) h = some written := by
    simp [step_happen uncancelled, idle, tells, written]
  have hpublish : step (.publish number) written = some published := by
    simp [step, written, write, published]
  have hproceed : step (.proceed number) published = some (h.signal number signal) := by
    obtain ⟨hfleet, hlog⟩ := Fleet.signal_eq tells
    have hbulletins :
        (published.proceed number ⟨signal, report, true⟩).bulletins = h.bulletins := by
      refine Index.ext_get? fun other => ?_
      by_cases heq : other = number
      · simp [proceed, heq, idle]
      · simp [proceed, published, publish, written, write, heq]
    have hend : published.proceed number ⟨signal, report, true⟩ = h.signal number signal := by
      rw [Harbour.signal, hfleet, hlog, ← hbulletins]
      simp [proceed, published, publish, written, write]
    rw [← hend]
    simp [step, published, publish]
  exact .cons hwrite (.cons hpublish (.cons hproceed (.nil _)))

/-- What holds in a harbour at any time. -/
structure Sound (h : Harbour) : Prop where
  charted : h.fleet.Charted
  /-- What a caller has seen stays true until it sets up its channel. -/
  unserved : ∀ server ∈ h.entering, h.fleet.isServed server.id = false
  unmapped : ∀ number ∈ h.leaving, h.fleet.Adrift number
  /-- A channel follows its server until it is cancelled, or someone is about to cancel it. -/
  attended : ∀ {number channel}, h.fleet.channels.get? number = some channel →
    channel.cancelled = false → h.fleet.tracked.get? channel.server.id = some number ∨
      number ∈ h.leaving ∨ h.fleet.stopped = true
  /-- A channel that has a report in hand has done nothing else about its answer yet. -/
  current : ∀ {number bulletin}, h.bulletins.get? number = some bulletin →
    ∃ channel, h.fleet.channels.get? number = some channel ∧
      channel.report? bulletin.signal = some bulletin.report

theorem sound_start (settings : ChannelSettings) : (start settings).Sound := by
  refine ⟨Fleet.charted_create settings, ?_, ?_, ?_, ?_⟩
  all_goals simp [start, Fleet.create]

/-- Nothing is told about a cancellation. -/
theorem Sound.uncancelled (sound : h.Sound) {number : Nat} {bulletin : Bulletin}
    (held : h.bulletins.get? number = some bulletin) : bulletin.signal ≠ .cancel := by
  obtain ⟨channel, -, hreport⟩ := sound.current held
  obtain ⟨_, _, _, -, answers⟩ := Channel.report?_eq_some_iff.mp hreport
  exact answers.uncancelled

/-- A channel that follows no server stays so. -/
theorem Steps.adrift {number : Nat} (steps : h.Steps move next) (charted : h.fleet.Charted)
    (adrift : h.fleet.Adrift number) : next.fleet.Adrift number := by
  cases steps with
  | launch => exact adrift.launch charted _
  | unfollow => exact adrift.unfollow _
  | dismiss | reach | happen | proceed => exact adrift.signal _ _
  | drain => exact ⟨adrift.1, by simp [Fleet.drain]⟩
  | _ => exact adrift

theorem Steps.charted (steps : h.Steps move next) (sound : h.Sound) : next.fleet.Charted := by
  cases steps with
  | launch => exact sound.charted.launch _
  | unfollow => exact sound.charted.unfollow _
  | dismiss left => exact sound.charted.signal fun _ => .inr (sound.unmapped _ left).2
  | invalidate id => exact sound.charted.invalidate id
  | stop => exact sound.charted.stop
  | reach stopped => exact sound.charted.signal fun _ => .inl stopped
  | drain => exact sound.charted.drain
  | happen uncancelled => exact sound.charted.signal fun hcancel => absurd hcancel uncancelled
  | write => exact sound.charted.write _ _
  | proceed held => exact sound.charted.proceed (sound.uncancelled held)
  | _ => exact sound.charted

theorem Steps.unserved (steps : h.Steps move next) (sound : h.Sound) :
    ∀ server ∈ next.entering, next.fleet.isServed server.id = false := by
  cases steps with
  | enter free unserved =>
      intro server hserver
      obtain rfl := Option.some.inj hserver
      exact unserved
  | launch => simp [tell]
  | unfollow free => simp [tell, free]
  | drain free => simp [free]
  | dismiss | reach | happen | proceed =>
      exact fun server hentering => Fleet.isServed_signal (sound.unserved server hentering) _ _
  | _ => exact sound.unserved

theorem Steps.unmapped (steps : h.Steps move next) (sound : h.Sound) :
    ∀ number ∈ next.leaving, next.fleet.Adrift number := by
  have kept (number : Nat) (left : number ∈ h.leaving) : next.fleet.Adrift number :=
    steps.adrift sound.charted (sound.unmapped number left)
  cases steps with
  | unfollow free followed =>
      intro number hleaving
      rcases List.mem_cons.mp hleaving with rfl | hleaving
      · exact sound.charted.adrift_unfollow followed
      · exact kept number hleaving
  | dismiss => exact fun number hleaving => kept number (List.mem_of_mem_erase hleaving)
  | _ => exact kept

/-- Whoever takes a channel off the list is about to cancel it. Once its server is not served any
more, it has been cancelled, so a channel that is followed anew is never in the way. -/
theorem Steps.attended {number : Nat} {channel : Channel} (steps : h.Steps move next)
    (sound : h.Sound) (present : next.fleet.channels.get? number = some channel)
    (active : channel.cancelled = false) :
    next.fleet.tracked.get? channel.server.id = some number ∨ number ∈ next.leaving ∨
      next.fleet.stopped = true := by
  have signalled {other : Nat} {signal : Signal}
      (present : (h.fleet.signal other signal).2.channels.get? number = some channel) :
      (signal = .cancel → number ≠ other) ∧
        (h.fleet.tracked.get? channel.server.id = some number ∨ number ∈ h.leaving ∨
          h.fleet.stopped = true) := by
    obtain ⟨before, hbefore, hactive, hserver, hother⟩ :=
      Fleet.exists_active_of_signal present active
    exact ⟨hother, hserver ▸ sound.attended hbefore hactive⟩
  cases steps with
  | @launch server entering =>
      rcases Fleet.get?_of_launch present with ⟨rfl, rfl⟩ | ⟨-, hchannel⟩
      · exact .inl (by simp [tell, Fleet.launch, Channel.create])
      · rcases sound.attended hchannel active with htracked | hrest
        · have hother : channel.server.id ≠ server.id := by
            intro same
            have hcancelled := sound.charted.cancelled_of_unserved
              (sound.unserved server entering) (same ▸ htracked) hchannel
            simp [hcancelled] at active
          exact .inl (by simpa [tell, Fleet.launch, hother] using htracked)
        · exact .inr hrest
  | @unfollow id own free followed =>
      rcases sound.attended present active with htracked | hleaving | hstopped
      · by_cases hid : channel.server.id = id
        · rw [hid, followed] at htracked
          exact .inr (.inl (Option.some.inj htracked ▸ List.mem_cons_self))
        · exact .inl (by simpa [tell, Fleet.unfollow, hid] using htracked)
      · exact .inr (.inl (List.mem_cons_of_mem _ hleaving))
      · exact .inr (.inr hstopped)
  | dismiss left =>
      obtain ⟨hother, hattended⟩ := signalled present
      simpa [Harbour.signal, List.mem_erase_of_ne (hother rfl)] using hattended
  | reach stopped => exact .inr (.inr (by simpa [Harbour.signal] using stopped))
  | stop => exact .inr (.inr rfl)
  | drain free first stopped => exact .inr (.inr stopped)
  | happen | proceed =>
      simpa [Harbour.signal, Harbour.proceed, Fleet.proceed] using (signalled present).2
  | _ => exact sound.attended present active

theorem Steps.current {number : Nat} {bulletin : Bulletin} (steps : h.Steps move next)
    (sound : h.Sound) (held : next.bulletins.get? number = some bulletin) :
    ∃ channel, next.fleet.channels.get? number = some channel ∧
      channel.report? bulletin.signal = some bulletin.report := by
  have cancelled (other : Nat) (held : h.bulletins.get? number = some bulletin) :
      ∃ channel, (h.fleet.signal other .cancel).2.channels.get? number = some channel ∧
        channel.report? bulletin.signal = some bulletin.report := by
    obtain ⟨channel, hchannel, hreport⟩ := sound.current held
    rw [Fleet.get?_signal, hchannel]
    split
    next => exact ⟨_, rfl, Channel.report?_cancel hreport⟩
    next => exact ⟨channel, rfl, hreport⟩
  have spared {other : Nat} {signal : Signal} (hother : number ≠ other)
      (held : h.bulletins.get? number = some bulletin) :
      ∃ channel, (h.fleet.signal other signal).2.channels.get? number = some channel ∧
        channel.report? bulletin.signal = some bulletin.report := by
    rw [Fleet.get?_signal, if_neg hother]
    exact sound.current held
  cases steps with
  | launch =>
      obtain ⟨channel, hchannel, hreport⟩ := sound.current held
      exact ⟨channel, sound.charted.get?_launch _ hchannel, hreport⟩
  | dismiss | reach => exact cancelled _ held
  | happen uncancelled idle =>
      refine spared ?_ held
      rintro rfl
      simp [Harbour.signal, idle] at held
  | @write other signal id report idle tells =>
      rw [Harbour.write, Index.get?_insert] at held
      split at held
      next heq =>
        obtain rfl := Option.some.inj held
        obtain ⟨channel, hchannel, -, hreport⟩ := Fleet.report?_eq_some.mp tells
        exact ⟨channel, heq ▸ hchannel, hreport⟩
      next => exact sound.current held
  | @publish other before hbefore =>
      have hcurrent := sound.current hbefore
      rw [Harbour.publish, Index.get?_insert] at held
      split at held
      next heq =>
        obtain rfl := Option.some.inj held
        exact heq ▸ hcurrent
      next => exact sound.current held
  | @proceed other before =>
      rw [Harbour.proceed, Index.get?_erase] at held
      split at held
      next => simp at held
      next hother => exact spared hother held
  | _ => exact sound.current held

theorem Sound.step (sound : h.Sound) (steps : h.Steps move next) : next.Sound :=
  ⟨steps.charted sound, steps.unserved sound, steps.unmapped sound, steps.attended sound,
    steps.current sound⟩

/-- A harbour stays sound, whatever its callers do. -/
theorem Run.sound (run : Run h moves next) (sound : h.Sound) : next.Sound :=
  run.invariant (fun _ _ _ _ sound stepped => sound.step (steps_of_step stepped)) sound

/-- Whatever each move preserves in a sound harbour, a run preserves. -/
theorem Run.preserves {P : Harbour → Prop} (run : Run h moves next) (sound : h.Sound)
    (preserved : ∀ {h move next}, Steps h move next → h.Sound → P h → P next) (holds : P h) :
    P next := by
  have both : next.Sound ∧ P next := by
    refine run.invariant (P := fun h => h.Sound ∧ P h) ?_ ⟨sound, holds⟩
    rintro _ - _ _ ⟨sound, holds⟩ stepped
    have hsteps := steps_of_step stepped
    exact ⟨sound.step hsteps, preserved hsteps sound holds⟩
  exact both.2

theorem Run.adrift {number : Nat} (run : Run h moves next) (sound : h.Sound)
    (adrift : h.fleet.Adrift number) : next.fleet.Adrift number :=
  run.preserves (P := fun h => h.fleet.Adrift number) sound
    (fun hsteps sound adrift => hsteps.adrift sound.charted adrift) adrift

end Harbour

end Flotilla
