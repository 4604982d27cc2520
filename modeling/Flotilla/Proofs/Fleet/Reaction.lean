import Flotilla.Fleet
import Flotilla.Proofs.Channel.Journal

/-!
# What a fleet does about a signal

When something happens to a channel, the other channels are left alone, and what is known of the
servers changes only by what this channel tells. To tell a report is to write it down, to publish it
and to go on, and others may come between these parts. `signal_eq` says that the parts come to what
`Fleet.signal` does at once; `report?_cancel` says why they still do so if the channel is cancelled
in between: a channel tells what it is answered, cancelled or not.
-/

namespace Flotilla

namespace Report

/-- A report that is written down makes its server known. -/
theorem snapshot_write_ne_none (report : Report) (id : ServerId) (store : StatusStore) :
    (report.write id store).snapshot id ≠ none := by
  cases report <;> simp [write, StatusStore.setPlayers, StatusStore.setBans]

end Report

namespace Signal

/-- A question does not end by a cancellation. -/
theorem Answers.uncancelled {signal : Signal} {errand : Errand} {id : Nat} {report : Report}
    (h : signal.Answers errand id report) : signal ≠ .cancel := by
  rintro rfl
  obtain ⟨result, ended, -⟩ := h
  simp [ending?] at ended

end Signal

namespace Channel

variable {c next : Channel} {effects : List Effect} {signal : Signal} {report : Report}

/-- To be cancelled is nothing to tell of. -/
theorem Steps.silent_of_cancel (h : Steps c .cancel effects next) :
    ∀ effect ∈ effects, effect.tells = false := by
  rcases h.tells with silent | ⟨_, _, _, _, _, -, answers, -, -⟩
  · exact silent
  · exact absurd rfl answers.uncancelled

/-- A question that is under way goes on when its channel is cancelled. -/
theorem Steps.asking_of_cancel {connection : Connection} {awaiting : Connection.Awaiting}
    {errand : Errand} (h : Steps c .cancel effects next)
    (asking : c.activity = .asking connection awaiting errand) :
    next.activity = .asking connection awaiting errand := by
  cases h with
  | ignore | heed => exact asking
  | stop idle => simp [asking] at idle
  | miss connecting => simp [asking] at connecting
  | keep uncancelled => exact absurd rfl uncancelled
  | seed _ ended | answer _ _ ended | excuse _ ended | lose _ ended =>
      simp [Signal.ending?] at ended
  | notice listening | drop listening => simp [asking] at listening
  | overhear uncancelled => exact absurd rfl uncancelled

/-- The report that a channel tells about a signal, if it tells one. -/
def report? (c : Channel) (signal : Signal) : Option Report :=
  match (c.step signal).2 with
  | .write report :: _ => some report
  | _ => none

theorem silent_of_report?_eq_none (h : c.report? signal = none) :
    ∀ effect ∈ (c.step signal).2, effect.tells = false := by
  rcases (c.steps_step signal).tells with silent | ⟨_, _, _, report, rest, -, -, heffects, -⟩
  · exact silent
  · simp [report?, heffects] at h

/-- A channel that tells a report writes it down, then publishes it, and tells nothing else. -/
theorem effects_of_report? (h : c.report? signal = some report) :
    ∃ rest, (c.step signal).2 = .write report :: .publish report :: rest ∧
      ∀ effect ∈ rest, effect.tells = false := by
  rcases (c.steps_step signal).tells with silent | ⟨_, _, _, told, rest, -, -, heffects, hrest⟩
  · unfold report? at h
    split at h
    next written rest heffects =>
      have hwritten := silent (.write written) (by simp [heffects])
      simp [Effect.tells] at hwritten
    next => simp at h
  · obtain rfl : told = report := by simpa [report?, heffects] using h
    exact ⟨rest, heffects, hrest⟩

/-- A channel tells what the question is answered that is under way. -/
theorem report?_eq_some_iff : c.report? signal = some report ↔
    ∃ connection awaiting errand, c.activity = .asking connection awaiting errand ∧
      signal.Answers errand awaiting.id report := by
  constructor
  · intro h
    obtain ⟨rest, heffects, -⟩ := effects_of_report? h
    rcases (c.steps_step signal).tells with
      silent | ⟨connection, awaiting, errand, told, _, asking, answers, htold, -⟩
    · have hwritten := silent (.write report) (by simp [heffects])
      simp [Effect.tells] at hwritten
    · obtain rfl : told = report := by simpa using (List.cons.inj (htold.symm.trans heffects)).1
      exact ⟨connection, awaiting, errand, asking, answers⟩
  · rintro ⟨connection, awaiting, errand, asking, answers⟩
    have htells := (c.steps_step signal).tells_of_answers asking answers
    cases hreport : c.report? signal with
    | none =>
        rw [Effect.filter_tells_of_silent (silent_of_report?_eq_none hreport)] at htells
        simp [Effect.telling] at htells
    | some told =>
        obtain ⟨rest, heffects, hrest⟩ := effects_of_report? hreport
        rw [heffects, Effect.filter_tells_answered told hrest] at htells
        simpa [Effect.telling] using htells

/-- What a channel is about to tell, it still tells after it is cancelled. -/
theorem report?_cancel (h : c.report? signal = some report) :
    (c.step .cancel).1.report? signal = some report := by
  obtain ⟨connection, awaiting, errand, asking, answers⟩ := report?_eq_some_iff.mp h
  have hasking := (c.steps_step .cancel).asking_of_cancel asking
  exact report?_eq_some_iff.mpr ⟨connection, awaiting, errand, hasking, answers⟩

end Channel

namespace Fleet

variable {fleet : Fleet} {number other : Nat} {id : ServerId}

/-- What the channel of a number does about a signal, as it is logged. -/
def reaction (fleet : Fleet) (number : Nat) (signal : Signal) : List (Nat × Effect) :=
  (fleet.signal number signal).1.map fun effect => (number, effect)

theorem get?_signal (fleet : Fleet) (number : Nat) (signal : Signal) (other : Nat) :
    (fleet.signal number signal).2.channels.get? other =
      if other = number then (fleet.channels.get? other).map fun c => (c.step signal).1
      else fleet.channels.get? other := by
  unfold Fleet.signal
  split
  next hnone =>
    split
    next heq => simp [heq, hnone]
    next => rfl
  next channel hsome =>
    rw [Index.get?_insert]
    split
    next heq => simp [heq, hsome]
    next => rfl

/-- A channel after something has happened to some channel: it has been left alone, or it has done
what it does about a signal. -/
theorem exists_of_signal {signal : Signal} {next : Channel}
    (present : (fleet.signal number signal).2.channels.get? other = some next) :
    ∃ channel, fleet.channels.get? other = some channel ∧
      (next = channel ∨ ∃ effects, channel.Steps signal effects next) := by
  rw [get?_signal] at present
  split at present
  next =>
    obtain ⟨channel, hchannel, rfl⟩ := Option.map_eq_some_iff.mp present
    exact ⟨channel, hchannel, .inr ⟨_, channel.steps_step signal⟩⟩
  next => exact ⟨next, present, .inl rfl⟩

theorem signal_of_absent (h : fleet.channels.get? number = none) (signal : Signal) :
    fleet.signal number signal = ([], fleet) := by
  simp [Fleet.signal, h]

theorem signal_fst {channel : Channel} (h : fleet.channels.get? number = some channel)
    (signal : Signal) : (fleet.signal number signal).1 = (channel.step signal).2 := by
  simp [Fleet.signal, h]

@[simp] theorem size_signal (fleet : Fleet) (number : Nat) (signal : Signal) :
    (fleet.signal number signal).2.channels.size = fleet.channels.size := by
  unfold Fleet.signal
  split
  next => rfl
  next channel hsome => simp [Index.size_insert, hsome]

@[simp] theorem stopped_signal (fleet : Fleet) (number : Nat) (signal : Signal) :
    (fleet.signal number signal).2.stopped = fleet.stopped := by
  unfold Fleet.signal
  split <;> rfl

/-- The server that the channel of a number belongs to. -/
def serverOf? (fleet : Fleet) (number : Nat) : Option ServerId :=
  (fleet.channels.get? number).map fun channel => channel.server.id

theorem serverOf?_eq_some : fleet.serverOf? number = some id ↔
    ∃ channel, fleet.channels.get? number = some channel ∧ channel.server.id = id :=
  Option.map_eq_some_iff

@[simp] theorem serverOf?_signal (fleet : Fleet) (other : Nat) (signal : Signal) (number : Nat) :
    (fleet.signal other signal).2.serverOf? number = fleet.serverOf? number := by
  have hserver (channel : Channel) : (channel.step signal).1.server = channel.server :=
    (channel.steps_step signal).server
  unfold serverOf?
  rw [get?_signal]
  split
  next => simp [Function.comp_def, hserver]
  next => rfl

section Store

/-- What is known changes only by what is told. -/
theorem foldl_record_of_silent {effects : List Effect}
    (silent : ∀ effect ∈ effects, effect.tells = false) (store : StatusStore) :
    effects.foldl (record id) store = store := by
  induction effects with
  | nil => rfl
  | cons effect rest ih =>
      obtain ⟨heffect, hrest⟩ := List.forall_mem_cons.mp silent
      have hrecord : record id store effect = store := by
        cases effect with
        | write report => simp [Effect.tells] at heffect
        | _ => rfl
      rw [List.foldl_cons, hrecord]
      exact ih hrest

theorem store_of_silent {signal : Signal}
    (silent : ∀ effect ∈ (fleet.signal number signal).1, effect.tells = false) :
    (fleet.signal number signal).2.store = fleet.store := by
  cases present : fleet.channels.get? number with
  | none => rw [signal_of_absent present]
  | some channel =>
      rw [signal_fst present] at silent
      simpa [Fleet.signal, present] using foldl_record_of_silent silent fleet.store

theorem silent_cancel (fleet : Fleet) (number : Nat) :
    ∀ effect ∈ (fleet.signal number .cancel).1, effect.tells = false := by
  cases present : fleet.channels.get? number with
  | none => simp [signal_of_absent present]
  | some channel =>
      rw [signal_fst present]
      exact (channel.steps_step .cancel).silent_of_cancel

@[simp] theorem store_cancel (fleet : Fleet) (number : Nat) :
    (fleet.signal number .cancel).2.store = fleet.store :=
  store_of_silent (fleet.silent_cancel number)

end Store

section Telling

variable {signal : Signal} {report : Report}

/-- The report that the channel of a number tells about a signal, and the server that it is about.
-/
def report? (fleet : Fleet) (number : Nat) (signal : Signal) : Option (ServerId × Report) :=
  (fleet.channels.get? number).bind fun channel =>
    (channel.report? signal).map fun report => (channel.server.id, report)

/-- A report is written down. -/
def write (fleet : Fleet) (id : ServerId) (report : Report) : Fleet :=
  { fleet with store := report.write id fleet.store }

/-- A channel does what is left to do about a signal after its report has been told. -/
def proceed (fleet : Fleet) (number : Nat) (signal : Signal) : Fleet :=
  { (fleet.signal number signal).2 with store := fleet.store }

/-- What a channel does about a signal besides telling. -/
def sequel (fleet : Fleet) (number : Nat) (signal : Signal) : List (Nat × Effect) :=
  (fleet.reaction number signal).filter fun entry => !entry.2.tells

theorem silent_sequel (fleet : Fleet) (number : Nat) (signal : Signal) :
    ∀ entry ∈ fleet.sequel number signal, entry.2.tells = false := by
  simp [sequel]

theorem report?_eq_some : fleet.report? number signal = some (id, report) ↔
    ∃ channel, fleet.channels.get? number = some channel ∧ channel.server.id = id ∧
      channel.report? signal = some report := by
  simp only [report?, Option.bind_eq_some_iff, Option.map_eq_some_iff, Prod.mk.injEq]
  constructor
  · rintro ⟨channel, hchannel, told, htold, hid, rfl⟩
    exact ⟨channel, hchannel, hid, htold⟩
  · rintro ⟨channel, hchannel, hid, hreport⟩
    exact ⟨channel, hchannel, report, hreport, hid, rfl⟩

theorem report?_of_answers {channel : Channel} {connection : Connection}
    {awaiting : Connection.Awaiting} {errand : Errand}
    (present : fleet.channels.get? number = some channel)
    (asking : channel.activity = .asking connection awaiting errand)
    (answers : signal.Answers errand awaiting.id report) :
    fleet.report? number signal = some (channel.server.id, report) :=
  report?_eq_some.mpr ⟨channel, present, rfl,
    Channel.report?_eq_some_iff.mpr ⟨connection, awaiting, errand, asking, answers⟩⟩

/-- A channel that tells no report leaves what is known alone. -/
theorem silent_of_report?_eq_none (h : fleet.report? number signal = none) :
    ∀ effect ∈ (fleet.signal number signal).1, effect.tells = false := by
  cases present : fleet.channels.get? number with
  | none => simp [signal_of_absent present]
  | some channel =>
      rw [signal_fst present]
      exact Channel.silent_of_report?_eq_none (by simpa [report?, present] using h)

theorem sequel_eq {channel : Channel} {rest : List Effect}
    (present : fleet.channels.get? number = some channel)
    (heffects : (channel.step signal).2 = .write report :: .publish report :: rest)
    (silent : ∀ effect ∈ rest, effect.tells = false) :
    fleet.sequel number signal = rest.map fun effect => (number, effect) := by
  have hrest : rest.filter (fun effect => !effect.tells) = rest :=
    List.filter_eq_self.mpr fun effect hmem => by simp [silent effect hmem]
  rw [sequel, reaction, signal_fst present, heffects, List.filter_map]
  exact congrArg (List.map _) hrest

/-- To tell a report is to write it down, to publish it and to go on. -/
theorem signal_eq (h : fleet.report? number signal = some (id, report)) :
    (fleet.signal number signal).2 = (fleet.write id report).proceed number signal ∧
      fleet.reaction number signal = (number, .write report) :: (number, .publish report) ::
        (fleet.write id report).sequel number signal := by
  obtain ⟨channel, present, rfl, hreport⟩ := report?_eq_some.mp h
  obtain ⟨rest, heffects, silent⟩ := Channel.effects_of_report? hreport
  have hwritten : (fleet.write channel.server.id report).channels.get? number = some channel :=
    present
  constructor
  · have hstore : rest.foldl (record channel.server.id)
        (report.write channel.server.id fleet.store) =
          report.write channel.server.id fleet.store :=
      foldl_record_of_silent silent _
    simp [Fleet.signal, proceed, write, present, heffects, record, hstore]
  · rw [sequel_eq hwritten heffects silent, reaction, signal_fst present, heffects]
    rfl

end Telling

/-- Sets up a channel for a server and follows it from now on. -/
def launch (fleet : Fleet) (server : Server) : Fleet :=
  { fleet with
    channels := fleet.channels.insert fleet.nextNumber
      (Channel.create server fleet.settings fleet.stopped)
    tracked := fleet.tracked.insert server.id fleet.nextNumber }

/-- To follow a server is to look whether it is served and then to set up a channel. -/
theorem track_eq (fleet : Fleet) (server : Server) :
    fleet.track server =
      if fleet.isServed server.id then (false, fleet) else (true, fleet.launch server) := rfl

/-- A channel of the fleet that has just been joined by another one. -/
theorem get?_of_launch {server : Server} {channel : Channel}
    (present : (fleet.launch server).channels.get? number = some channel) :
    number = fleet.nextNumber ∧ channel = Channel.create server fleet.settings fleet.stopped ∨
      number ≠ fleet.nextNumber ∧ fleet.channels.get? number = some channel := by
  rw [launch, Index.get?_insert] at present
  split at present
  next heq => exact .inl ⟨heq, (Option.some.inj present).symm⟩
  next hne => exact .inr ⟨hne, present⟩

end Fleet

end Flotilla
