import Flotilla.Proofs.Status.History

/-!
# The logbook of the fleet

The store of reports is shared by all channels and by everybody who invalidates a server. Whoever
changes it holds its lock in the meantime, and takes several steps: an entry is copied, the copy is
amended, and then the copy is put in the place of the entry. Others may look at the store between
any two of these steps.

A deed is done in the step in which the store changes. As the lock is held by one caller at a time,
the copy still is one of the entry that it takes the place of (`Act.Current`), so nothing that was
done in the meantime is lost: the store always is what the deeds that are done have made of it, in
the order in which the lock was taken.
-/

namespace Flotilla

namespace Logbook

/-- What the holder of the lock does next. -/
inductive Act where
  | copying (server : ServerId) (report : Report)
  | amending (server : ServerId) (report : Report) (entry : Status)
  | replacing (server : ServerId) (report : Report) (entry : Status)
  | removing (server : ServerId)
  | leaving

namespace Act

/-- What is done first for a deed. -/
def ofDeed : Deed → Act
  | .invalidate server => .removing server
  | .write server report => .copying server report

/-- The deed that is still to be done. -/
def deed? : Act → Option Deed
  | .copying server report | .amending server report _ | .replacing server report _ =>
    some (.write server report)
  | .removing server => some (.invalidate server)
  | .leaving => none

/-- The copy that is held is one of the entry that the store still has. -/
def Current (store : StatusStore) : Act → Prop
  | .amending server _ entry => entry = (store.snapshot server).getD .unknown
  | .replacing server report entry =>
    entry = report.amend ((store.snapshot server).getD .unknown)
  | _ => True

@[simp] theorem deed?_leaving : leaving.deed? = none := rfl

@[simp] theorem deed?_ofDeed (deed : Deed) : (ofDeed deed).deed? = some deed := by
  cases deed <;> rfl

theorem current_ofDeed (store : StatusStore) (deed : Deed) : (ofDeed deed).Current store := by
  cases deed <;> trivial

end Act

end Logbook

/-- The store behind its lock, who holds the lock, and which deeds are done. -/
structure Logbook where
  store : StatusStore
  holder : Option (Nat × Logbook.Act)
  /-- The deeds that are done and whose they are, the oldest first. -/
  done : List (Nat × Deed)

namespace Logbook

/-- A logbook with nothing in it. -/
def blank : Logbook := ⟨.empty, none, []⟩

/-- What may happen to a logbook. -/
inductive Move where
  /-- A caller takes the lock for a deed. -/
  | enter (caller : Nat) (deed : Deed)
  /-- The holder of the lock does what comes next. -/
  | proceed

/-- The call that begins with a move. -/
def Move.call? : Move → Option (Nat × Deed)
  | .enter caller deed => some (caller, deed)
  | .proceed => none

/-- What a caller who holds the lock makes of the logbook. -/
def proceed (book : Logbook) (caller : Nat) : Act → Logbook
  | .copying server report =>
    let entry := (book.store.snapshot server).getD .unknown
    { book with holder := some (caller, .amending server report entry) }
  | .amending server report entry =>
    { book with holder := some (caller, .replacing server report (report.amend entry)) }
  | .replacing server report entry =>
    ⟨⟨book.store.entries.insert server entry⟩, some (caller, .leaving),
      book.done ++ [(caller, .write server report)]⟩
  | .removing server =>
    ⟨book.store.invalidate server, some (caller, .leaving),
      book.done ++ [(caller, .invalidate server)]⟩
  | .leaving => { book with holder := none }

/-- One move, or `none` if it cannot be made. -/
def step : Move → Logbook → Option Logbook
  | .enter caller deed, book =>
    if book.holder.isNone then some { book with holder := some (caller, .ofDeed deed) } else none
  | .proceed, book => book.holder.map fun (caller, act) => book.proceed caller act

/-- Moves made one after the other. -/
abbrev Run : Logbook → List Move → Logbook → Prop := Flotilla.Run step

/-- The deeds that are done, whosever they are. -/
def deeds (book : Logbook) : List Deed := book.done.map Prod.snd

/-- The call that is under way and is not done yet. -/
def pending (book : Logbook) : Option (Nat × Deed) :=
  book.holder.bind fun (caller, act) => act.deed?.map fun deed => (caller, deed)

/-- All that a move can do to a logbook. -/
inductive Steps (book : Logbook) : Move → Logbook → Prop where
  | enter {caller deed} (unheld : book.holder = none) :
      Steps book (.enter caller deed) { book with holder := some (caller, .ofDeed deed) }
  /-- The holder keeps the lock, and the store is as it was. -/
  | prepare {caller act later} (held : book.holder = some (caller, act))
      (same : later.deed? = act.deed?)
      (current : act.Current book.store → later.Current book.store) :
      Steps book .proceed { book with holder := some (caller, later) }
  | fulfil {caller act deed store} (held : book.holder = some (caller, act))
      (due : act.deed? = some deed)
      (applied : act.Current book.store → store = deed.apply book.store) :
      Steps book .proceed ⟨store, some (caller, .leaving), book.done ++ [(caller, deed)]⟩
  | leave {caller} (held : book.holder = some (caller, .leaving)) :
      Steps book .proceed { book with holder := none }

/-- The state that every run keeps up. -/
structure Sound (book : Logbook) : Prop where
  store : book.store = .after book.deeds
  current : ∀ {caller act}, book.holder = some (caller, act) → act.Current book.store

variable {book next : Logbook} {move : Move} {moves : List Move} {server : ServerId}
  {key : StatusKey}

theorem steps_of_step (h : step move book = some next) : Steps book move next := by
  cases move with
  | enter caller deed =>
      obtain ⟨unheld, entered⟩ := Option.ite_none_right_eq_some.mp h
      obtain rfl := Option.some.inj entered
      exact .enter (Option.isNone_iff_eq_none.mp unheld)
  | proceed =>
      obtain ⟨⟨caller, act⟩, held, rfl⟩ := Option.map_eq_some_iff.mp h
      cases act with
      | copying server report => exact .prepare held rfl fun _ => rfl
      | amending server report entry => exact .prepare held rfl (congrArg report.amend)
      | replacing server report entry =>
          refine .fulfil held rfl fun current => ?_
          rw [current]
          exact (report.write_eq server book.store).symm
      | removing server => exact .fulfil held rfl fun _ => rfl
      | leaving => exact .leave held

theorem deeds_concat (store : StatusStore) (holder : Option (Nat × Act)) (done : List (Nat × Deed))
    (caller : Nat) (deed : Deed) :
    deeds ⟨store, holder, done ++ [(caller, deed)]⟩ = done.map Prod.snd ++ [deed] := by
  simp [deeds]

theorem sound_blank : blank.Sound := ⟨rfl, nofun⟩

theorem Sound.step (sound : book.Sound) (steps : Steps book move next) : next.Sound := by
  cases steps with
  | enter unheld =>
      refine ⟨sound.store, fun held => ?_⟩
      cases held
      exact Act.current_ofDeed _ _
  | prepare held same current =>
      refine ⟨sound.store, fun later => ?_⟩
      cases later
      exact current (sound.current held)
  | @fulfil caller act deed store held due applied =>
      refine ⟨?_, fun later => ?_⟩
      · rw [deeds_concat, StatusStore.after_concat]
        exact (applied (sound.current held)).trans (congrArg (Deed.apply · deed) sound.store)
      · cases later
        trivial
  | leave held => exact ⟨sound.store, nofun⟩

/-- A move begins a call, or leaves the calls alone. -/
theorem Steps.calls (steps : Steps book move next) :
    next.done ++ next.pending.toList =
      (book.done ++ book.pending.toList) ++ move.call?.toList := by
  cases steps with
  | enter unheld => simp [pending, unheld, Move.call?]
  | prepare held same current => simp [pending, held, same, Move.call?]
  | fulfil held due applied => simp [pending, held, due, Move.call?]
  | leave held => simp [pending, held, Move.call?]

theorem Steps.lost (steps : Steps book move next) (sound : book.Sound)
    (known : book.store.get? server key ≠ none) (unknown : next.store.get? server key = none) :
    ∃ caller, next.done = book.done ++ [(caller, .invalidate server)] := by
  cases steps with
  | @fulfil caller act deed store held due applied =>
      obtain rfl := applied (sound.current held)
      obtain ⟨report, hreport⟩ :=
        Option.ne_none_iff_exists'.mp (mt StatusStore.get?_eq_none_iff.mpr known)
      have hnone := StatusStore.get?_eq_none_iff.mp unknown
      rw [deed.known_apply, hreport] at hnone
      exact ⟨caller, by rw [Deed.eq_invalidate_of_settle hnone]⟩
  | _ => exact absurd unknown known

theorem Run.sound (run : Run book moves next) (sound : book.Sound) : next.Sound :=
  run.invariant (fun _ _ {_ _} sound stepped => sound.step (steps_of_step stepped)) sound

/-- The calls that a run begins are done in their order, but for the one that is under way. -/
theorem Run.calls (run : Run book moves next) :
    next.done ++ next.pending.toList =
      (book.done ++ book.pending.toList) ++ moves.filterMap Move.call? := by
  induction run with
  | nil => simp
  | @cons book move middle moves next stepped rest ih =>
      rw [ih, (steps_of_step stepped).calls]
      cases hcall : move.call? <;> simp [hcall]

/-- A caller who finds the lock free can do a deed and leave. -/
theorem exists_run_deed (unheld : book.holder = none) (deed : Deed) :
    ∃ moves next, Run book moves next ∧ next.holder = none ∧ next.deeds = book.deeds ++ [deed] := by
  have entered : step (.enter 0 deed) book = some { book with holder := some (0, .ofDeed deed) } :=
    if_pos (Option.isNone_iff_eq_none.mpr unheld)
  cases deed with
  | invalidate server =>
      exact ⟨[_, .proceed, .proceed], _, .cons entered (.cons rfl (.cons rfl (.nil _))), rfl,
        deeds_concat _ none _ _ _⟩
  | write server report =>
      exact ⟨[_, .proceed, .proceed, .proceed, .proceed], _,
        .cons entered (.cons rfl (.cons rfl (.cons rfl (.cons rfl (.nil _))))), rfl,
        deeds_concat _ none _ _ _⟩

/-- Any deeds can be done one after the other. -/
theorem exists_run (deeds : List Deed) :
    ∃ moves book, Run blank moves book ∧ book.holder = none ∧ book.deeds = deeds := by
  induction deeds using List.reverseRecOn with
  | nil => exact ⟨[], blank, .nil _, rfl, rfl⟩
  | append_singleton deeds deed ih =>
      obtain ⟨moves, book, run, unheld, rfl⟩ := ih
      obtain ⟨more, next, later, unheldToo, hdeeds⟩ := exists_run_deed unheld deed
      exact ⟨moves ++ more, next, run.append later, unheldToo, hdeeds⟩

/-- The last reports are kept. Whatever channels and other callers do to the store, in whatever
order their steps follow each other, every call is done once, in the order in which the lock was
taken, and at every moment the store keeps what the deeds that are done have left of the reports.
Independent deeds can change places: there is a run with the deeds in the other order, and every
such run leaves the same store. A list that is known becomes unknown in the step that invalidates
its server, and in no other one. -/
theorem last_reports_kept (run : Run blank moves book) :
    book.done ++ book.pending.toList = moves.filterMap Move.call? ∧
    book.store.Keeps book.deeds ∧
    (∀ others, Deed.Reordered book.deeds others →
      (∃ moves' book', Run blank moves' book' ∧ book'.holder = none ∧ book'.deeds = others) ∧
      ∀ moves' book', Run blank moves' book' → book'.deeds = others → book'.store = book.store) ∧
    ∀ move next server key, step move book = some next → book.store.get? server key ≠ none →
      next.store.get? server key = none →
        ∃ caller, next.done = book.done ++ [(caller, .invalidate server)] := by
  have sound := Run.sound run sound_blank
  refine ⟨run.calls, ?_, ?_, ?_⟩
  · rw [sound.store]
    exact StatusStore.keeps_after book.deeds
  · intro others reordered
    refine ⟨exists_run others, ?_⟩
    rintro moves' book' run' rfl
    rw [(Run.sound run' sound_blank).store, sound.store,
      StatusStore.after_eq_of_reordered reordered]
  · intro move next server key stepped
    exact (steps_of_step stepped).lost sound

/-- A caller invalidates a server between two reports of a channel. Only the second one is kept, and
an empty list is known as such. -/
theorem last_reports_kept_sample : ∃ moves book, Run blank moves book ∧ book.pending = none ∧
    moves.filterMap Move.call? = [(0, .write Sample.host.id (.bans [])),
      (1, .invalidate Sample.host.id), (0, .write Sample.host.id (.players []))] ∧
    (book.store.snapshot Sample.host.id).bind Status.players = some [] ∧
    book.store.get? Sample.host.id .bans = none := by
  let moves : List Move := [
    .enter 0 (.write Sample.host.id (.bans [])), .proceed, .proceed, .proceed, .proceed,
    .enter 1 (.invalidate Sample.host.id), .proceed, .proceed,
    .enter 0 (.write Sample.host.id (.players [])), .proceed, .proceed, .proceed, .proceed]
  have computed : (run? step moves blank).map (fun book => (book.pending, book.deeds)) =
      some (none, [.write Sample.host.id (.bans [])] ++ [.invalidate Sample.host.id] ++
        [.write Sample.host.id (.players [])]) := rfl
  obtain ⟨book, hrun, hseen⟩ := Option.map_eq_some_iff.mp computed
  obtain ⟨settled, hdeeds⟩ := Prod.mk.inj hseen
  have run := run?_iff.mp hrun
  obtain ⟨-, kept, -⟩ := last_reports_kept run
  rw [hdeeds] at kept
  refine ⟨moves, book, run, settled, rfl, ?_, ?_⟩
  · exact (kept.players _ _).mpr (lasting_concat_iff.mpr (.inl rfl))
  · refine (kept.unknown _ _).mpr fun lasting => ?_
    obtain ⟨report, about, hreport⟩ | ⟨earlier, -⟩ := lasting_concat_iff.mp lasting
    · cases hreport
      cases about
    · obtain ⟨report, -, hreport⟩ | ⟨-, undone⟩ := lasting_concat_iff.mp earlier
      · cases hreport
      · exact undone rfl

end Logbook

end Flotilla
