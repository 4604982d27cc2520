import Flotilla.Fleet
import Flotilla.Proofs.Channel.Telling
import Mathlib.Data.List.Induction

/-!
# Journals

The journal of a channel lists all that happens around it, beat by beat: what the channel
hears, what it does, and what anybody else does to what is known of the servers. Nothing in
the running program reads a journal. It only lets a statement speak of questions and answers
that are long gone.

The session of a journal are the beats since the channel showed last that it is connected.
A question and its answer always belong to one session, as a channel gives up its question
when it loses the connection.
-/

namespace Flotilla

namespace StatusKey

/-- The method that asks for a list. -/
def method : StatusKey → String
  | .players => Request.playersMethod
  | .bans => Request.bansMethod

theorem method_inj {a b : StatusKey} (h : a.method = b.method) : a = b := by
  cases a <;> cases b <;> first | rfl | exact absurd h (by decide)

end StatusKey

namespace Errand

/-- The list that an errand is about. -/
def key : Errand → StatusKey
  | .seedPlayers | .players => .players
  | .seedBans | .bans => .bans

theorem method_eq (errand : Errand) : errand.method = errand.key.method := by
  cases errand <;> rfl

end Errand

namespace Report

/-- The list that a report is of. -/
def key : Report → StatusKey
  | .players _ => .players
  | .bans _ => .bans

end Report

namespace Status

/-- What is known of a list, as the report that tells it. -/
def report? (status : Status) : StatusKey → Option Report
  | .players => status.players.map .players
  | .bans => status.bans.map .bans

end Status

namespace StatusStore

variable {store : StatusStore} {server : ServerId}

/-- What is known of a list of a server, as the report that tells it. -/
def known (store : StatusStore) (server : ServerId) (key : StatusKey) : Option Report :=
  (store.snapshot server).bind fun status => status.report? key

theorem known_players_eq_some_iff {list : List Player} :
    store.known server .players = some (.players list) ↔
      (store.snapshot server).bind Status.players = some list := by
  cases hsnapshot : store.snapshot server <;> simp [known, Status.report?, hsnapshot]

end StatusStore

namespace Report

/-- To write a report down makes its list known, and changes nothing that is known of the other
one. -/
theorem known_write (report : Report) (server : ServerId) (store : StatusStore) (key : StatusKey) :
    (report.write server store).known server key =
      if report.key = key then some report else store.known server key := by
  cases report <;> cases key <;> cases hsnapshot : store.snapshot server <;>
    simp [write, Report.key, StatusStore.known, StatusStore.setPlayers, StatusStore.setBans,
      Status.report?, Status.unknown, hsnapshot]

/-- To write a report down changes what is known of one server only. -/
theorem snapshot_write_of_ne {server s : ServerId} (report : Report) (store : StatusStore)
    (h : server ≠ s) : (report.write server store).snapshot s = store.snapshot s := by
  cases report <;> simp [write, StatusStore.setPlayers, StatusStore.setBans, Ne.symm h]

end Report

namespace Notification

/-- The list whose change is announced. -/
def key? : Notification → Option StatusKey
  | .playersJoined | .playersLeft => some .players
  | .bansAdded | .bansRemoved => some .bans
  | _ => none

end Notification

namespace Errand

variable {errand : Errand} {notification : Notification}

/-- What is read for an errand is a report of its list. -/
theorem key_of_report {result : Json} {report : Report}
    (h : errand.report? result = some report) : report.key = errand.key := by
  cases errand <;>
  · obtain ⟨list, -, rfl⟩ := Option.map_eq_some_iff.mp h
    rfl

/-- The errand that an announcement calls for is about the list that is announced. -/
theorem key?_eq_map (notification : Notification) :
    notification.key? = (ofNotification? notification).map key := by
  cases notification <;> rfl

/-- No announcement calls for what is done at the beginning of a session. -/
theorem ne_seedPlayers_of_notification (h : ofNotification? notification = some errand) :
    errand ≠ .seedPlayers := by
  rintro rfl
  cases notification <;> simp [ofNotification?] at h

end Errand

/-- What somebody else does to what is known of the servers. -/
inductive Deed where
  | invalidate (server : ServerId)
  | write (server : ServerId) (report : Report)

namespace Deed

/-- Whose entry a deed changes. -/
def server : Deed → ServerId
  | .invalidate server => server
  | .write server _ => server

/-- The store after a deed. -/
def apply (store : StatusStore) : Deed → StatusStore
  | .invalidate server => store.invalidate server
  | .write server report => report.write server store

/-- A deed changes what is known of one server only. -/
theorem snapshot_apply_of_ne {store : StatusStore} {s : ServerId} (deed : Deed)
    (h : deed.server ≠ s) : (deed.apply store).snapshot s = store.snapshot s := by
  cases deed with
  | invalidate server => exact (store.snapshot_invalidate server s).trans (if_neg (Ne.symm h))
  | write server report => exact report.snapshot_write_of_ne store h

end Deed

/-- One thing that happens at a station. -/
inductive Beat where
  | heard (signal : Signal)
  | did (effect : Effect)
  | other (deed : Deed)

namespace Beat

/-- Whether a session begins with a beat. -/
def opens : Beat → Bool
  | .did (.show status) => status.state = .connected
  | _ => false

/-- Whether a question is asked. -/
def sends : Beat → Bool
  | .did (.send _) => true
  | _ => false

/-- Whether a report is written or published. -/
def tells : Beat → Bool
  | .did effect => effect.tells
  | _ => false

/-- Whether a list is written down. -/
def writes (key : StatusKey) : Beat → Bool
  | .did (.write report) => report.key = key
  | _ => false

/-- Whether a list is asked for. -/
def asks (key : StatusKey) : Beat → Bool
  | .did (.send request) => request.method = key.method
  | _ => false

/-- Whether a change of a list is announced. -/
def announces (key : StatusKey) : Beat → Bool
  | .heard signal => signal.notification?.bind Notification.key? = some key
  | _ => false

/-- The change that is published, if the channel is that of `server`. -/
def change? (server : ServerId) : Beat → Option Change
  | .did (.publish report) => some (report.change server)
  | _ => none

/-- Whether somebody else changes what is known of a server. -/
def disturbs (server : ServerId) : Beat → Bool
  | .other deed => deed.server = server
  | _ => false

/-- Whether the question of a number is still open after a beat, if it was before. -/
def LeavesOpen (id : Nat) : Beat → Prop
  | .heard signal => signal.ending? id = none
  | .did _ => False
  | .other _ => True

/-- What a beat makes of the store, if the channel is that of `server`. -/
def apply (server : ServerId) (store : StatusStore) : Beat → StatusStore
  | .heard _ => store
  | .did effect => Fleet.record server store effect
  | .other deed => deed.apply store

theorem eq_of_tells {beat : Beat} (h : beat.tells = true) :
    ∃ report, beat = .did (.write report) ∨ beat = .did (.publish report) := by
  cases beat with
  | did effect =>
      cases effect with
      | write report => exact ⟨report, .inl rfl⟩
      | publish report => exact ⟨report, .inr rfl⟩
      | _ => simp [tells, Effect.tells] at h
  | _ => simp [tells] at h

theorem eq_of_writes {beat : Beat} {key : StatusKey} (h : beat.writes key = true) :
    ∃ report, beat = .did (.write report) ∧ report.key = key := by
  cases beat with
  | did effect =>
      cases effect with
      | write report => exact ⟨report, rfl, by simpa [writes] using h⟩
      | _ => simp [writes] at h
  | _ => simp [writes] at h

/-- What is known of a server changes only with a report, or by what somebody else does. -/
theorem snapshot_apply {server : ServerId} {store : StatusStore} (beat : Beat)
    (silent : beat.tells = false) (undisturbed : beat.disturbs server = false) :
    (beat.apply server store).snapshot server = store.snapshot server := by
  cases beat with
  | heard signal => rfl
  | did effect =>
      cases effect with
      | write report => simp [tells, Effect.tells] at silent
      | _ => rfl
  | other deed => exact deed.snapshot_apply_of_ne (by simpa [disturbs] using undisturbed)

/-- What is known of a list changes only when it is written down, or by what somebody else does. -/
theorem known_apply {server : ServerId} {store : StatusStore} {key : StatusKey} (beat : Beat)
    (unwritten : beat.writes key = false) (undisturbed : beat.disturbs server = false) :
    (beat.apply server store).known server key = store.known server key := by
  cases htells : beat.tells with
  | false => simp only [StatusStore.known, beat.snapshot_apply htells undisturbed]
  | true =>
      obtain ⟨report, rfl | rfl⟩ := eq_of_tells htells
      · have hkey : report.key ≠ key := by simpa [writes] using unwritten
        exact (report.known_write server store key).trans (if_neg hkey)
      · rfl

end Beat

/-- The beats at a station, the oldest first. -/
abbrev Journal := List Beat

namespace Journal

/-- The beats since the channel showed last that it is connected. -/
def session (journal : Journal) : Journal :=
  journal.foldl (fun session beat => if beat.opens then [] else session ++ [beat]) []

/-- The store that the beats make of a store, if the channel is that of `server`. -/
def replay (server : ServerId) (store : StatusStore) (journal : Journal) : StatusStore :=
  journal.foldl (Beat.apply server) store

/-- Whether the question that was asked last is that of an errand under a number, and is
still open. -/
def Open (journal : Journal) (errand : Errand) (id : Nat) : Prop :=
  ∃ earlier waiting, journal.session = earlier ++ .did (.send (errand.request id)) :: waiting ∧
    ∀ beat ∈ waiting, beat.LeavesOpen id

variable {a b journal : Journal} {beat : Beat} {errand : Errand} {id : Nat} {server : ServerId}
  {store : StatusStore}

@[simp] theorem session_nil : session [] = [] := rfl

theorem session_concat : session (a ++ [beat]) = if beat.opens then [] else a.session ++ [beat] := by
  simp [session]

/-- As long as the channel does not connect again, the session grows with the journal. -/
theorem session_append (h : ∀ beat ∈ b, beat.opens = false) : session (a ++ b) = a.session ++ b := by
  induction b generalizing a with
  | nil => simp
  | cons beat rest ih =>
      have hbeat : session (a ++ [beat]) = a.session ++ [beat] := by
        simp [session_concat, h beat]
      have hrest := @ih (a ++ [beat]) fun other hother => h other (List.mem_cons_of_mem _ hother)
      simpa [hbeat] using hrest

/-- It grows with every step in which the channel does not connect. -/
theorem session_hear (signal : Signal) (h : ∀ beat ∈ b, beat.opens = false) :
    session (a ++ .heard signal :: b) = a.session ++ .heard signal :: b :=
  session_append (List.forall_mem_cons.mpr ⟨rfl, h⟩)

theorem session_append_opens (hopens : beat.opens = true) (h : ∀ beat ∈ b, beat.opens = false) :
    session (a ++ beat :: b) = b := by
  have hsession := @session_append (a ++ [beat]) b h
  simpa [session_concat, hopens] using hsession

/-- A session begins with its first question. -/
theorem session_begin (journal : Journal) (request : Request) {status : ChannelStatus}
    (shown : status.state = .connected) :
    session (journal ++ [.heard .opened, .did (.show status), .did (.send request)]) =
      [.did (.send request)] := by
  have hopens : (Beat.did (.show status)).opens = true := by simp [Beat.opens, shown]
  have hsession := @session_append_opens (journal ++ [.heard .opened]) [.did (.send request)] _
    hopens (by simp [Beat.opens])
  simpa using hsession

/-- The session is the end of the journal. -/
theorem exists_append_session (journal : Journal) :
    ∃ earlier, journal = earlier ++ journal.session := by
  induction journal using List.reverseRecOn with
  | nil => exact ⟨[], rfl⟩
  | append_singleton journal beat ih =>
      obtain ⟨earlier, heq⟩ := ih
      rw [session_concat]
      cases beat.opens with
      | true => exact ⟨journal ++ [beat], by simp⟩
      | false =>
          refine ⟨earlier, ?_⟩
          simp only [Bool.false_eq_true, if_false]
          rw [← List.append_assoc, ← heq]

/-- A question that has just been asked is open. -/
theorem open_send : Open (a ++ [.did (.send (errand.request id))]) errand id :=
  ⟨a.session, [], by simp [session_concat, Beat.opens], by simp⟩

/-- It stays open until something ends it. -/
theorem Open.concat (h : a.Open errand id) (leaves : beat.LeavesOpen id)
    (opens : beat.opens = false) : Open (a ++ [beat]) errand id := by
  obtain ⟨earlier, waiting, hsession, leavesOpen⟩ := h
  refine ⟨earlier, waiting ++ [beat], ?_, ?_⟩
  · simp [session_concat, opens, hsession]
  · exact List.forall_mem_append.mpr ⟨leavesOpen, List.forall_mem_singleton.mpr leaves⟩

@[simp] theorem replay_append :
    replay server store (a ++ b) = replay server (replay server store a) b := by
  simp [replay]

/-- What no beat of a journal changes, the journal does not change. -/
theorem replay_unchanged {α : Type} (view : StatusStore → α)
    (unchanged : ∀ beat ∈ journal, ∀ store, view (beat.apply server store) = view store) :
    view (replay server store journal) = view store := by
  induction journal generalizing store with
  | nil => rfl
  | cons beat rest ih =>
      obtain ⟨hbeat, hrest⟩ := List.forall_mem_cons.mp unchanged
      exact (ih hrest).trans (hbeat store)

/-- As long as nobody writes, what is known of a server stays the same. -/
theorem snapshot_replay (silent : ∀ beat ∈ journal, beat.tells = false)
    (undisturbed : ∀ beat ∈ journal, beat.disturbs server = false) :
    (replay server store journal).snapshot server = store.snapshot server := by
  apply replay_unchanged (StatusStore.snapshot · server)
  intro beat hmem store
  exact beat.snapshot_apply (silent beat hmem) (undisturbed beat hmem)

/-- As long as nobody writes a list down, what is known of it stays the same. -/
theorem known_replay {key : StatusKey} (unwritten : ∀ beat ∈ journal, beat.writes key = false)
    (undisturbed : ∀ beat ∈ journal, beat.disturbs server = false) :
    (replay server store journal).known server key = store.known server key := by
  apply replay_unchanged (StatusStore.known · server key)
  intro beat hmem store
  exact beat.known_apply (unwritten beat hmem) (undisturbed beat hmem)

/-- What was written down last of a list is what is known of it. -/
theorem known_replay_write {report : Report}
    (unwritten : ∀ beat ∈ b, beat.writes report.key = false)
    (undisturbed : ∀ beat ∈ b, beat.disturbs server = false) :
    (replay server store (a ++ .did (.write report) :: b)).known server report.key =
      some report := by
  have hsplit : a ++ .did (.write report) :: b = (a ++ [.did (.write report)]) ++ b := by simp
  rw [hsplit, replay_append, replay_append, known_replay unwritten undisturbed]
  exact (report.known_write server _ report.key).trans (if_pos rfl)

end Journal

namespace Channel

theorem Listens.unopened {c next : Channel} {connection : Connection} {effects : List Effect}
    (h : Listens c connection effects next) :
    ∀ beat ∈ effects.map Beat.did, beat.opens = false := by
  cases h <;> simp [Beat.opens, statusIn]

end Channel

end Flotilla
