import Flotilla.Proofs.Channel.Station

/-!
# Keeping abreast

In a session a channel asks for each list once to begin with, and once more for each
announcement that the list has changed. An announcement that comes while a question is under
way is kept and takes its turn later, so that a channel may lag behind what it has been told;
but when it listens again nothing is kept any more, each list was last asked for after its
last change was announced, and the players that were written down last are those that the
server named last.

The invariant is a balance for each list: what was asked and what is still due are together
one more than what was announced, from the moment on at which the session asks for the list
first.
-/

namespace Flotilla

namespace Errand

/-- How often a session has to ask for a list on its own account, up to an errand. -/
def seeds : Errand → StatusKey → Nat
  | .seedPlayers, .bans => 0
  | _, _ => 1

theorem seeds_of_ne {errand : Errand} (h : errand ≠ .seedPlayers) : errand.seeds = fun _ => 1 := by
  funext key
  cases errand with
  | seedPlayers => exact absurd rfl h
  | _ => cases key <;> rfl

end Errand

namespace Beat

variable {key : StatusKey} {errand : Errand} {id : Nat}

@[simp] theorem asks_send :
    (Beat.did (.send (errand.request id))).asks key = decide (key = errand.key) := by
  have hmethod : errand.method = key.method ↔ key = errand.key := by
    rw [errand.method_eq]
    constructor
    · intro h
      exact (StatusKey.method_inj h).symm
    · intro h
      rw [h]
  simp [asks, Errand.request, hmethod]

@[simp] theorem announces_send :
    (Beat.did (.send (errand.request id))).announces key = false := rfl

end Beat

namespace Journal

/-- How often a list was asked for. -/
def asked (journal : Journal) (key : StatusKey) : Nat := journal.countP (Beat.asks key)

/-- How often a change of a list was announced. -/
def announced (journal : Journal) (key : StatusKey) : Nat := journal.countP (Beat.announces key)

/-- How many of the announcements that are kept call for a list. -/
def due (pending : List Notification) (key : StatusKey) : Nat :=
  pending.countP fun notification => notification.key? = some key

/-- Whether a list was last asked for after its last change was announced. -/
def Fresh (journal : Journal) (key : StatusKey) : Prop :=
  ∃ (earlier : Journal) (id : Nat) (since : Journal),
    journal = earlier ++ .did (.send ⟨id, key.method, none⟩) :: since ∧
      since.asked key = 0 ∧ since.announced key = 0

/-- Whether the players were last named to be `list`, in answer to the last question for them;
`since` is what has happened since they were written down. -/
def Named (journal : Journal) (list : List Player) (since : Journal) : Prop :=
  ∃ (earlier : Journal) (errand : Errand) (id : Nat) (waiting : Journal) (signal : Signal),
    journal = earlier ++ .did (.send (errand.request id)) :: (waiting ++ .heard signal ::
      .did (.write (.players list)) :: .did (.publish (.players list)) :: since) ∧
    errand.key = .players ∧ (∀ beat ∈ waiting, beat.LeavesOpen id) ∧
    signal.Answers errand id (.players list) ∧ since.asked .players = 0 ∧
    ∀ beat ∈ since, beat.writes .players = false

/-- The balance of questions and announcements, if a session has asked for each list so often
on its own account. -/
structure Balanced (seeds : StatusKey → Nat) (journal : Journal) (pending : List Notification) :
    Prop where
  counted : ∀ key, journal.asked key + due pending key = journal.announced key + seeds key
  fresh : ∀ key, due pending key = 0 → seeds key = 1 → journal.Fresh key

variable {a b journal : Journal} {beat : Beat} {key : StatusKey} {errand : Errand} {id : Nat}
  {pending kept : List Notification} {seeds seeded : StatusKey → Nat} {signal : Signal}
  {list : List Player} {since : Journal} {server : ServerId} {store : StatusStore}

@[simp] theorem asked_append : asked (a ++ b) key = a.asked key + b.asked key :=
  List.countP_append

@[simp] theorem announced_append : announced (a ++ b) key = a.announced key + b.announced key :=
  List.countP_append

theorem asked_send : asked [.did (.send (errand.request id))] key =
    if key = errand.key then 1 else 0 := by
  simp [asked, List.countP_cons]

@[simp] theorem due_nil : due [] key = 0 := rfl

theorem due_cons {notification : Notification} {other : StatusKey}
    (h : notification.key? = some other) :
    due (notification :: pending) key = due pending key + if key = other then 1 else 0 := by
  simp [due, List.countP_cons, h, eq_comm]

theorem due_append : due (pending ++ kept) key = due pending key + due kept key :=
  List.countP_append

theorem announced_eq_zero (h : ∀ beat ∈ journal, beat.announces key = false) :
    journal.announced key = 0 :=
  List.countP_eq_zero.mpr (by simpa using h)

theorem Fresh.append (h : a.Fresh key) (unasked : b.asked key = 0)
    (unannounced : b.announced key = 0) : Fresh (a ++ b) key := by
  obtain ⟨earlier, id, since, rfl, hasked, hannounced⟩ := h
  exact ⟨earlier, id, since ++ b, by simp, by simp [hasked, unasked],
    by simp [hannounced, unannounced]⟩

theorem fresh_send : Fresh (a ++ [.did (.send (errand.request id))]) errand.key :=
  ⟨a, id, [], by simp [Errand.request, Errand.method_eq], rfl, rfl⟩

/-- Beats that neither ask nor announce keep the balance. -/
theorem Balanced.append (h : Balanced seeds a pending) (unasked : ∀ key, b.asked key = 0)
    (unannounced : ∀ key, b.announced key = 0) : Balanced seeds (a ++ b) pending := by
  constructor
  · intro key
    simpa [unasked, unannounced] using h.counted key
  · intro key hdue hseeds
    exact (h.fresh key hdue hseeds).append (unasked key) (unannounced key)

/-- An announcement that is kept keeps the balance. -/
theorem Balanced.hear (h : Balanced seeds a pending) (signal : Signal) :
    Balanced seeds (a ++ [.heard signal]) (pending ++ signal.notification?.toList) := by
  have hannounced (key : StatusKey) :
      announced [.heard signal] key = due signal.notification?.toList key := by
    cases hnotification : signal.notification? with
    | none => simp [announced, due, Beat.announces, hnotification]
    | some notification => simp [announced, due, Beat.announces, hnotification]
  constructor
  · intro key
    have hcounted := h.counted key
    have hasked : asked [.heard signal] key = 0 := rfl
    rw [asked_append, announced_append, due_append, hannounced, hasked]
    omega
  · intro key hdue hseeds
    rw [due_append] at hdue
    apply (h.fresh key (by omega) hseeds).append rfl
    rw [hannounced]
    omega

/-- A question keeps the balance, be it for an announcement or on the session's own account. -/
theorem Balanced.send (h : Balanced seeds a pending) (id : Nat)
    (balance : ∀ key, due pending key + seeded key =
      due kept key + seeds key + if key = errand.key then 1 else 0)
    (others : ∀ key, key ≠ errand.key → seeded key = seeds key) :
    Balanced seeded (a ++ [.did (.send (errand.request id))]) kept := by
  have hannounced (key : StatusKey) : announced [.did (.send (errand.request id))] key = 0 := rfl
  constructor
  · intro key
    have hcounted := h.counted key
    have hbalance := balance key
    rw [asked_append, announced_append, asked_send, hannounced]
    omega
  · intro key hdue hseeds
    by_cases hkey : key = errand.key
    · rw [hkey]
      exact fresh_send
    · have hbalance := balance key
      have hothers := others key hkey
      simp only [hkey, if_false] at hbalance
      apply (h.fresh key (by omega) (by omega)).append
      · simp [asked_send, hkey]
      · exact hannounced key

/-- What is named stays named until the players are asked for again. -/
theorem Named.append (h : a.Named list since) (unasked : b.asked .players = 0)
    (unwritten : ∀ beat ∈ b, beat.writes .players = false) :
    Named (a ++ b) list (since ++ b) := by
  obtain ⟨earlier, errand, id, waiting, signal, rfl, hkey, leavesOpen, answers, hasked,
    hwritten⟩ := h
  refine ⟨earlier, errand, id, waiting, signal, by simp, hkey, leavesOpen, answers,
    by simp [hasked, unasked], List.forall_mem_append.mpr ⟨hwritten, unwritten⟩⟩

/-- The players are named by the answer to the question for them that is open. -/
theorem Open.named (h : a.Open errand id) (hkey : errand.key = .players)
    (answers : signal.Answers errand id (.players list)) :
    Named (a.session ++ [.heard signal, .did (.write (.players list)),
      .did (.publish (.players list))]) list [] := by
  obtain ⟨earlier, waiting, hsession, leavesOpen⟩ := h
  exact ⟨earlier, errand, id, waiting, signal, by simp [hsession], hkey, leavesOpen, answers,
    rfl, by simp⟩

/-- The players that were named are those that are written down. -/
theorem Named.players (h : journal.Named list since)
    (undisturbed : ∀ beat ∈ since, beat.disturbs server = false) :
    ((journal.replay server store).snapshot server).bind Status.players = some list := by
  obtain ⟨earlier, errand, id, waiting, signal, rfl, -, -, -, -, unwritten⟩ := h
  have hsplit : earlier ++ .did (.send (errand.request id)) :: (waiting ++ .heard signal ::
        .did (.write (.players list)) :: .did (.publish (.players list)) :: since) =
      (earlier ++ .did (.send (errand.request id)) :: (waiting ++ [.heard signal])) ++
        .did (.write (.players list)) :: (.did (.publish (.players list)) :: since) := by
    simp
  rw [hsplit, ← StatusStore.known_players_eq_some_iff]
  exact known_replay_write (List.forall_mem_cons.mpr ⟨rfl, unwritten⟩)
    (List.forall_mem_cons.mpr ⟨rfl, undisturbed⟩)

end Journal

namespace Channel

variable {c next : Channel} {connection : Connection} {effects : List Effect} {signal : Signal}
  {journal : Journal}

/-- How a channel that is doing something stands to the announcements of its session. -/
def Abreast (session : Journal) : Activity → Prop
  | .asking connection _ errand =>
    Journal.Balanced errand.seeds session connection.pending ∧
      (errand.key = .bans → ∃ list since, session.Named list since)
  | .listening connection =>
    connection.pending = [] ∧ Journal.Balanced (fun _ => 1) session [] ∧
      ∃ list since, session.Named list since
  | .starting | .connecting | .resting | .finished => True

theorem Fails.abreast (h : Fails c effects next) (session : Journal) :
    Abreast session next.activity := by
  cases h <;> trivial

theorem Attempts.abreast (h : Attempts c effects next) (session : Journal) :
    Abreast session next.activity := by
  cases h with
  | connect => trivial
  | unusable active resolved fails => exact fails.abreast session
  | finish => trivial

theorem due_of_idle {pending : List Notification} (key : StatusKey)
    (idle : ∀ notification ∈ pending, Errand.ofNotification? notification = none) :
    Journal.due pending key = 0 := by
  apply List.countP_eq_zero.mpr
  intro notification hmem
  simp [Errand.key?_eq_map, idle notification hmem]

/-- A channel that goes on to listen takes the announcements that are due one by one. -/
theorem Listens.abreast {session : Journal} (h : Listens c connection effects next)
    (balanced : Journal.Balanced (fun _ => 1) session connection.pending)
    (named : ∃ list since, session.Named list since) :
    Abreast (session ++ effects.map .did) next.activity := by
  cases h with
  | finish => trivial
  | wait active idle =>
      refine ⟨rfl, ⟨?_, ?_⟩, ?_⟩
      · intro key
        have hcounted := balanced.counted key
        rw [due_of_idle key idle] at hcounted
        simpa using hcounted
      · intro key _ _
        simpa using balanced.fresh key (due_of_idle key idle) rfl
      · simpa using named
  | @ask active passed notification rest errand pending idle calls =>
      have hseeds (key : StatusKey) : errand.seeds key = 1 := by
        rw [Errand.seeds_of_ne (Errand.ne_seedPlayers_of_notification calls)]
      have hkey : notification.key? = some errand.key := by
        rw [Errand.key?_eq_map, calls]
        rfl
      have hbalanced : Journal.Balanced errand.seeds
          (session ++ [.did (.send (errand.request connection.nextId))]) rest := by
        apply balanced.send connection.nextId
        · intro key
          rw [pending, Journal.due_append, due_of_idle key idle, Journal.due_cons hkey, hseeds]
          omega
        · intro key _
          exact hseeds key
      refine ⟨hbalanced, ?_⟩
      intro hbans
      obtain ⟨list, since, hnamed⟩ := named
      refine ⟨list, _, hnamed.append ?_ ?_⟩
      · exact Journal.asked_send.trans (by simp [hbans])
      · simp [Beat.writes]

/-- What neither asks for the lists nor tells of them makes no difference. -/
theorem Abreast.append {session beats : Journal} {activity : Activity}
    (h : Abreast session activity) (unasked : ∀ key, beats.asked key = 0)
    (unannounced : ∀ key, beats.announced key = 0)
    (unwritten : ∀ beat ∈ beats, beat.writes .players = false) :
    Abreast (session ++ beats) activity := by
  cases activity with
  | asking connection awaiting errand =>
      refine ⟨h.1.append unasked unannounced, ?_⟩
      intro hbans
      obtain ⟨list, since, hnamed⟩ := h.2 hbans
      exact ⟨list, _, hnamed.append (unasked .players) unwritten⟩
  | listening connection =>
      obtain ⟨hpending, hbalanced, list, since, hnamed⟩ := h
      exact ⟨hpending, hbalanced.append unasked unannounced, list, _,
        hnamed.append (unasked .players) unwritten⟩
  | _ => trivial

/-- Once a question is answered and the answer is told, the players are known, whichever list
was asked for. -/
theorem Abreast.answered {awaiting : Connection.Awaiting} {errand : Errand} {result : Json}
    {report : Report} (h : Abreast journal.session (.asking connection awaiting errand))
    (asked : journal.Open errand awaiting.id)
    (ended : signal.ending? awaiting.id = some (.result result))
    (read : errand.report? result = some report) :
    Journal.Balanced errand.seeds
        (journal.session ++ [.heard signal, .did (.write report), .did (.publish report)])
        connection.pending ∧
      ∃ list since, Journal.Named
        (journal.session ++ [.heard signal, .did (.write report), .did (.publish report)])
        list since := by
  constructor
  · apply h.1.append
    · intro key
      rfl
    · intro key
      have hnone := Signal.notification?_of_ending ended
      exact Journal.announced_eq_zero (by simp [Beat.announces, hnone])
  · have hreport := Errand.key_of_report read
    cases report with
    | players list =>
        exact ⟨list, [], asked.named hreport.symm ⟨result, ended, read⟩⟩
    | bans list =>
        obtain ⟨players, since, hnamed⟩ := h.2 hreport.symm
        exact ⟨players, _, hnamed.append rfl (by simp [Beat.writes, Report.key])⟩

/-- A session begins with a question for the players. -/
theorem abreast_begin (journal : Journal) (connection : Connection)
    (awaiting : Connection.Awaiting) (status : ChannelStatus) (id : Nat)
    (fresh : connection.pending = []) (shown : status.state = .connected) :
    Abreast (Journal.session (journal ++
        [.heard .opened, .did (.show status), .did (.send (Errand.seedPlayers.request id))]))
      (.asking connection awaiting .seedPlayers) := by
  have hnil : Journal.Balanced (fun _ => 0) [] [] := by
    constructor
    · intro key
      rfl
    · intro key _ hseeds
      simp at hseeds
  rw [Journal.session_begin journal _ shown, Abreast, fresh]
  constructor
  · apply hnil.send id
    · intro key
      cases key <;> rfl
    · intro key hkey
      cases key <;> first | rfl | exact absurd rfl hkey
  · intro hbans
    simp [Errand.key] at hbans

/-- Every step of a channel keeps it abreast. -/
theorem Abreast.step (h : Abreast journal.session c.activity)
    (asked : ∀ {connection awaiting errand}, c.activity = .asking connection awaiting errand →
      journal.Open errand awaiting.id)
    (steps : Steps c signal effects next) :
    Abreast (Journal.session (journal ++ .heard signal :: effects.map .did)) next.activity := by
  have hsession (unopened : ∀ beat ∈ effects.map Beat.did, beat.opens = false) :
      Journal.session (journal ++ .heard signal :: effects.map .did) =
        journal.session ++ .heard signal :: effects.map .did :=
    Journal.session_hear signal unopened
  cases steps with
  | ignore ignores =>
      cases hactivity : c.activity with
      | asking => simp [Ignores, hactivity] at ignores
      | listening => simp [Ignores, hactivity] at ignores
      | _ => trivial
  | start starting attempts => exact attempts.abreast _
  | wake resting attempts => exact attempts.abreast _
  | begin connecting reset shown =>
      exact abreast_begin journal _ _ _ 1 rfl (by rw [shown])
  | miss connecting missed fails => exact fails.abreast _
  | heed busy =>
      rw [hsession (by simp)]
      exact h.append (fun _ => rfl) (fun _ => rfl) (by simp [Beat.writes])
  | stop => trivial
  | keep uncancelled asking unended =>
      rw [hsession (by simp)]
      rw [asking] at h
      refine ⟨h.1.hear signal, ?_⟩
      intro hbans
      obtain ⟨list, since, hnamed⟩ := h.2 hbans
      exact ⟨list, _, hnamed.append rfl (by simp [Beat.writes])⟩
  | @seed signal connection awaiting result report asking ended read =>
      rw [hsession (by simp [Beat.opens])]
      rw [asking] at h
      obtain ⟨hbalanced, list, since, hnamed⟩ := h.answered (asked asking) ended read
      have hsplit : journal.session ++ .heard signal :: [Effect.write report, .publish report,
            .send (Errand.seedBans.request connection.nextId)].map .did =
          (journal.session ++ [.heard signal, .did (.write report), .did (.publish report)]) ++
            [.did (.send (Errand.seedBans.request connection.nextId))] := by
        simp
      rw [hsplit]
      constructor
      · apply hbalanced.send connection.nextId
        · intro key
          cases key <;> rfl
        · intro key hkey
          cases key <;> first | rfl | exact absurd rfl hkey
      · intro _
        exact ⟨list, _, hnamed.append rfl (by simp [Beat.writes])⟩
  | @answer signal connection awaiting errand result report effects next asking later ended read
      listens =>
      rw [hsession (by simpa [Beat.opens] using listens.unopened)]
      rw [asking] at h
      obtain ⟨hbalanced, hnamed⟩ := h.answered (asked asking) ended read
      rw [Errand.seeds_of_ne later] at hbalanced
      simpa using listens.abreast hbalanced hnamed
  | @excuse signal connection awaiting error effects next asking ended listens =>
      rw [hsession listens.unopened]
      rw [asking] at h
      have hnone := Signal.notification?_of_ending ended
      have hheard : Abreast (journal.session ++ [.heard signal])
          (.asking connection awaiting .seedBans) := by
        apply h.append (fun _ => rfl)
        · intro key
          exact Journal.announced_eq_zero (by simp [Beat.announces, hnone])
        · simp [Beat.writes]
      obtain ⟨hbalanced, hnamed⟩ := hheard
      rw [Errand.seeds_of_ne (by simp)] at hbalanced
      simpa using listens.abreast hbalanced (hnamed rfl)
  | lose asking ended useless inexcusable fails => exact fails.abreast _
  | @notice signal connection notification effects next listening announced listens =>
      rw [hsession listens.unopened]
      rw [listening] at h
      obtain ⟨-, hbalanced, list, since, hnamed⟩ := h
      have hheard := hbalanced.hear signal
      rw [announced, Option.toList_some, List.nil_append] at hheard
      have hstill : ∃ list since, Journal.Named (journal.session ++ [.heard signal]) list since :=
        ⟨list, _, hnamed.append rfl (by simp [Beat.writes])⟩
      simpa using listens.abreast hheard hstill
  | drop listening broken fails => exact fails.abreast _
  | overhear uncancelled listening unannounced unbroken =>
      rw [hsession (by simp)]
      apply h.append (fun _ => rfl)
      · intro key
        exact Journal.announced_eq_zero (by simp [Beat.announces, unannounced])
      · simp [Beat.writes]

end Channel

namespace Station

variable {server : ServerId} {store : StatusStore} {s t : Station} {move : Move}

/-- A station with a straight record whose channel is abreast. -/
structure Abreast (server : ServerId) (store : StatusStore) (s : Station) : Prop
    extends Recorded server store s where
  abreast : Channel.Abreast s.journal.session s.channel.activity

theorem Abreast.step (h : Abreast server store s) (steps : Steps s move t) :
    Abreast server store t := by
  refine ⟨h.toRecorded.step steps, ?_⟩
  cases steps with
  | hear steps => exact h.abreast.step h.asked steps
  | other =>
      rw [Journal.session_append (by simp [Beat.opens])]
      exact h.abreast.append (fun _ => rfl) (fun _ => rfl) (by simp [Beat.writes])

/-- Whenever a channel listens, it is abreast of its server: it keeps no announcement, it has
asked for each list once more than its change was announced in the session, and last after the
last announcement. The players that were named last are written down, unless somebody else has
changed what is known of the server since. -/
theorem abreast_of_listening (server : Server) (settings : ChannelSettings) (cancelled : Bool)
    (store : StatusStore) (moves : List Move) {connection : Connection}
    (listening : ((create server settings cancelled store).run moves).channel.activity =
      .listening connection) :
    let s := (create server settings cancelled store).run moves
    connection.pending = [] ∧
    (∀ key, s.journal.session.asked key = 1 + s.journal.session.announced key) ∧
    (∀ key, s.journal.session.Fresh key) ∧
    ∃ list since, s.journal.session.Named list since ∧
      ((∀ beat ∈ since, beat.disturbs server.id = false) →
        (s.store.snapshot server.id).bind Status.players = some list) := by
  intro s
  have hstart : Abreast server.id store (create server settings cancelled store) :=
    ⟨recorded_create server settings cancelled store, trivial⟩
  have habreast := run_invariant Abreast.step hstart moves
  have hlistening := habreast.abreast
  rw [listening] at hlistening
  obtain ⟨hpending, hbalanced, list, since, hnamed⟩ := hlistening
  refine ⟨hpending, ?_, ?_, list, since, hnamed, ?_⟩
  · intro key
    have hcounted : s.journal.session.asked key + 0 = s.journal.session.announced key + 1 :=
      hbalanced.counted key
    omega
  · intro key
    exact hbalanced.fresh key rfl rfl
  · intro undisturbed
    obtain ⟨past, hjournal⟩ := s.journal.exists_append_session
    rw [habreast.known]
    change ((s.journal.replay server.id store).snapshot server.id).bind Status.players = some list
    rw [hjournal, Journal.replay_append]
    exact hnamed.players undisturbed

/-- After somebody has joined and the question about it has been answered, the players have been
asked for twice and the bans once. -/
theorem abreast_of_listening_sample :
    let s := Sample.station.run [.hear .start, .hear .opened, .hear Sample.nobody,
      .hear Sample.spotless, .hear (.arrival Sample.joined), .hear Sample.departed]
    s.channel.activity = .listening ⟨4, [], ⟨10⟩⟩ ∧
      s.journal.session.announced .players = 1 ∧ s.journal.session.asked .players = 2 ∧
      s.journal.session.asked .bans = 1 ∧ (∀ key, s.journal.session.Fresh key) ∧
      ∃ list, (s.store.snapshot Sample.host.id).bind Status.players = some list := by
  intro s
  obtain ⟨uri, hhailing⟩ := Sample.run_hailing
  have hs : s = ⟨Sample.connected (.listening ⟨4, [], ⟨10⟩⟩),
      ((StatusStore.empty.setPlayers Sample.host.id []).setBans Sample.host.id []).setPlayers
        Sample.host.id [],
      Sample.opening uri ++ Sample.seeding ++ Sample.hailing ++ [.heard Sample.departed,
        .did (.write (.players [])), .did (.publish (.players []))]⟩ := by
    have hrun : s = (Sample.station.run [.hear .start, .hear .opened, .hear Sample.nobody,
        .hear Sample.spotless, .hear (.arrival Sample.joined)]).step (.hear Sample.departed) := rfl
    rw [hrun, hhailing]
    simp only [step, Sample.step_departed]
    rfl
  have listening : s.channel.activity = .listening ⟨4, [], ⟨10⟩⟩ := by
    rw [hs]
    rfl
  have announced (key : StatusKey) :
      s.journal.session.announced key = if key = .players then 1 else 0 := by
    have hsession : s.journal.session = .did (.send (Errand.seedPlayers.request 1)) ::
        Sample.seeding ++ Sample.hailing ++ [.heard Sample.departed,
          .did (.write (.players [])), .did (.publish (.players []))] := by
      rw [hs]
      rfl
    rw [hsession]
    cases key <;>
      simp [Sample.seeding, Sample.hailing, Journal.announced, Beat.announces, Sample.nobody,
        Sample.spotless, Sample.joined, Sample.departed, Signal.notification?,
        Sample.decode_nobody, Sample.decode_spotless, Sample.decode_joined,
        Sample.decode_departed, Notification.key?]
  have undisturbed : ∀ beat ∈ s.journal, beat.disturbs Sample.host.id = false := by
    rw [hs]
    simp [Sample.opening, Sample.seeding, Sample.hailing, Beat.disturbs]
  obtain ⟨-, hcounted, hfresh, list, since, hnamed, hplayers⟩ :=
    abreast_of_listening Sample.host Sample.policy false .empty [.hear .start, .hear .opened,
      .hear Sample.nobody, .hear Sample.spotless, .hear (.arrival Sample.joined),
      .hear Sample.departed] listening
  refine ⟨listening, announced .players, (hcounted .players).trans ?_, (hcounted .bans).trans ?_,
    hfresh, list, hplayers ?_⟩
  · exact congrArg (1 + ·) (announced .players)
  · exact congrArg (1 + ·) (announced .bans)
  · intro beat hmem
    obtain ⟨earlier, errand, id, waiting, signal, hsession, -⟩ := hnamed
    have hsince : beat ∈ s.journal.session := by
      rw [show s.journal.session = _ from hsession]
      simp [hmem]
    obtain ⟨past, hjournal⟩ := s.journal.exists_append_session
    apply undisturbed beat
    rw [hjournal]
    exact List.mem_append_right past hsince

end Station

end Flotilla
