import Flotilla.Proofs.Channel.Course
import Flotilla.Proofs.Channel.Station

/-!
# What a session reports

A channel shows that it is connected before it asks its first question. While that question is under
way the session has reported nothing, and what is known of the server is what was known when the
session began. From the first answer on, the players that are known are those that the session
reported last.

The second question of a session may be refused. The session goes on, and what is known of the bans
stays what it was when the session began, until they are reported. So the bans are unknown
afterwards only if no earlier session has reported them.
-/

namespace Flotilla

namespace Errand

variable {errand : Errand} {notification : Notification}

theorem ne_seedBans_of_notification (h : ofNotification? notification = some errand) :
    errand ≠ .seedBans := by
  rintro rfl
  cases notification <;> simp [ofNotification?] at h

end Errand

namespace Journal

/-- Whether a list was written down. -/
def Reported (journal : Journal) (key : StatusKey) : Prop :=
  ∃ beat ∈ journal, beat.writes key = true

variable {a b journal : Journal} {key : StatusKey} {server : ServerId} {store : StatusStore}

theorem reported_append : Reported (a ++ b) key ↔ a.Reported key ∨ b.Reported key := by
  simp [Reported, or_and_right, exists_or]

theorem not_reported_iff : ¬ journal.Reported key ↔ ∀ beat ∈ journal, beat.writes key = false := by
  simp [Reported]

theorem mem_of_mem_session {beat : Beat} (h : beat ∈ journal.session) : beat ∈ journal := by
  obtain ⟨earlier, hjournal⟩ := journal.exists_append_session
  rw [hjournal]
  exact List.mem_append_right earlier h

/-- A step that tells nothing reports nothing. -/
theorem not_reported_of_silent {effects : List Effect} (signal : Signal)
    (silent : ∀ effect ∈ effects, effect.tells = false) :
    ¬ Reported (.heard signal :: effects.map .did) key := by
  rintro ⟨beat, hmem, hwrites⟩
  obtain ⟨report, rfl, -⟩ := Beat.eq_of_writes hwrites
  simpa [Effect.tells] using silent (.write report) (by simpa using hmem)

/-- Of a list that was reported, one report was the last. -/
theorem Reported.exists_last (h : journal.Reported key) : ∃ earlier report since,
    journal = earlier ++ .did (.write report) :: since ∧ report.key = key ∧
      ¬ Reported since key := by
  induction journal using List.reverseRecOn with
  | nil => simp [Reported] at h
  | append_singleton journal beat ih =>
      cases hbeat : beat.writes key with
      | true =>
          obtain ⟨report, rfl, hkey⟩ := Beat.eq_of_writes hbeat
          exact ⟨journal, report, [], rfl, hkey, by simp [Reported]⟩
      | false =>
          have last : ¬ Reported [beat] key := by simp [Reported, hbeat]
          obtain ⟨earlier, report, since, rfl, hkey, hsince⟩ :=
            ih ((reported_append.mp h).resolve_right last)
          refine ⟨earlier, report, since ++ [beat], by simp, hkey, fun hreported => ?_⟩
          exact (reported_append.mp hreported).elim hsince last

/-- If nobody else interferes, a list is unknown exactly if it was unknown at first and has not been
reported. -/
theorem known_replay_eq_none_iff (undisturbed : ∀ beat ∈ journal, beat.disturbs server = false) :
    (replay server store journal).known server key = none ↔
      store.known server key = none ∧ ¬ journal.Reported key := by
  by_cases reported : journal.Reported key
  · obtain ⟨earlier, report, since, rfl, rfl, hsince⟩ := reported.exists_last
    have hquiet := (List.forall_mem_cons.mp (List.forall_mem_append.mp undisturbed).2).2
    rw [known_replay_write (not_reported_iff.mp hsince) hquiet]
    simp [reported]
  · simp [known_replay (not_reported_iff.mp reported) undisturbed, reported]

end Journal

namespace Channel

variable {c next : Channel} {connection : Connection} {effects : List Effect} {signal : Signal}
  {journal session beats : Journal} {activity : Activity}

section Shown

/-- Whether a channel shows what it is doing. -/
def Shown (c : Channel) : Prop := c.status.state = (phaseOf c.activity).state

theorem Fails.shown (h : Fails c effects next) : next.Shown := by
  cases h with
  | rest active counted shown | finish cancelled counted shown =>
      subst shown
      rfl

theorem Attempts.shown (h : Attempts c effects next) : next.Shown := by
  cases h with
  | connect | finish => rfl
  | unusable active resolved fails => exact fails.shown

theorem Listens.shown (h : Listens c connection effects next)
    (connected : c.status.state = .connected) : next.Shown := by
  cases h with
  | finish => rfl
  | wait | ask => exact connected

theorem Shown.step (h : c.Shown) (steps : Steps c signal effects next) : next.Shown := by
  have connected (hphase : (phaseOf c.activity).state = .connected) :
      c.status.state = .connected := h.trans hphase
  cases steps with
  | ignore | overhear | heed => exact h
  | start starting attempts => exact attempts.shown
  | wake resting attempts => exact attempts.shown
  | begin connecting reset shown =>
      subst shown
      rfl
  | stop => rfl
  | keep _ asking | seed asking => exact connected (by rw [asking]; rfl)
  | answer asking _ _ _ listens | excuse asking _ listens =>
      exact listens.shown (connected (by rw [asking]; rfl))
  | notice listening _ listens => exact listens.shown (connected (by rw [listening]; rfl))
  | miss _ _ fails | lose _ _ _ _ fails | drop _ _ fails => exact fails.shown

/-- A channel that shows that it is connected is in a session. -/
theorem Shown.in_session (h : c.Shown) (connected : c.status.state = .connected) :
    (∃ connection awaiting errand, c.activity = .asking connection awaiting errand) ∨
      ∃ connection, c.activity = .listening connection := by
  have hphase : (phaseOf c.activity).state = .connected := h.symm.trans connected
  cases hactivity : c.activity with
  | asking => exact .inl ⟨_, _, _, rfl⟩
  | listening => exact .inr ⟨_, rfl⟩
  | _ => simp [hactivity, phaseOf, Phase.state] at hphase

end Shown

section Refusal

variable {awaiting : Connection.Awaiting} {error : Json}

/-- A channel that is refused the bans at the beginning of a session goes on to listen. -/
theorem Steps.listens_of_refusal (h : Steps c signal effects next)
    (asking : c.activity = .asking connection awaiting .seedBans)
    (refused : signal.ending? awaiting.id = some (.refusal error)) :
    Listens c connection effects next := by
  cases h with
  | excuse before _ listens =>
      obtain ⟨rfl, -, -⟩ := Activity.asking.inj (before.symm.trans asking)
      exact listens
  | ignore ignores => simp [Ignores, asking] at ignores
  | start starting => simp [asking] at starting
  | wake resting => simp [asking] at resting
  | begin connecting | miss connecting => simp [asking] at connecting
  | heed | stop => simp [Signal.ending?] at refused
  | keep _ before unended =>
      obtain ⟨-, rfl, -⟩ := Activity.asking.inj (before.symm.trans asking)
      simp [unended] at refused
  | seed before ended | answer before _ ended =>
      obtain ⟨-, rfl, -⟩ := Activity.asking.inj (before.symm.trans asking)
      simp [ended] at refused
  | lose before ended _ inexcusable =>
      obtain ⟨-, rfl, rfl⟩ := Activity.asking.inj (before.symm.trans asking)
      exact absurd rfl (inexcusable error (Option.some.inj (ended.symm.trans refused)))
  | notice listening | drop listening | overhear _ listening => simp [asking] at listening

/-- A channel that goes on to listen stays in its session. -/
theorem Listens.goes_on (h : Listens c connection effects next) (active : c.cancelled = false) :
    next.status = c.status ∧ next.reconnect = c.reconnect ∧
      ((∃ connection awaiting errand, next.activity = .asking connection awaiting errand) ∨
        ∃ connection, next.activity = .listening connection) := by
  cases h with
  | finish cancelled => simp [active] at cancelled
  | wait => exact ⟨rfl, rfl, .inr ⟨_, rfl⟩⟩
  | ask => exact ⟨rfl, rfl, .inl ⟨_, _, _, rfl⟩⟩

end Refusal

section Seeded

/-- What a session has reported by the time of an activity. -/
def Seeded (session : Journal) : Activity → Prop
  | .asking _ _ errand =>
    (session.Reported .players ↔ errand ≠ .seedPlayers) ∧
      (errand = .seedPlayers ∨ errand = .seedBans → ¬ session.Reported .bans)
  | .listening _ => session.Reported .players
  | .starting | .connecting | .resting | .finished => True

theorem Seeded.append (h : Seeded session activity) (unwritten : ∀ key, ¬ beats.Reported key) :
    Seeded (session ++ beats) activity := by
  cases activity with
  | asking | listening => simpa [Seeded, Journal.reported_append, unwritten] using h
  | _ => trivial

theorem Fails.seeded (h : Fails c effects next) : Seeded session next.activity := by
  cases h <;> trivial

theorem Attempts.seeded (h : Attempts c effects next) : Seeded session next.activity := by
  cases h with
  | connect | finish => trivial
  | unusable active resolved fails => exact fails.seeded

/-- A session that has reported the players goes on to listen. -/
theorem Listens.seeded (h : Listens c connection effects next)
    (reported : session.Reported .players) (beats : Journal) :
    Seeded (session ++ (beats ++ effects.map .did)) next.activity := by
  have kept : Journal.Reported (session ++ (beats ++ effects.map .did)) .players :=
    Journal.reported_append.mpr (.inl reported)
  cases h with
  | finish => trivial
  | wait => exact kept
  | ask active pending idle calls =>
      have later := Errand.ne_seedPlayers_of_notification calls
      have unseeded := Errand.ne_seedBans_of_notification calls
      exact ⟨iff_of_true kept later, fun seeds => (seeds.elim later unseeded).elim⟩

/-- In every step of a channel, its session reports what it has to. -/
theorem Seeded.step (h : Seeded journal.session c.activity) (steps : Steps c signal effects next) :
    Seeded (Journal.session (journal ++ .heard signal :: effects.map .did)) next.activity := by
  have heard : ∀ key, ¬ Journal.Reported [.heard signal] key := by
    simp [Journal.Reported, Beat.writes]
  cases steps with
  | ignore ignores =>
      cases hactivity : c.activity with
      | asking | listening => simp [Ignores, hactivity] at ignores
      | _ => trivial
  | start starting attempts => exact attempts.seeded
  | wake resting attempts => exact attempts.seeded
  | @begin connecting reconnect status reset shown =>
      have hsession : Journal.session (journal ++ .heard .opened :: [Effect.show status,
            .send (Errand.seedPlayers.request 1)].map .did) =
          [.did (.send (Errand.seedPlayers.request 1))] :=
        Journal.session_begin journal _ (congrArg ChannelStatus.state shown)
      have unreported (key : StatusKey) :
          ¬ Journal.Reported [.did (.send (Errand.seedPlayers.request 1))] key := by
        simp [Journal.Reported, Beat.writes]
      rw [hsession]
      exact ⟨iff_of_false (unreported .players) (by simp), fun _ => unreported .bans⟩
  | miss connecting missed fails => exact fails.seeded
  | heed busy =>
      rw [Journal.session_hear _ (by simp)]
      exact h.append heard
  | stop => trivial
  | keep uncancelled asking unended =>
      rw [asking] at h
      rw [Journal.session_hear _ (by simp)]
      exact h.append heard
  | @seed signal connection awaiting result report asking ended read =>
      rw [asking] at h
      rw [Journal.session_hear _ (by simp [Beat.opens])]
      have hkey : report.key = .players := Errand.key_of_report read
      refine ⟨iff_of_true (Journal.reported_append.mpr (.inr ?_)) (by simp), fun _ hreported => ?_⟩
      · exact ⟨.did (.write report), by simp, by simp [Beat.writes, hkey]⟩
      · rcases Journal.reported_append.mp hreported with earlier | now
        · exact h.2 (.inl rfl) earlier
        · simp [Journal.Reported, Beat.writes, hkey] at now
  | @answer signal connection awaiting errand result report effects next asking later ended read
      listens =>
      rw [asking] at h
      rw [Journal.session_hear _ (by simpa [Beat.opens] using listens.unopened)]
      exact listens.seeded (h.1.mpr later) [.heard signal, .did (.write report),
        .did (.publish report)]
  | excuse asking ended listens =>
      rw [asking] at h
      rw [Journal.session_hear _ listens.unopened]
      exact listens.seeded (h.1.mpr (by simp)) [.heard signal]
  | lose asking ended useless inexcusable fails => exact fails.seeded
  | notice listening announced listens =>
      rw [listening] at h
      rw [Journal.session_hear _ listens.unopened]
      exact listens.seeded h [.heard signal]
  | drop listening broken fails => exact fails.seeded
  | overhear uncancelled listening unannounced unbroken =>
      rw [Journal.session_hear _ (by simp)]
      exact h.append heard

/-- While its first question is under way, and only then, a session has not reported the players.
-/
theorem Seeded.asking_iff (h : Seeded journal.session c.activity)
    (in_session : (∃ connection awaiting errand, c.activity = .asking connection awaiting errand) ∨
      ∃ connection, c.activity = .listening connection) :
    (∃ connection awaiting, c.activity = .asking connection awaiting .seedPlayers) ↔
      ¬ journal.session.Reported .players := by
  obtain ⟨connection, awaiting, errand, hactivity⟩ | ⟨connection, hactivity⟩ := in_session
  · rw [hactivity] at h ⊢
    rw [h.1, not_not]
    constructor
    · rintro ⟨_, _, heq⟩
      exact (Activity.asking.inj heq).2.2
    · rintro rfl
      exact ⟨_, _, rfl⟩
  · rw [hactivity] at h ⊢
    exact iff_of_false (by simp) (not_not.mpr h)

end Seeded

end Channel

namespace Station

variable {server : ServerId} {store : StatusStore} {s t : Station} {move : Move} {key : StatusKey}

/-- A station with a straight record, whose channel shows what it is doing and whose session has
reported what it has to. -/
structure Seeded (server : ServerId) (store : StatusStore) (s : Station) : Prop
    extends Recorded server store s where
  shown : s.channel.Shown
  seeded : Channel.Seeded s.journal.session s.channel.activity

theorem Seeded.step (h : Seeded server store s) (steps : Steps s move t) :
    Seeded server store t := by
  have recorded := h.toRecorded.step steps
  cases steps with
  | hear steps => exact ⟨recorded, h.shown.step steps, h.seeded.step steps⟩
  | other =>
      refine ⟨recorded, h.shown, ?_⟩
      rw [Journal.session_append (by simp [Beat.opens])]
      exact h.seeded.append (by simp [Journal.Reported, Beat.writes])

theorem seeded_run (server : Server) (settings : ChannelSettings) (cancelled : Bool)
    (store : StatusStore) (moves : List Move) :
    Seeded server.id store ((create server settings cancelled store).run moves) :=
  run_invariant Seeded.step ⟨recorded_create server settings cancelled store, rfl, trivial⟩ moves

/-- What is known of a list is what was known before the beats that do not report it. -/
theorem Recorded.known_of_unreported {earlier since : Journal} (h : Recorded server store s)
    (split : s.journal = earlier ++ since) (unreported : ¬ since.Reported key)
    (undisturbed : ∀ beat ∈ since, beat.disturbs server = false) :
    s.store.known server key = (earlier.replay server store).known server key := by
  rw [h.known, split, Journal.replay_append]
  exact Journal.known_replay (Journal.not_reported_iff.mp unreported) undisturbed

/-- What is known of the players that the session has reported is what it reported last. -/
theorem Recorded.exists_players (h : Recorded server store s)
    (reported : s.journal.session.Reported .players) : ∃ earlier list since,
      s.journal.session = earlier ++ .did (.write (.players list)) :: since ∧
        ¬ Journal.Reported since .players ∧
        ((∀ beat ∈ since, beat.disturbs server = false) →
          (s.store.snapshot server).bind Status.players = some list) := by
  obtain ⟨earlier, report, since, hsession, hkey, hsince⟩ := reported.exists_last
  cases report with
  | bans list => simp [Report.key] at hkey
  | players list =>
      refine ⟨earlier, list, since, hsession, hsince, fun undisturbed => ?_⟩
      obtain ⟨past, hjournal⟩ := s.journal.exists_append_session
      rw [hsession, ← List.append_assoc] at hjournal
      rw [← StatusStore.known_players_eq_some_iff, h.known, hjournal]
      exact Journal.known_replay_write (Journal.not_reported_iff.mp hsince) undisturbed

/-- Whenever a channel shows that it is connected: the session has reported the players unless its
first question is under way. The players that it reported last are those that are known, and until
it reports some, what is known of them is what was known when it began, unless somebody else has
interfered. -/
theorem seeded_of_connected (server : Server) (settings : ChannelSettings) (cancelled : Bool)
    (store : StatusStore) (moves : List Move)
    (connected : ((create server settings cancelled store).run moves).channel.status.state =
      .connected) :
    let s := (create server settings cancelled store).run moves
    ((∃ connection awaiting, s.channel.activity = .asking connection awaiting .seedPlayers) ↔
      ¬ s.journal.session.Reported .players) ∧
    (s.journal.session.Reported .players → ∃ earlier list since,
      s.journal.session = earlier ++ .did (.write (.players list)) :: since ∧
        ¬ Journal.Reported since .players ∧
        ((∀ beat ∈ since, beat.disturbs server.id = false) →
          (s.store.snapshot server.id).bind Status.players = some list)) ∧
    (¬ s.journal.session.Reported .players →
      (∀ beat ∈ s.journal.session, beat.disturbs server.id = false) →
        ∃ earlier, s.journal = earlier ++ s.journal.session ∧
          s.store.known server.id .players =
            (Journal.replay server.id store earlier).known server.id .players) := by
  intro s
  have hseeded : Seeded server.id store s := seeded_run server settings cancelled store moves
  refine ⟨hseeded.seeded.asking_iff (hseeded.shown.in_session connected),
    hseeded.toRecorded.exists_players, fun unreported undisturbed => ?_⟩
  obtain ⟨earlier, hjournal⟩ := s.journal.exists_append_session
  exact ⟨earlier, hjournal,
    hseeded.toRecorded.known_of_unreported hjournal unreported undisturbed⟩

/-- Once the station has been told who plays, the session has reported it. -/
theorem seeded_of_connected_sample :
    let s := Sample.station.run [.hear .start, .hear .opened, .hear Sample.nobody,
      .hear Sample.spotless]
    s.channel.status.state = .connected ∧ s.journal.session.Reported .players ∧
      ∃ list, (s.store.snapshot Sample.host.id).bind Status.players = some list := by
  intro s
  obtain ⟨uri, hseeding⟩ := Sample.run_seeding
  have hs : s = _ := hseeding
  have connected : s.channel.status.state = .connected := by
    rw [hs]
    rfl
  obtain ⟨asking, reported, -⟩ := seeded_of_connected Sample.host Sample.policy false .empty
    [.hear .start, .hear .opened, .hear Sample.nobody, .hear Sample.spotless] connected
  have listening : s.channel.activity = .listening ⟨3, [], ⟨10⟩⟩ := by
    rw [hs]
    rfl
  have undisturbed : ∀ beat ∈ s.journal, beat.disturbs Sample.host.id = false := by
    rw [hs]
    simp [Sample.opening, Sample.seeding, Beat.disturbs]
  have hreported : s.journal.session.Reported .players := by
    by_contra unreported
    obtain ⟨connection, awaiting, hactivity⟩ := asking.mpr unreported
    exact absurd (listening.symm.trans hactivity) (by simp)
  obtain ⟨earlier, list, since, hsession, -, hlist⟩ := reported hreported
  refine ⟨connected, hreported, list, hlist fun beat hmem => undisturbed beat ?_⟩
  apply Journal.mem_of_mem_session
  rw [show s.journal.session = _ from hsession]
  simp [hmem]

/-- A channel may show that it is connected although nothing is known of its server: it has just
connected, and its first question is under way. -/
theorem not_always_seeded :
    ¬ ∀ (server : Server) (settings : ChannelSettings) (cancelled : Bool) (store : StatusStore)
      (moves : List Move),
      let s := (create server settings cancelled store).run moves
      (∀ beat ∈ s.journal, beat.disturbs server.id = false) → s.channel.status.state = .connected →
        ∃ list, .did (.write (.players list)) ∈ s.journal.session ∧
          (s.store.snapshot server.id).bind Status.players = some list := by
  intro seeded
  obtain ⟨uri, hopening⟩ := Sample.run_opening
  have hs := seeded Sample.host Sample.policy false .empty [.hear .start, .hear .opened]
  have hrun : (create Sample.host Sample.policy false .empty).run [.hear .start, .hear .opened] =
    ⟨Sample.connected Sample.first, .empty, Sample.opening uri⟩ := hopening
  rw [hrun] at hs
  obtain ⟨list, -, hlist⟩ := hs (by simp [Sample.opening, Beat.disturbs]) rfl
  simp at hlist

/-- A run only adds to the journal. -/
theorem exists_added (s : Station) (moves : List Move) :
    ∃ added, (s.run moves).journal = s.journal ++ added := by
  let Grown (t : Station) : Prop := ∃ added, t.journal = s.journal ++ added
  refine run_invariant (P := Grown) ?_ ⟨[], by simp⟩ moves
  rintro t move next ⟨added, hadded⟩ steps
  cases steps with
  | hear | other => exact ⟨added ++ _, by rw [hadded, List.append_assoc]⟩

/-- When the bans are refused at the beginning of a session, nothing is reported, and the session
has not reported any. -/
theorem Seeded.exists_quiet {connection : Connection} {awaiting : Connection.Awaiting}
    {signal : Signal} {error : Json} (h : Seeded server store s)
    (asking : s.channel.activity = .asking connection awaiting .seedBans)
    (refused : signal.ending? awaiting.id = some (.refusal error)) :
    ∃ beats, (s.step (.hear signal)).journal = s.journal ++ beats ∧
      ¬ Journal.Reported (s.journal.session ++ beats) .bans ∧
      ∀ beat ∈ beats, beat.disturbs server = false := by
  have listens := (s.channel.steps_step signal).listens_of_refusal asking refused
  have unseeded := h.seeded
  rw [asking] at unseeded
  refine ⟨.heard signal :: (s.channel.step signal).2.map .did, rfl, ?_, by simp [Beat.disturbs]⟩
  rw [Journal.reported_append]
  rintro (earlier | now)
  · exact unseeded.2 (.inr rfl) earlier
  · exact Journal.not_reported_of_silent signal listens.silent now

/-- When the server refuses to tell the bans at the beginning of a session, the session goes on.
Until the bans are reported, what is known of them is what was known when the session began, unless
somebody else interferes. So they are unknown only if they were from the beginning, and no earlier
session has reported them. -/
theorem bans_of_refusal (server : Server) (settings : ChannelSettings) (cancelled : Bool)
    (store : StatusStore) (moves more : List Move) {s : Station} {connection : Connection}
    {awaiting : Connection.Awaiting} {signal : Signal} {error : Json}
    (reached : (create server settings cancelled store).run moves = s)
    (asking : s.channel.activity = .asking connection awaiting .seedBans)
    (refused : signal.ending? awaiting.id = some (.refusal error)) :
    let t := s.step (.hear signal)
    (s.channel.cancelled = false →
      t.channel.status = s.channel.status ∧ t.channel.reconnect = s.channel.reconnect ∧
        ((∃ connection awaiting errand, t.channel.activity = .asking connection awaiting errand) ∨
          ∃ connection, t.channel.activity = .listening connection)) ∧
    ∃ earlier added, s.journal = earlier ++ s.journal.session ∧
      (t.run more).journal = t.journal ++ added ∧
      (¬ Journal.Reported added .bans →
        (∀ beat ∈ s.journal.session ++ added, beat.disturbs server.id = false) →
          (t.run more).store.known server.id .bans =
            (Journal.replay server.id store earlier).known server.id .bans ∧
          ((∀ beat ∈ earlier, beat.disturbs server.id = false) →
            ((t.run more).store.known server.id .bans = none ↔
              store.known server.id .bans = none ∧ ¬ Journal.Reported earlier .bans))) := by
  intro t
  have hseeded : Seeded server.id store s :=
    reached ▸ seeded_run server settings cancelled store moves
  have recorded : Recorded server.id store (t.run more) :=
    run_invariant Recorded.step (hseeded.toRecorded.step (s.steps_step (.hear signal))) more
  refine ⟨((s.channel.steps_step signal).listens_of_refusal asking refused).goes_on, ?_⟩
  obtain ⟨earlier, hjournal⟩ := s.journal.exists_append_session
  obtain ⟨beats, hbeats, unseeded, alone⟩ := hseeded.exists_quiet asking refused
  obtain ⟨added, hadded⟩ := t.exists_added more
  refine ⟨earlier, added, hjournal, hadded, fun unreported undisturbed => ?_⟩
  have hsplit : (t.run more).journal = earlier ++ (s.journal.session ++ beats ++ added) := by
    rw [hadded, hbeats, ← List.append_assoc, ← List.append_assoc, ← hjournal]
  have hknown : (t.run more).store.known server.id .bans =
      (Journal.replay server.id store earlier).known server.id .bans := by
    apply recorded.known_of_unreported hsplit
    · rw [Journal.reported_append]
      exact fun reported => reported.elim unseeded unreported
    · obtain ⟨hsession, hlater⟩ := List.forall_mem_append.mp undisturbed
      exact List.forall_mem_append.mpr
        ⟨List.forall_mem_append.mpr ⟨hsession, alone⟩, hlater⟩
  exact ⟨hknown, fun calm => hknown ▸ Journal.known_replay_eq_none_iff calm⟩

end Station

namespace Sample

/-- The answer to the second question of a session of a server that has no bans to tell of. -/
def unable : Signal := .arrival (.text "\x7b\"id\":2,\"error\":\x7b\x7d\x7d")

theorem decode_unable :
    Frame.decode "\x7b\"id\":2,\"error\":\x7b\x7d\x7d" = .ok (.failure 2 (.obj [])) := by
  have hmembers : Frame.decodeMembers maxDepth (.object
      [(.text (some "id"), .number ⟨false, ['2'], [], none⟩),
        (.text (some "error"), .object [] true)] true) =
      .ok ⟨some 2, none, none, some (.obj [])⟩ := rfl
  exact Frame.decode_eq_ofMembers (Document.read_toList rfl rfl) hmembers

theorem ending?_unable : unable.ending? 2 = some (.refusal (.obj [])) := by
  simp [unable, Signal.ending?, decode_unable]

/-- The channel is not told who is banned, and listens. -/
theorem step_unable : (connected second).step unable =
    (connected (.listening ⟨3, [], ⟨10⟩⟩), []) := by
  have hended := ending?_unable
  simp only [unable] at hended ⊢
  simp only [Channel.step, connected, second, Channel.hear_eq, hended, Channel.conclude]
  rfl

/-- The station loses its first session after it was told who is banned, and is told who plays in
the second one. -/
def resuming : List Station.Move :=
  [.hear .start, .hear .opened, .hear nobody, .hear spotless, .hear (.arrival .close),
    .hear .alarm, .hear .opened, .hear nobody]

/-- The journal of the station from where it listens in its first session. -/
def resumed (uri : Uri) : Journal :=
  [.heard (.arrival .close), .did (.show ⟨.disconnected, 1, ⟨1⟩⟩), .did (.sleep ⟨1⟩),
    .heard .alarm, .did (.show ⟨.connecting, 1, ⟨1⟩⟩), .did (.connect uri host.secret),
    .heard .opened, .did (.show ⟨.connected, 0, ⟨1⟩⟩),
    .did (.send (Errand.seedPlayers.request 1)), .heard nobody, .did (.write (.players [])),
    .did (.publish (.players [])), .did (.send (Errand.seedBans.request 2))]

theorem run_resuming : ∃ uri again, station.run resuming =
    ⟨connected second, ((StatusStore.empty.setPlayers host.id []).setBans host.id []).setPlayers
      host.id [], opening uri ++ seeding ++ resumed again⟩ := by
  obtain ⟨uri, hseeding⟩ := run_seeding
  obtain ⟨again, attempted⟩ := attempt_idle
  refine ⟨uri, again, ?_⟩
  have hrun : station.run resuming = (station.run [.hear .start, .hear .opened, .hear nobody,
      .hear spotless]).run [.hear (.arrival .close), .hear .alarm, .hear .opened,
      .hear nobody] := rfl
  have lost : (connected (.listening ⟨3, [], ⟨10⟩⟩)).step (.arrival .close) =
      (idle ⟨1, ⟨1⟩⟩ .resting, [.show ⟨.disconnected, 1, ⟨1⟩⟩, .sleep ⟨1⟩]) := rfl
  have woken : (idle ⟨1, ⟨1⟩⟩ .resting).step .alarm = (attempting ⟨1, ⟨1⟩⟩, _) :=
    attempted ⟨1, ⟨1⟩⟩ .resting
  have opened : (attempting ⟨1, ⟨1⟩⟩).step .opened = (connected first,
      [.show ⟨.connected, 0, ⟨1⟩⟩, .send (Errand.seedPlayers.request 1)]) := rfl
  rw [hrun, hseeding]
  simp only [Station.run, List.foldl_cons, List.foldl_nil, Station.step, lost, woken, opened,
    step_nobody]
  rfl

theorem undisturbed_resuming :
    ∀ beat ∈ (station.run resuming).journal, beat.disturbs host.id = false := by
  obtain ⟨uri, again, hresuming⟩ := run_resuming
  rw [hresuming]
  simp [opening, seeding, resumed, Beat.disturbs]

end Sample

namespace Station

/-- The bans that the first session has reported are still known when the second one is refused
them. -/
theorem bans_of_refusal_sample :
    let s := Sample.station.run Sample.resuming
    let t := s.step (.hear Sample.unable)
    t.channel.status = s.channel.status ∧ ∃ earlier, s.journal = earlier ++ s.journal.session ∧
      (t.store.known Sample.host.id .bans = none ↔ ¬ Journal.Reported earlier .bans) := by
  intro s t
  obtain ⟨uri, again, hresuming⟩ := Sample.run_resuming
  have hs : s.channel = Sample.connected Sample.second := congrArg Station.channel hresuming
  have asking : s.channel.activity = Sample.second := congrArg Channel.activity hs
  obtain ⟨goes_on, earlier, added, hjournal, hadded, hunknown⟩ :=
    bans_of_refusal Sample.host Sample.policy false .empty Sample.resuming [] (s := s) rfl asking
      Sample.ending?_unable
  have active : s.channel.cancelled = false := congrArg Channel.cancelled hs
  obtain rfl : added = [] := List.self_eq_append_right.mp hadded
  have undisturbed := Sample.undisturbed_resuming
  obtain ⟨-, hnone⟩ := hunknown (by simp [Journal.Reported]) (by
    rw [List.append_nil]
    exact fun beat hmem => undisturbed beat (Journal.mem_of_mem_session hmem))
  refine ⟨(goes_on active).1, earlier, hjournal, (hnone ?_).trans (and_iff_right rfl)⟩
  intro beat hmem
  exact undisturbed beat (hjournal ▸ List.mem_append_left _ hmem)

/-- The bans may be known although the server has refused to tell them in this session: an earlier
session has reported them. -/
theorem not_always_unknown :
    ¬ ∀ (server : Server) (settings : ChannelSettings) (cancelled : Bool) (moves : List Move)
      (connection : Connection) (awaiting : Connection.Awaiting) (signal : Signal) (error : Json),
      let s := (create server settings cancelled .empty).run moves
      (∀ beat ∈ s.journal, beat.disturbs server.id = false) →
        s.channel.activity = .asking connection awaiting .seedBans →
          signal.ending? awaiting.id = some (.refusal error) →
            ((s.step (.hear signal)).store.snapshot server.id).bind Status.bans = none := by
  intro unknown
  obtain ⟨uri, again, hresuming⟩ := Sample.run_resuming
  have hnone := unknown Sample.host Sample.policy false Sample.resuming ⟨3, [], ⟨10⟩⟩
    ⟨2, Request.bansMethod⟩ Sample.unable (.obj []) Sample.undisturbed_resuming
    (congrArg (fun s => s.channel.activity) hresuming) Sample.ending?_unable
  have hstep : (create Sample.host Sample.policy false .empty).run Sample.resuming = _ := hresuming
  rw [hstep] at hnone
  simp [Station.step, Sample.step_unable, StatusStore.setPlayers, StatusStore.setBans] at hnone

end Station

end Flotilla
