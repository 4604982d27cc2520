import Flotilla.Proofs.Channel.Journal

/-!
# Stations

A station is a channel with what is known of the servers and with the journal of the
channel. Two things happen at a station, in any order: the channel hears a signal and does
what it does about it, or somebody else changes what is known. Any sequence of moves is
possible, so a run is just a list of them.

What is known is always what the beats of the journal made of it, and a question that the
channel awaits an answer to is open in its journal.
-/

namespace Flotilla

/-- A channel with what is known of the servers, and with all that has happened around it. -/
structure Station where
  channel : Channel
  store : StatusStore
  journal : Journal

namespace Station

/-- A station at which nothing has happened yet. -/
def create (server : Server) (settings : ChannelSettings) (cancelled : Bool)
    (store : StatusStore) : Station :=
  ⟨.create server settings cancelled, store, []⟩

/-- What may happen at a station. -/
inductive Move where
  | hear (signal : Signal)
  /-- Somebody else changes what is known. -/
  | other (deed : Deed)

/-- One thing happens. -/
def step (s : Station) : Move → Station
  | .hear signal =>
    let (channel, effects) := s.channel.step signal
    ⟨channel, effects.foldl (Fleet.record s.channel.server.id) s.store,
      s.journal ++ .heard signal :: effects.map .did⟩
  | .other deed => ⟨s.channel, deed.apply s.store, s.journal ++ [.other deed]⟩

/-- Many things happen, one after the other. -/
def run (s : Station) (moves : List Move) : Station := moves.foldl step s

variable {s t : Station} {move : Move}

/-- A station works as its channel does within a fleet. -/
theorem step_hear_eq_signal {fleet : Fleet} {number : Nat} (signal : Signal)
    (channel : fleet.channels.get? number = some s.channel) (store : fleet.store = s.store) :
    (fleet.signal number signal).2.channels.get? number = some (s.step (.hear signal)).channel ∧
      (fleet.signal number signal).2.store = (s.step (.hear signal)).store := by
  simp [Fleet.signal, channel, store, step, Index.get?_insert]

/-- All that can happen at a station. -/
inductive Steps (s : Station) : Move → Station → Prop where
  | hear {signal effects channel} (steps : s.channel.Steps signal effects channel) :
      Steps s (.hear signal)
        ⟨channel, effects.foldl (Fleet.record s.channel.server.id) s.store,
          s.journal ++ .heard signal :: effects.map .did⟩
  | other {deed} :
      Steps s (.other deed) ⟨s.channel, deed.apply s.store, s.journal ++ [.other deed]⟩

theorem steps_step (s : Station) (move : Move) : Steps s move (s.step move) := by
  cases move with
  | hear signal => exact .hear (s.channel.steps_step signal)
  | other deed => exact .other

/-- Whatever every move preserves, a run preserves. -/
theorem run_invariant {P : Station → Prop}
    (preserved : ∀ {s move t}, P s → Steps s move t → P t) (h : P s) (moves : List Move) :
    P (s.run moves) := by
  induction moves generalizing s with
  | nil => exact h
  | cons move rest ih => exact ih (preserved h (s.steps_step move))

/-- What the station knows is what the journal made of `store`, and the answer that its
channel awaits is one to an open question. -/
structure Recorded (server : ServerId) (store : StatusStore) (s : Station) : Prop where
  serves : s.channel.server.id = server
  known : s.store = s.journal.replay server store
  asked : ∀ {connection awaiting errand},
    s.channel.activity = .asking connection awaiting errand → s.journal.Open errand awaiting.id

variable {server : ServerId} {store : StatusStore}

theorem recorded_create (server : Server) (settings : ChannelSettings) (cancelled : Bool)
    (store : StatusStore) : Recorded server.id store (create server settings cancelled store) :=
  ⟨rfl, rfl, fun asking => by simp [create, Channel.create] at asking⟩

theorem Recorded.step (h : Recorded server store s) (steps : Steps s move t) :
    Recorded server store t := by
  cases steps with
  | @hear signal effects channel steps =>
      refine ⟨?_, ?_, ?_⟩
      · rw [steps.server]
        exact h.serves
      · simp [h.serves, h.known, Journal.replay, Beat.apply, List.foldl_map]
      · intro connection awaiting errand asking
        rcases steps.asking asking with ⟨before, rfl⟩ | ⟨rfl, unended, kept, asked⟩
        · have hjournal : s.journal ++ .heard signal ::
                (before ++ [Effect.send (errand.request awaiting.id)]).map Beat.did =
              (s.journal ++ .heard signal :: before.map Beat.did) ++
                [.did (.send (errand.request awaiting.id))] := by
            simp
          rw [hjournal]
          exact Journal.open_send
        · exact (h.asked asked).concat unended rfl
  | other =>
      refine ⟨h.serves, ?_, ?_⟩
      · simp [h.known, Journal.replay, Beat.apply]
      · intro connection awaiting errand asking
        exact (h.asked asking).concat trivial rfl

end Station

namespace Sample

/-- A station at which nothing has happened yet. -/
def station : Station := .create host policy false .empty

/-- The journal of the station up to its first question. -/
def opening (uri : Uri) : Journal :=
  [.heard .start, .did (.show ⟨.connecting, 0, ⟨1⟩⟩), .did (.connect uri host.secret),
    .heard .opened, .did (.show ⟨.connected, 0, ⟨1⟩⟩), .did (.send (Errand.seedPlayers.request 1))]

/-- The station asks for the players first. -/
theorem run_opening : ∃ uri, station.run [.hear .start, .hear .opened] =
    ⟨connected first, .empty, opening uri⟩ := by
  obtain ⟨uri, hstart⟩ := step_start
  refine ⟨uri, ?_⟩
  simp only [Station.run, List.foldl_cons, List.foldl_nil, Station.step, station, Station.create,
    hstart]
  rfl

/-- The journal of the station from there until it listens. -/
def seeding : Journal :=
  [.heard nobody, .did (.write (.players [])), .did (.publish (.players [])),
    .did (.send (Errand.seedBans.request 2)), .heard spotless, .did (.write (.bans [])),
    .did (.publish (.bans []))]

/-- The station listens once it is told who plays and who is banned. -/
theorem run_seeding : ∃ uri, station.run [.hear .start, .hear .opened, .hear nobody,
      .hear spotless] =
    ⟨connected (.listening ⟨3, [], ⟨10⟩⟩),
      (StatusStore.empty.setPlayers host.id []).setBans host.id [], opening uri ++ seeding⟩ := by
  obtain ⟨uri, hopening⟩ := run_opening
  refine ⟨uri, ?_⟩
  have hrun : station.run [.hear .start, .hear .opened, .hear nobody, .hear spotless] =
      (station.run [.hear .start, .hear .opened]).run [.hear nobody, .hear spotless] := rfl
  rw [hrun, hopening]
  simp only [Station.run, List.foldl_cons, List.foldl_nil, Station.step, step_nobody,
    step_spotless]
  rfl

/-- What the channel does while the question is under way that it asks because somebody has joined.
-/
def third : Activity := .asking ⟨4, [], ⟨10⟩⟩ ⟨3, Request.playersMethod⟩ .players

/-- The answer to that question: whoever joined has left again. -/
def departed : Signal := .arrival (.text "\x7b\"id\":3,\"result\":[]\x7d")

theorem decode_departed :
    Frame.decode "\x7b\"id\":3,\"result\":[]\x7d" = .ok (.response 3 (.arr [])) := by
  have hmembers : Frame.decodeMembers maxDepth (emptyAnswer '3') =
      .ok ⟨some 3, none, some (.arr []), none⟩ := rfl
  exact Frame.decode_eq_ofMembers (Document.read_toList rfl rfl) hmembers

/-- The channel is told that somebody has joined. -/
theorem step_joined : (connected (.listening ⟨3, [], ⟨10⟩⟩)).step (.arrival joined) =
    (connected third, [.send (Errand.players.request 3)]) := by
  simp only [Channel.step, connected, Channel.notice_eq, joined, Signal.breaks,
    Signal.notification?, decode_joined]
  rfl

/-- The channel is told who plays now. -/
theorem step_departed : (connected third).step departed =
    (connected (.listening ⟨4, [], ⟨10⟩⟩), [.write (.players []), .publish (.players [])]) := by
  have hended : departed.ending? 3 = some (.result (.arr [])) := by
    simp [departed, Signal.ending?, decode_departed]
  have hreport : Errand.players.report? (.arr []) = some (.players []) := report?_seedPlayers
  simp only [departed] at hended ⊢
  simp only [Channel.step, connected, third, Channel.hear_eq, hended, Channel.conclude, hreport]
  rfl

/-- The journal of the station from where it listens until it asks again. -/
def hailing : Journal :=
  [.heard (.arrival joined), .did (.send (Errand.players.request 3))]

/-- The station asks again who plays when somebody joins. -/
theorem run_hailing : ∃ uri, station.run [.hear .start, .hear .opened, .hear nobody,
      .hear spotless, .hear (.arrival joined)] =
    ⟨connected third, (StatusStore.empty.setPlayers host.id []).setBans host.id [],
      opening uri ++ seeding ++ hailing⟩ := by
  obtain ⟨uri, hseeding⟩ := run_seeding
  refine ⟨uri, ?_⟩
  have hrun : station.run [.hear .start, .hear .opened, .hear nobody, .hear spotless,
      .hear (.arrival joined)] = (station.run [.hear .start, .hear .opened, .hear nobody,
        .hear spotless]).step (.hear (.arrival joined)) := rfl
  rw [hrun, hseeding]
  simp only [Station.step, step_joined]
  rfl

end Sample

end Flotilla
