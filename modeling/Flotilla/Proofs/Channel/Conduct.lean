import Flotilla.Management.Channel

/-!
# What a channel does

`Channel.Steps` lists all that a channel can do about a signal, each kind of step with the
condition under which it is made and with its effects in order. `steps_step` says that there
are no other steps. Three things occur in several kinds of step and are listed on their own:
how a channel fails, how it tries to connect, and how it goes on to listen. Every invariant of
a channel is proved by going through these lists; nothing after this module unfolds `step`.

What a signal means to a channel in a session is said without the channel: which announcement
it carries, whether it ends the connection, and how it ends the question of a number.
-/

namespace Flotilla

/-- How a question ends. -/
inductive Ending where
  | result (result : Json)
  /-- The server answers with an error. -/
  | refusal (error : Json)
  /-- The connection is of no use any more, or the time is over. -/
  | loss

namespace Signal

/-- The announcement that a signal carries. -/
def notification? : Signal → Option Notification
  | .arrival (.text text) =>
    match Frame.decode text with
    | .ok (.notification notification) => some notification
    | _ => none
  | _ => none

/-- Whether a signal ends the connection, whatever is awaited. -/
def breaks : Signal → Bool
  | .arrival (.text text) =>
    match Frame.decode text with
    | .error _ => true
    | .ok _ => false
  | .arrival .binary | .arrival .close | .arrival .broken => true
  | _ => false

/-- How a signal ends the question of a number, if it does. -/
def ending? (id : Nat) : Signal → Option Ending
  | .arrival (.text text) =>
    match Frame.decode text with
    | .ok (.response answered result) => if answered = id then some (.result result) else none
    | .ok (.failure answered error) => if answered = id then some (.refusal error) else none
    | .ok (.notification _) => none
    | .error _ => some .loss
  | .arrival .binary | .arrival .close | .arrival .broken => some .loss
  | .arrival .deadline | .alarm => some .loss
  | _ => none

/-- An announcement ends nothing. -/
theorem ending?_of_notification {signal : Signal} {notification : Notification}
    (h : signal.notification? = some notification) (id : Nat) : signal.ending? id = none := by
  cases signal with
  | arrival arrival =>
      cases arrival with
      | text text =>
          simp only [notification?] at h
          split at h
          next heq => simp [ending?, heq]
          next => simp at h
      | _ => simp [notification?] at h
  | _ => simp [notification?] at h

theorem notification?_of_ending {signal : Signal} {id : Nat} {ending : Ending}
    (h : signal.ending? id = some ending) : signal.notification? = none := by
  cases hnotification : signal.notification? with
  | none => rfl
  | some notification => simp [ending?_of_notification hnotification] at h

end Signal

namespace Errand

/-- The question that an errand asks, under a number. -/
def request (errand : Errand) (id : Nat) : Request := ⟨id, errand.method, none⟩

end Errand

namespace Channel

/-- Whether a signal means nothing to a channel that has no session. -/
def Ignores (c : Channel) (signal : Signal) : Prop :=
  match c.activity, signal with
  | .asking .., _ | .listening _, _ | _, .cancel => False
  | .starting, .start | .connecting, .opened | .connecting, .refused | .connecting, .alarm
  | .resting, .alarm => False
  | _, _ => True

/-- How a channel fails: it counts the failure, and rests unless it is cancelled. -/
inductive Fails (c : Channel) : List Effect → Channel → Prop where
  | rest (active : c.cancelled = false) {reconnect status}
      (counted : reconnect = c.reconnect.fail c.settings.backoff)
      (shown : status = ⟨.disconnected, reconnect.failures, reconnect.backoff⟩) :
      Fails c [.show status, .sleep reconnect.backoff]
        { c with reconnect := reconnect, status := status, activity := .resting }
  | finish (cancelled : c.cancelled = true) {reconnect status}
      (counted : reconnect = c.reconnect.fail c.settings.backoff)
      (shown : status = ⟨.disconnected, reconnect.failures, reconnect.backoff⟩) :
      Fails c [.show status, .show status]
        { c with reconnect := reconnect, status := status, activity := .finished }

/-- How a channel tries to connect. An endpoint that cannot be used fails at once. -/
inductive Attempts (c : Channel) : List Effect → Channel → Prop where
  | connect (active : c.cancelled = false) {uri}
      (resolved : Endpoint.resolve c.endpoint c.server.secret = .ok uri) :
      Attempts c [.show (c.statusIn .connecting), .connect uri c.server.secret]
        { c with status := c.statusIn .connecting, activity := .connecting }
  | unusable (active : c.cancelled = false) {error effects next}
      (resolved : Endpoint.resolve c.endpoint c.server.secret = .error error)
      (fails : Fails { c with status := c.statusIn .connecting, activity := .connecting }
        effects next) :
      Attempts c (.show (c.statusIn .connecting) :: effects) next
  | finish (cancelled : c.cancelled = true) :
      Attempts c [.show (c.statusIn .connecting), .show (c.statusIn .disconnected)]
        { c with status := c.statusIn .disconnected, activity := .finished }

/-- How a channel goes on to listen: it passes over the announcements that call for nothing,
up to the first one that calls for an errand. A cancelled channel comes to its end instead. -/
inductive Listens (c : Channel) (connection : Connection) : List Effect → Channel → Prop where
  | finish (cancelled : c.cancelled = true) :
      Listens c connection [.show (c.statusIn .disconnected)]
        { c with status := c.statusIn .disconnected, activity := .finished }
  | wait (active : c.cancelled = false)
      (idle : ∀ notification ∈ connection.pending, Errand.ofNotification? notification = none) :
      Listens c connection [] { c with activity := .listening { connection with pending := [] } }
  | ask (active : c.cancelled = false) {passed notification rest errand}
      (pending : connection.pending = passed ++ notification :: rest)
      (idle : ∀ notification ∈ passed, Errand.ofNotification? notification = none)
      (calls : Errand.ofNotification? notification = some errand) :
      Listens c connection [.send (errand.request connection.nextId)]
        (c.ask { connection with pending := rest } errand).1

/-- All that a channel can do about a signal. -/
inductive Steps (c : Channel) : Signal → List Effect → Channel → Prop where
  | ignore {signal} (h : c.Ignores signal) : Steps c signal [] c
  | start {effects next} (starting : c.activity = .starting) (attempts : Attempts c effects next) :
      Steps c .start effects next
  | wake {effects next} (resting : c.activity = .resting) (attempts : Attempts c effects next) :
      Steps c .alarm effects next
  | begin (connecting : c.activity = .connecting) {reconnect status}
      (reset : reconnect = Reconnect.start c.settings.backoff)
      (shown : status = ⟨.connected, reconnect.failures, reconnect.backoff⟩) :
      Steps c .opened [.show status, .send (Errand.seedPlayers.request 1)]
        ({ c with reconnect := reconnect, status := status }.ask
          (.opened c.settings.timeout) .seedPlayers).1
  | miss {signal effects next} (connecting : c.activity = .connecting)
      (missed : signal = .refused ∨ signal = .alarm) (fails : Fails c effects next) :
      Steps c signal effects next
  /-- A channel that is busy only takes note that it is cancelled. -/
  | heed (busy : c.activity = .starting ∨ (∃ connection awaiting errand,
        c.activity = .asking connection awaiting errand) ∨ c.activity = .finished) :
      Steps c .cancel [] { c with cancelled := true }
  | stop (idle : c.activity = .connecting ∨ (∃ connection, c.activity = .listening connection) ∨
        c.activity = .resting) :
      Steps c .cancel [.show (c.statusIn .disconnected)]
        { c with
          cancelled := true, status := c.statusIn .disconnected, activity := .finished }
  /-- A question is still under way; an announcement that comes meanwhile is kept. -/
  | keep {signal connection awaiting errand} (uncancelled : signal ≠ .cancel)
      (asking : c.activity = .asking connection awaiting errand)
      (unended : signal.ending? awaiting.id = none) :
      Steps c signal []
        { c with
          activity := .asking
            { connection with pending := connection.pending ++ signal.notification?.toList }
            awaiting errand }
  /-- The first question of a session is answered, and the second one is asked. -/
  | seed {signal connection awaiting result report}
      (asking : c.activity = .asking connection awaiting .seedPlayers)
      (ended : signal.ending? awaiting.id = some (.result result))
      (read : Errand.seedPlayers.report? result = some report) :
      Steps c signal [.write report, .publish report,
          .send (Errand.seedBans.request connection.nextId)]
        (c.ask connection .seedBans).1
  /-- Any other question is answered. -/
  | answer {signal connection awaiting errand result report effects next}
      (asking : c.activity = .asking connection awaiting errand) (later : errand ≠ .seedPlayers)
      (ended : signal.ending? awaiting.id = some (.result result))
      (read : errand.report? result = some report) (listens : Listens c connection effects next) :
      Steps c signal (.write report :: .publish report :: effects) next
  /-- The server has no bans to tell of. -/
  | excuse {signal connection awaiting error effects next}
      (asking : c.activity = .asking connection awaiting .seedBans)
      (ended : signal.ending? awaiting.id = some (.refusal error))
      (listens : Listens c connection effects next) : Steps c signal effects next
  | lose {signal connection awaiting errand ending effects next}
      (asking : c.activity = .asking connection awaiting errand)
      (ended : signal.ending? awaiting.id = some ending)
      (useless : ∀ result, ending = .result result → errand.report? result = none)
      (inexcusable : ∀ error, ending = .refusal error → errand ≠ .seedBans)
      (fails : Fails c effects next) : Steps c signal effects next
  | notice {signal connection notification effects next}
      (listening : c.activity = .listening connection)
      (announced : signal.notification? = some notification)
      (listens : Listens c { connection with pending := [notification] } effects next) :
      Steps c signal effects next
  | drop {signal connection effects next} (listening : c.activity = .listening connection)
      (broken : signal.breaks = true) (fails : Fails c effects next) : Steps c signal effects next
  | overhear {signal connection} (uncancelled : signal ≠ .cancel)
      (listening : c.activity = .listening connection)
      (unannounced : signal.notification? = none) (unbroken : signal.breaks = false) :
      Steps c signal [] c

variable {c : Channel} {connection : Connection} {errand : Errand}

theorem fails_fail (c : Channel) : Fails c c.fail.2 c.fail.1 := by
  obtain ⟨server, settings, reconnect, cancelled, status, activity⟩ := c
  cases cancelled with
  | false => exact .rest rfl rfl rfl
  | true => exact .finish rfl rfl rfl

theorem attempts_attempt (c : Channel) : Attempts c c.attempt.2 c.attempt.1 := by
  obtain ⟨server, settings, reconnect, cancelled, status, activity⟩ := c
  cases cancelled with
  | true => exact .finish rfl
  | false =>
      unfold attempt enter
      simp only [Bool.false_eq_true, if_false]
      split
      next uri resolved => exact .connect rfl resolved
      next error resolved => exact .unusable rfl resolved (fails_fail _)

/-- What a channel does about the announcements that are waiting. -/
theorem listens_listenTo (c : Channel) (connection : Connection) {passed : List Notification}
    (idle : ∀ notification ∈ passed, Errand.ofNotification? notification = none)
    (waiting : List Notification) (pending : connection.pending = passed ++ waiting) :
    Listens c connection (c.listenTo connection waiting).2 (c.listenTo connection waiting).1 := by
  induction waiting generalizing passed with
  | nil =>
      cases hcancelled : c.cancelled with
      | true =>
          simp only [listenTo, hcancelled, if_true]
          exact .finish hcancelled
      | false =>
          have hlisten : c.listenTo connection [] =
              ({ c with activity := .listening { connection with pending := [] } }, []) :=
            if_neg (by simp [hcancelled])
          rw [hlisten]
          exact .wait hcancelled (by simpa [pending] using idle)
  | cons notification rest ih =>
      cases hcancelled : c.cancelled with
      | true =>
          simp only [listenTo, hcancelled, if_true]
          exact .finish hcancelled
      | false =>
          simp only [listenTo, hcancelled, Bool.false_eq_true, if_false]
          cases hcalls : Errand.ofNotification? notification with
          | some errand => exact .ask hcancelled pending idle hcalls
          | none =>
              have hpending : connection.pending = (passed ++ [notification]) ++ rest := by
                simpa using pending
              have hidle := List.forall_mem_append.mpr
                ⟨idle, List.forall_mem_singleton.mpr hcalls⟩
              exact ih hidle hpending

theorem listens_listen (c : Channel) (connection : Connection) :
    Listens c connection (c.listen connection).2 (c.listen connection).1 := by
  have hpending : connection.pending = [] ++ connection.pending := rfl
  exact listens_listenTo c connection (by simp) connection.pending hpending

/-- What a channel does about an arrival while a question is under way. -/
theorem hear_eq (c : Channel) (connection : Connection) (awaiting : Connection.Awaiting)
    (errand : Errand) (arrival : Arrival) :
    c.hear connection awaiting errand arrival =
      match (Signal.arrival arrival).ending? awaiting.id with
      | none =>
        ({ c with
            activity := .asking
              { connection with
                pending := connection.pending ++ (Signal.arrival arrival).notification?.toList }
              awaiting errand }, [])
      | some (.result result) => c.conclude connection errand (.ok result)
      | some (.refusal error) =>
        c.conclude connection errand (.error (.remote awaiting.method error))
      | some .loss => c.fail := by
  cases arrival with
  | text text =>
      cases hframe : Frame.decode text with
      | error fault =>
          simp [hear, Connection.await, Connection.read, Signal.ending?, hframe, conclude]
      | ok frame =>
          cases frame with
          | notification notification =>
              simp [hear, Connection.await, Connection.read, Signal.ending?,
                Signal.notification?, hframe]
          | response id result =>
              by_cases hid : id = awaiting.id <;>
                simp [hear, Connection.await, Connection.read, Signal.ending?,
                  Signal.notification?, hframe, hid]
          | failure id error =>
              by_cases hid : id = awaiting.id <;>
                simp [hear, Connection.await, Connection.read, Signal.ending?,
                  Signal.notification?, hframe, hid]
  | control => simp [hear, Connection.await, Connection.read, Signal.ending?, Signal.notification?]
  | binary => rfl
  | close => rfl
  | broken => rfl
  | deadline => rfl

/-- What a channel does about an arrival while it listens. -/
theorem notice_eq (c : Channel) (connection : Connection) (arrival : Arrival) :
    c.notice connection arrival =
      if (Signal.arrival arrival).breaks then c.fail
      else
        match (Signal.arrival arrival).notification? with
        | some notification => c.listen { connection with pending := [notification] }
        | none => (c, []) := by
  cases arrival with
  | text text =>
      cases hframe : Frame.decode text with
      | error fault =>
          simp [notice, Connection.listen, Connection.read, Signal.breaks, hframe]
      | ok frame =>
          cases frame <;>
            simp [notice, Connection.listen, Connection.read, Signal.breaks,
              Signal.notification?, hframe]
  | control => rfl
  | binary => rfl
  | close => rfl
  | broken => rfl
  | deadline => rfl

/-- What a channel does about a signal that comes while a question is under way. -/
theorem steps_hear {signal : Signal} {awaiting : Connection.Awaiting} (arrival : Arrival)
    (asking : c.activity = .asking connection awaiting errand) (uncancelled : signal ≠ .cancel)
    (hending : signal.ending? awaiting.id = (Signal.arrival arrival).ending? awaiting.id)
    (hnotification : signal.notification? = (Signal.arrival arrival).notification?) :
    Steps c signal (c.hear connection awaiting errand arrival).2
      (c.hear connection awaiting errand arrival).1 := by
  rw [hear_eq, ← hending, ← hnotification]
  cases ended : signal.ending? awaiting.id with
  | none => exact .keep uncancelled asking ended
  | some ending =>
      cases ending with
      | result result =>
          cases read : errand.report? result with
          | none =>
              simp only [conclude, read]
              refine .lose asking ended ?_ ?_ (fails_fail c)
              · intro other heq
                obtain rfl := Ending.result.inj heq
                exact read
              · intro error heq
                simp at heq
          | some report =>
              simp only [conclude, read]
              by_cases first : errand = .seedPlayers
              · subst first
                exact .seed asking ended read
              · have hgoOn : c.goOn connection errand = c.listen connection := by
                  cases errand with
                  | seedPlayers => exact absurd rfl first
                  | seedBans => rfl
                  | players => rfl
                  | bans => rfl
                simp only [hgoOn, after, List.cons_append, List.nil_append]
                exact .answer asking first ended read (listens_listen c connection)
      | refusal error =>
          simp only [conclude]
          by_cases excused : errand = .seedBans
          · subst excused
            simp only [if_true]
            exact .excuse asking ended (listens_listen c connection)
          · simp only [excused, if_false]
            refine .lose asking ended ?_ ?_ (fails_fail c)
            · intro result heq
              simp at heq
            · intro _ _
              exact excused
      | loss =>
          refine .lose asking ended ?_ ?_ (fails_fail c)
          · intro result heq
            simp at heq
          · intro error heq
            simp at heq

/-- What a channel does about an arrival while it listens. -/
theorem steps_notice {arrival : Arrival} (listening : c.activity = .listening connection) :
    Steps c (.arrival arrival) (c.notice connection arrival).2
      (c.notice connection arrival).1 := by
  rw [notice_eq]
  cases broken : (Signal.arrival arrival).breaks with
  | true => exact .drop listening broken (fails_fail c)
  | false =>
      cases announced : (Signal.arrival arrival).notification? with
      | some notification => exact .notice listening announced (listens_listen c _)
      | none => exact .overhear (by simp) listening announced broken

theorem steps_cancel (c : Channel) : Steps c .cancel c.cancel.2 c.cancel.1 := by
  obtain ⟨server, settings, reconnect, cancelled, status, activity⟩ := c
  cases activity with
  | starting => exact .heed (.inl rfl)
  | connecting => exact .stop (.inl rfl)
  | asking connection awaiting errand => exact .heed (.inr (.inl ⟨_, _, _, rfl⟩))
  | listening connection => exact .stop (.inr (.inl ⟨_, rfl⟩))
  | resting => exact .stop (.inr (.inr rfl))
  | finished => exact .heed (.inr (.inr rfl))

/-- Every step of a channel is one of those listed. -/
theorem steps_step (c : Channel) (signal : Signal) :
    Steps c signal (c.step signal).2 (c.step signal).1 := by
  cases hactivity : c.activity with
  | starting =>
      cases signal with
      | start => simpa [step, hactivity] using Steps.start hactivity (attempts_attempt c)
      | cancel => simpa [step] using steps_cancel c
      | _ => simpa [step, hactivity] using Steps.ignore (by simp [Ignores, hactivity])
  | connecting =>
      cases signal with
      | opened =>
          have hstep : c.step .opened = c.begin := by simp [step, hactivity]
          rw [hstep]
          exact .begin hactivity rfl rfl
      | refused => simpa [step, hactivity] using Steps.miss hactivity (.inl rfl) (fails_fail c)
      | alarm => simpa [step, hactivity] using Steps.miss hactivity (.inr rfl) (fails_fail c)
      | cancel => simpa [step] using steps_cancel c
      | _ => simpa [step, hactivity] using Steps.ignore (by simp [Ignores, hactivity])
  | asking connection awaiting errand =>
      have unheard {signal : Signal} (uncancelled : signal ≠ .cancel)
          (unended : signal.ending? awaiting.id = none) (unannounced : signal.notification? = none) :
          Steps c signal [] c := by
        have hkeep := Steps.keep uncancelled hactivity unended
        rw [unannounced, Option.toList_none, List.append_nil, ← hactivity] at hkeep
        exact hkeep
      cases signal with
      | alarm =>
          have halarm : Steps c .alarm _ _ := steps_hear .deadline hactivity (by simp) rfl rfl
          simpa [step, hactivity] using halarm
      | arrival arrival =>
          simpa [step, hactivity] using steps_hear arrival hactivity (by simp) rfl rfl
      | cancel => simpa [step] using steps_cancel c
      | start => simpa [step, hactivity] using @unheard .start (by simp) rfl rfl
      | opened => simpa [step, hactivity] using @unheard .opened (by simp) rfl rfl
      | refused => simpa [step, hactivity] using @unheard .refused (by simp) rfl rfl
  | listening connection =>
      cases signal with
      | arrival arrival => simpa [step, hactivity] using steps_notice hactivity
      | cancel => simpa [step] using steps_cancel c
      | _ => simpa [step, hactivity] using Steps.overhear (by simp) hactivity rfl rfl
  | resting =>
      cases signal with
      | alarm => simpa [step, hactivity] using Steps.wake hactivity (attempts_attempt c)
      | cancel => simpa [step] using steps_cancel c
      | _ => simpa [step, hactivity] using Steps.ignore (by simp [Ignores, hactivity])
  | finished =>
      cases signal with
      | cancel => simpa [step] using steps_cancel c
      | _ => simpa [step, hactivity] using Steps.ignore (by simp [Ignores, hactivity])

end Channel

namespace Sample

/-- A server announces that somebody has joined. -/
def joined : Arrival := .text "\x7b\"method\":\"minecraft:notification/players/joined\"\x7d"

theorem ofMethod_joined :
    Notification.ofMethod "minecraft:notification/players/joined" = .playersJoined := by
  have haction : Notification.action? "minecraft:notification/players/joined".toList =
      some "players/joined".toList := by
    simp [Notification.action?, Split.first, Split.after?]
  have hknown : (Notification.known.find? fun entry =>
      entry.1.toList = "players/joined".toList) = some ("players/joined", .playersJoined) :=
    List.find?_cons_of_pos (decide_eq_true rfl)
  rw [Notification.ofMethod, haction, Option.bind_some, hknown]

theorem decode_joined :
    Frame.decode "\x7b\"method\":\"minecraft:notification/players/joined\"\x7d" =
      .ok (.notification .playersJoined) := by
  have hmembers : Frame.decodeMembers maxDepth (.object
      [(.text (some "method"), .text (some "minecraft:notification/players/joined"))] true) =
      .ok ⟨none, some "minecraft:notification/players/joined", none, none⟩ := rfl
  rw [← ofMethod_joined]
  exact Frame.decode_eq_ofMembers (Document.read_toList rfl rfl) hmembers

end Sample

end Flotilla
