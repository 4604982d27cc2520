import Flotilla.Proofs.Channel.Telling
import Flotilla.Proofs.Connection.Conservation

/-!
# How requests end

Requests are numbered from one, and an answer carries the number of its request. While a request
waits, whatever comes in either decides it or is passed over: the answer with its number does, and
so does anything after which the connection is of no use, and the deadline. Announcements are kept,
and answers with other numbers are dropped. `Connection.Ends` says so without the connection.

The number of a request is the number of calls up to it, those included that the socket did not
take and those that ran out of time. So an answer that comes too late is addressed to a number that
no later request has, and is dropped by all of them.
-/

namespace Flotilla

namespace Arrival

/-- What decides the request of a number, and how the request ends then. -/
inductive Decides (id : Nat) (method : String) (limit : Span) :
    Arrival → Except ConnectionError Json → Prop where
  | result {text result} (frame : Frame.decode text = .ok (.response id result)) :
      Decides id method limit (.text text) (.ok result)
  | refusal {text error} (frame : Frame.decode text = .ok (.failure id error)) :
      Decides id method limit (.text text) (.error (.remote method error))
  | undecodable {text error} (frame : Frame.decode text = .error error) :
      Decides id method limit (.text text) (.error (.protocol error))
  | binary : Decides id method limit .binary (.error (.protocol .binary))
  | close : Decides id method limit .close (.error .closed)
  | broken : Decides id method limit .broken (.error .broken)
  | deadline : Decides id method limit .deadline (.error (.timeout method limit))

/-- What the request of a number passes over. -/
inductive Passes (id : Nat) : Arrival → Prop where
  | announcement {text notification}
      (frame : Frame.decode text = .ok (.notification notification)) : Passes id (.text text)
  | result {text answered result} (frame : Frame.decode text = .ok (.response answered result))
      (other : answered ≠ id) : Passes id (.text text)
  | refusal {text answered error} (frame : Frame.decode text = .ok (.failure answered error))
      (other : answered ≠ id) : Passes id (.text text)
  | control : Passes id .control

/-- Whatever comes in while a request waits decides it or is passed over. -/
theorem passes_or_decides (id : Nat) (method : String) (limit : Span) (arrival : Arrival) :
    arrival.Passes id ∨ ∃ outcome, arrival.Decides id method limit outcome := by
  cases arrival with
  | text text =>
      cases frame : Frame.decode text with
      | error error => exact .inr ⟨_, .undecodable frame⟩
      | ok decoded =>
          cases decoded with
          | notification notification => exact .inl (.announcement frame)
          | response answered result =>
              by_cases own : answered = id
              · subst own
                exact .inr ⟨_, .result frame⟩
              · exact .inl (.result frame own)
          | failure answered error =>
              by_cases own : answered = id
              · subst own
                exact .inr ⟨_, .refusal frame⟩
              · exact .inl (.refusal frame own)
  | binary => exact .inr ⟨_, .binary⟩
  | control => exact .inl .control
  | close => exact .inr ⟨_, .close⟩
  | broken => exact .inr ⟨_, .broken⟩
  | deadline => exact .inr ⟨_, .deadline⟩

end Arrival

namespace Connection

/-- How the request of a number ends over what comes in, which announcements it keeps and what it
leaves unread. The first arrival that decides it does so; without one the request still waits. -/
inductive Ends (id : Nat) (method : String) (limit : Span) :
    List Arrival → Option (Except ConnectionError Json) → List Notification → List Arrival →
      Prop where
  | decided {passed arrival rest outcome} (passes : ∀ a ∈ passed, a.Passes id)
      (decides : arrival.Decides id method limit outcome) :
      Ends id method limit (passed ++ arrival :: rest) (some outcome)
        (Arrival.notifications passed) rest
  | waits {arrivals} (passes : ∀ a ∈ arrivals, a.Passes id) :
      Ends id method limit arrivals none (Arrival.notifications arrivals) []

variable {connection : Connection} {awaiting : Awaiting} {id : Nat} {method : String}
  {limit : Span} {arrival : Arrival} {arrivals rest : List Arrival}
  {outcome : Option (Except ConnectionError Json)} {queued : List Notification}

/-- Whatever comes in first and is passed over, the request ends as it would without it. -/
theorem Ends.cons (passes : arrival.Passes id)
    (ends : Ends id method limit arrivals outcome queued rest) :
    Ends id method limit (arrival :: arrivals) outcome
      (arrival.notification?.toList ++ queued) rest := by
  cases ends with
  | decided passed_over decides =>
      rw [← Arrival.notifications_cons, ← List.cons_append]
      exact .decided (List.forall_mem_cons.mpr ⟨passes, passed_over⟩) decides
  | waits passed_over =>
      rw [← Arrival.notifications_cons]
      exact .waits (List.forall_mem_cons.mpr ⟨passes, passed_over⟩)

theorem exists_ends (id : Nat) (method : String) (limit : Span) (arrivals : List Arrival) :
    ∃ outcome queued rest, Ends id method limit arrivals outcome queued rest := by
  induction arrivals with
  | nil => exact ⟨_, _, _, .waits (List.forall_mem_nil _)⟩
  | cons arrival rest ih =>
      obtain passes | ⟨outcome, decides⟩ := arrival.passes_or_decides id method limit
      · obtain ⟨outcome, queued, left, ends⟩ := ih
        exact ⟨_, _, _, ends.cons passes⟩
      · have ends : Ends id method limit ([] ++ arrival :: rest) (some outcome)
            (Arrival.notifications []) rest := .decided (List.forall_mem_nil _) decides
        exact ⟨_, _, _, ends⟩

/-- A request returns nothing but what is addressed to it. -/
theorem Ends.exists_result {result : Json} (ends : Ends id method limit arrivals outcome queued rest)
    (h : outcome = some (.ok result)) :
    ∃ text, .text text ∈ arrivals ∧ Frame.decode text = .ok (.response id result) := by
  cases ends with
  | waits => simp at h
  | decided passes decides =>
      cases decides with
      | @result text found frame =>
          obtain rfl := Except.ok.inj (Option.some.inj h)
          exact ⟨text, by simp, frame⟩
      | _ => simp at h

/-- A request is refused by nothing but what is addressed to it. -/
theorem Ends.exists_refusal {refused : String} {error : Json}
    (ends : Ends id method limit arrivals outcome queued rest)
    (h : outcome = some (.error (.remote refused error))) :
    (ConnectionError.remote refused error).message =
        "request " ++ method ++ " rejected: " ++ error.text ∧
      ∃ text, .text text ∈ arrivals ∧ Frame.decode text = .ok (.failure id error) := by
  cases ends with
  | waits => simp at h
  | decided passes decides =>
      cases decides with
      | @refusal text found frame =>
          obtain ⟨rfl, rfl⟩ := ConnectionError.remote.inj (Except.error.inj (Option.some.inj h))
          exact ⟨rfl, text, by simp, frame⟩
      | _ => simp at h

theorem await_of_decides (connection : Connection) {outcome : Except ConnectionError Json}
    (h : arrival.Decides awaiting.id awaiting.method connection.timeout outcome) :
    connection.await awaiting arrival = (some outcome, connection) := by
  cases h with
  | result frame | refusal frame | undecodable frame => simp [await, read, frame]
  | binary | close | broken | deadline => rfl

theorem await_of_passes (h : arrival.Passes awaiting.id) :
    connection.await awaiting arrival =
      (none, { connection with
        pending := connection.pending ++ arrival.notification?.toList }) := by
  have hunended : (connection.await awaiting arrival).1 = none := by
    cases h with
    | announcement frame => simp [await, read, frame]
    | result frame other | refusal frame other => simp [await, read, frame, other]
    | control => rfl
  exact Prod.ext hunended (connection.await_snd awaiting arrival)

/-- What waits for an answer passes over what is not for it, and keeps the announcements. -/
theorem awaitAll_append (connection : Connection) {passed : List Arrival}
    (passes : ∀ a ∈ passed, a.Passes awaiting.id) (rest : List Arrival) :
    connection.awaitAll awaiting (passed ++ rest) =
      { connection with
        pending := connection.pending ++ Arrival.notifications passed }.awaitAll awaiting rest := by
  induction passed generalizing connection with
  | nil => simp
  | cons first passed ih =>
      obtain ⟨hfirst, hpassed⟩ := List.forall_mem_cons.mp passes
      rw [List.cons_append, awaitAll, await_of_passes hfirst, Arrival.notifications_cons,
        ← List.append_assoc]
      exact ih _ hpassed

theorem awaitAll_of_ends
    (h : Ends awaiting.id awaiting.method connection.timeout arrivals outcome queued rest) :
    connection.awaitAll awaiting arrivals =
      (outcome, { connection with pending := connection.pending ++ queued }, rest) := by
  cases h with
  | @decided passed arrival rest outcome passes decides =>
      let kept : Connection :=
        { connection with pending := connection.pending ++ Arrival.notifications passed }
      have decided : kept.await awaiting arrival = (some outcome, kept) :=
        await_of_decides kept decides
      rw [awaitAll_append connection passes, awaitAll, decided]
  | waits passes =>
      have hwaits := awaitAll_append connection passes []
      rwa [List.append_nil, awaitAll] at hwaits

/-- A wait for an announcement leaves the numbers and the deadline alone. -/
theorem listenAll_keeps (connection : Connection) (arrivals : List Arrival) :
    (connection.listenAll arrivals).2.1.nextId = connection.nextId ∧
      (connection.listenAll arrivals).2.1.timeout = connection.timeout := by
  cases hpending : connection.pending with
  | cons notification waiting => simp [listenAll, takePending, hpending]
  | nil =>
      obtain ⟨read, -, hconnection, -⟩ := connection.listenFor_reads arrivals
      simp [listenAll, takePending, hpending, hconnection]

/-- Any request on any connection: what is sent, and what becomes of it. -/
theorem request_of_ends
    (h : Ends connection.nextId method connection.timeout arrivals outcome queued rest) :
    connection.request method arrivals =
      (⟨connection.nextId, method, none⟩, outcome,
        { connection with
          nextId := (connection.nextId + 1) % Frame.idBound
          pending := connection.pending ++ queued }, rest) := by
  let awaiting : Awaiting := ⟨connection.nextId, method⟩
  let numbered : Connection :=
    { connection with nextId := (connection.nextId + 1) % Frame.idBound }
  have answered : numbered.awaitAll awaiting arrivals = _ := awaitAll_of_ends h
  exact congrArg (Prod.mk _) answered

end Connection

/-- What happens to a connection whose requests are counted. -/
inductive Turn where
  | arrive (arrival : Arrival)
  /-- A request is made, and the socket takes its frame or does not. -/
  | request (method : String) (taken : Bool)
  /-- The next announcement is asked for. -/
  | next

/-- A session with the record of its requests. -/
structure Dialogue where
  session : Session
  /-- What the socket has taken, in order. -/
  sent : List Request
  /-- How each call ended; `none` if it was given up. -/
  outcomes : List (Option (Except ConnectionError Json))

namespace Dialogue

/-- A connection that has not been used yet. -/
def opened (timeout : Span) : Dialogue := ⟨.opened timeout, [], []⟩

/-- Makes a request on a session. A socket that does not take the frame is a connection that breaks
before anything is read. -/
def call (d : Dialogue) (method : String) (taken : Bool) : Dialogue :=
  let unread := if taken then d.session.unread else .broken :: d.session.unread
  let (request, outcome, connection, unread) := d.session.connection.request method unread
  ⟨{ d.session with connection, unread }, d.sent ++ (if taken then [request] else []),
    d.outcomes ++ [outcome]⟩

/-- What a turn makes of a dialogue. -/
def step (d : Dialogue) : Turn → Dialogue
  | .arrive arrival => { d with session := d.session.step (.arrive arrival) }
  | .request method taken => d.call method taken
  | .next => { d with session := d.session.step .next }

/-- What a sequence of turns makes of a dialogue. -/
def run (d : Dialogue) (turns : List Turn) : Dialogue := turns.foldl step d

variable {d : Dialogue} {timeout : Span} {method : String}
  {outcome : Option (Except ConnectionError Json)} {queued : List Notification}
  {rest : List Arrival}

/-- What a call comes to whose frame is taken. -/
theorem call_of_ends (ends : Connection.Ends d.session.connection.nextId method
      d.session.connection.timeout d.session.unread outcome queued rest) :
    d.call method true =
      ⟨{ d.session with
          connection :=
            { d.session.connection with
              nextId := (d.session.connection.nextId + 1) % Frame.idBound
              pending := d.session.connection.pending ++ queued }
          unread := rest },
        d.sent ++ [⟨d.session.connection.nextId, method, none⟩], d.outcomes ++ [outcome]⟩ := by
  simp [call, Connection.request_of_ends ends]

/-- What a call comes to whose frame is not taken: its number is used up, and nothing is read. -/
theorem call_untaken (d : Dialogue) (method : String) :
    d.call method false =
      ⟨{ d.session with
          connection :=
            { d.session.connection with
              nextId := (d.session.connection.nextId + 1) % Frame.idBound } },
        d.sent, d.outcomes ++ [some (.error .broken)]⟩ := by
  have ends : Connection.Ends d.session.connection.nextId method d.session.connection.timeout
      ([] ++ .broken :: d.session.unread) (some (.error .broken)) (Arrival.notifications [])
      d.session.unread := .decided (List.forall_mem_nil _) .broken
  have broken := Connection.request_of_ends ends
  rw [List.nil_append] at broken
  simp [call, broken]

/-- Calls are numbered from one, and what was sent has the number of an earlier call. -/
structure Numbered (d : Dialogue) (timeout : Span) : Prop where
  limit : d.session.connection.timeout = timeout
  nextId : d.session.connection.nextId = (d.outcomes.length + 1) % Frame.idBound
  earlier : d.outcomes.length < Frame.idBound →
    ∀ request ∈ d.sent, request.id ≤ d.outcomes.length

theorem numbered_opened (timeout : Span) : (opened timeout).Numbered timeout where
  limit := rfl
  nextId := (Nat.mod_eq_of_lt (Nat.one_lt_two_pow (by simp))).symm
  earlier := by simp [opened]

/-- A call uses up its number, whether its frame is taken or not. -/
theorem Numbered.call (h : d.Numbered timeout) (method : String) (taken : Bool) :
    (d.call method taken).Numbered timeout := by
  have hnext : (d.session.connection.nextId + 1) % Frame.idBound =
      (d.outcomes.length + 1 + 1) % Frame.idBound := by
    rw [h.nextId, Nat.mod_add_mod]
  cases taken with
  | false =>
      rw [call_untaken]
      refine ⟨h.limit, by simpa using hnext, ?_⟩
      intro bound request hrequest
      rw [List.length_append] at bound ⊢
      exact Nat.le_add_right_of_le (h.earlier (Nat.lt_of_add_right_lt bound) request hrequest)
  | true =>
      obtain ⟨outcome, queued, rest, ends⟩ := Connection.exists_ends d.session.connection.nextId
        method d.session.connection.timeout d.session.unread
      rw [call_of_ends ends]
      refine ⟨h.limit, by simpa using hnext, ?_⟩
      intro bound request hrequest
      rw [List.length_append] at bound ⊢
      cases List.mem_append.mp hrequest with
      | inl hbefore =>
          exact Nat.le_add_right_of_le
            (h.earlier (Nat.lt_of_add_right_lt bound) request hbefore)
      | inr hlast =>
          obtain rfl := List.mem_singleton.mp hlast
          rw [h.nextId]
          exact Nat.mod_le _ _

theorem Numbered.step (h : d.Numbered timeout) (turn : Turn) : (d.step turn).Numbered timeout := by
  cases turn with
  | arrive arrival => exact ⟨h.limit, h.nextId, h.earlier⟩
  | request method taken => exact h.call method taken
  | next =>
      obtain ⟨hnextId, hlimit⟩ := d.session.connection.listenAll_keeps d.session.unread
      exact ⟨hlimit.trans h.limit, hnextId.trans h.nextId, h.earlier⟩

theorem Numbered.run (h : d.Numbered timeout) (turns : List Turn) :
    (d.run turns).Numbered timeout := by
  induction turns generalizing d with
  | nil => exact h
  | cons turn turns ih => exact ih (h.step turn)

/-- The call of number `n` on a connection, whatever has happened before it. Every frame that was
sent earlier has a smaller number. Over what comes in, the call ends in some way, and in no other
than that of the first arrival that decides it: then one frame with the number has been sent,
the announcements passed over wait behind the others, and what comes after the deciding arrival is
left for later calls. So a result or a refusal that the call returns is addressed to its number.
If the socket does not take the frame, the call fails with the connection, and nothing is read. -/
theorem request_outcome (timeout : Span) (turns : List Turn) (method : String) (n : Nat)
    (nth : ((opened timeout).run turns).outcomes.length + 1 = n) (bound : n < Frame.idBound) :
    let d := (opened timeout).run turns
    (∀ earlier ∈ d.sent, earlier.id < n) ∧
    (∃ outcome queued rest,
      Connection.Ends n method timeout d.session.unread outcome queued rest) ∧
    (∀ outcome queued rest,
      Connection.Ends n method timeout d.session.unread outcome queued rest →
      let after := d.step (.request method true)
      after.sent = d.sent ++ [⟨n, method, none⟩] ∧
      after.outcomes = d.outcomes ++ [outcome] ∧
      after.session.connection.pending = d.session.connection.pending ++ queued ∧
      after.session.unread = rest ∧
      (∀ result, outcome = some (.ok result) →
        ∃ text, .text text ∈ d.session.unread ∧ Frame.decode text = .ok (.response n result)) ∧
      ∀ refused error, outcome = some (.error (.remote refused error)) →
        (ConnectionError.remote refused error).message =
          "request " ++ method ++ " rejected: " ++ error.text ∧
        ∃ text, .text text ∈ d.session.unread ∧ Frame.decode text = .ok (.failure n error)) ∧
    let after := d.step (.request method false)
    after.sent = d.sent ∧ after.outcomes = d.outcomes ++ [some (.error .broken)] ∧
      after.session.connection.pending = d.session.connection.pending ∧
      after.session.unread = d.session.unread := by
  intro d
  have numbered : d.Numbered timeout := (numbered_opened timeout).run turns
  have hnextId : d.session.connection.nextId = n := by
    rw [numbered.nextId, nth, Nat.mod_eq_of_lt bound]
  refine ⟨?_, Connection.exists_ends _ _ _ _, ?_, ?_⟩
  · intro earlier hearlier
    have hlt : d.outcomes.length < n := Nat.lt_of_succ_le (Nat.le_of_eq nth)
    exact Nat.lt_of_le_of_lt (numbered.earlier (Nat.lt_trans hlt bound) earlier hearlier) hlt
  · intro outcome queued rest ends after
    have hafter : after = _ := call_of_ends (by rwa [hnextId, numbered.limit])
    rw [hafter, hnextId]
    exact ⟨rfl, rfl, rfl, rfl, fun result => ends.exists_result,
      fun refused error => ends.exists_refusal⟩
  · intro after
    have hafter : after = _ := call_untaken d method
    rw [hafter]
    exact ⟨rfl, rfl, rfl, rfl⟩

end Dialogue

namespace Sample

/-- The first request has run out of time when its answer comes, then somebody joins, and then the
second request is answered. -/
def belated : List Turn :=
  [.arrive .deadline, .request Request.playersMethod true,
    .arrive (.text "\x7b\"id\":1,\"result\":[]\x7d"), .arrive joined,
    .arrive (.text "\x7b\"id\":2,\"result\":[]\x7d")]

theorem unread_belated : ((Dialogue.opened ⟨10⟩).run belated).session.unread =
    [.text "\x7b\"id\":1,\"result\":[]\x7d", joined,
      .text "\x7b\"id\":2,\"result\":[]\x7d"] := rfl

theorem pending_belated :
    ((Dialogue.opened ⟨10⟩).run belated).session.connection.pending = [] := rfl

theorem ends_belated : Connection.Ends 2 Request.bansMethod ⟨10⟩
    ((Dialogue.opened ⟨10⟩).run belated).session.unread (some (.ok (.arr []))) [.playersJoined]
    [] := by
  have late : Arrival.Passes 2 (.text "\x7b\"id\":1,\"result\":[]\x7d") :=
    .result decode_nobody (by decide)
  have announced : Arrival.Passes 2 joined := .announcement decode_joined
  have own : Arrival.Decides 2 Request.bansMethod ⟨10⟩ (.text "\x7b\"id\":2,\"result\":[]\x7d")
      (.ok (.arr [])) := .result decode_spotless
  have queued : Arrival.notifications [.text "\x7b\"id\":1,\"result\":[]\x7d", joined] =
      [.playersJoined] := by
    have hlate : Arrival.notification? (.text "\x7b\"id\":1,\"result\":[]\x7d") = none := by
      simp only [Arrival.notification?, Signal.notification?, decode_nobody]
    simp [hlate, notification?_joined]
  rw [unread_belated, ← queued]
  exact .decided (List.forall_mem_cons.mpr ⟨late, List.forall_mem_singleton.mpr announced⟩) own

end Sample

namespace Dialogue

/-- The late answer to the first request is dropped by the second one, which gets its own. -/
theorem request_outcome_sample :
    let d := (opened ⟨10⟩).run Sample.belated
    let after := d.step (.request Request.bansMethod true)
    d.outcomes.length + 1 = 2 ∧ 2 < Frame.idBound ∧
    after.outcomes = d.outcomes ++ [some (.ok (.arr []))] ∧
    after.session.connection.pending = [.playersJoined] ∧ after.session.unread = [] := by
  have bound : 2 < Frame.idBound := by simp [Frame.idBound]
  obtain ⟨-, -, taken, -⟩ := request_outcome ⟨10⟩ Sample.belated Request.bansMethod 2 rfl bound
  obtain ⟨-, houtcomes, hpending, hunread, -⟩ := taken _ _ _ Sample.ends_belated
  rw [Sample.pending_belated, List.nil_append] at hpending
  exact ⟨rfl, bound, houtcomes, hpending, hunread⟩

end Dialogue

end Flotilla
