import Flotilla.Proofs.Channel.Conduct

/-!
# The announcements of a connection

Announcements reach a connection while an answer is awaited and while an announcement is, and they
leave it one by one. Whatever a call reads and however it ends, it keeps account: what it hands
out and what it leaves waiting is what was waiting before and what it has read. So nothing that a
connection reads is lost, repeated or passed by something later, in whatever order requests and
waits for announcements take turns.
-/

namespace Flotilla

namespace Arrival

/-- The announcement that an arrival carries. -/
def notification? (arrival : Arrival) : Option Notification :=
  (Signal.arrival arrival).notification?

/-- The announcements among arrivals, in order. -/
def notifications (arrivals : List Arrival) : List Notification :=
  arrivals.filterMap notification?

variable {arrival : Arrival} {arrivals : List Arrival}

@[simp] theorem notifications_nil : notifications [] = [] := rfl

@[simp] theorem notifications_cons :
    notifications (arrival :: arrivals) =
      arrival.notification?.toList ++ notifications arrivals := by
  cases h : arrival.notification? <;> simp [notifications, h]

@[simp] theorem notifications_append {more : List Arrival} :
    notifications (arrivals ++ more) = notifications arrivals ++ notifications more :=
  List.filterMap_append

end Arrival

namespace Connection

/-- The announcement that a wait for one ends with. -/
def handed? : Option (Except ConnectionError Notification) → Option Notification
  | some (.ok notification) => some notification
  | _ => none

variable (connection : Connection) (awaiting : Awaiting) (arrival : Arrival)
  (arrivals : List Arrival) (method : String)

/-- An announcement that comes while an answer is awaited is kept behind the others. Nothing else
changes the connection. -/
theorem await_snd : (connection.await awaiting arrival).2 =
    { connection with pending := connection.pending ++ arrival.notification?.toList } := by
  cases arrival with
  | text text =>
      cases hframe : Frame.decode text with
      | error fault =>
          simp [await, read, Arrival.notification?, Signal.notification?, hframe]
      | ok frame =>
          cases frame <;>
            simp [await, read, Arrival.notification?, Signal.notification?, hframe]
  | _ => simp [await, read, Arrival.notification?, Signal.notification?]

/-- A wait for an announcement ends with the first one that comes. -/
theorem handed?_listen : handed? (connection.listen arrival) = arrival.notification? := by
  cases arrival with
  | text text =>
      cases hframe : Frame.decode text with
      | error fault =>
          simp [listen, read, handed?, Arrival.notification?, Signal.notification?, hframe]
      | ok frame =>
          cases frame <;>
            simp [listen, read, handed?, Arrival.notification?, Signal.notification?, hframe]
  | _ => simp [listen, read, handed?, Arrival.notification?, Signal.notification?]

/-- A request ends with what ends its question. -/
theorem isSome_await : (connection.await awaiting arrival).1.isSome =
    ((Signal.arrival arrival).ending? awaiting.id).isSome := by
  cases arrival with
  | text text =>
      cases hframe : Frame.decode text with
      | error fault => simp [await, read, Signal.ending?, hframe]
      | ok frame =>
          cases frame with
          | notification => simp [await, read, Signal.ending?, hframe]
          | response id | failure id =>
              by_cases hid : id = awaiting.id <;> simp [await, read, Signal.ending?, hframe, hid]
  | _ => simp [await, read, Signal.ending?]

/-- An arrival that neither announces anything nor breaks the connection is passed over. -/
theorem listen_eq_none (quiet : arrival.notification? = none)
    (unbroken : (Signal.arrival arrival).breaks = false) : connection.listen arrival = none := by
  cases arrival with
  | text text =>
      cases hframe : Frame.decode text with
      | error fault => simp [Signal.breaks, hframe] at unbroken
      | ok frame =>
          cases frame with
          | notification notification =>
              simp [Arrival.notification?, Signal.notification?, hframe] at quiet
          | response | failure => simp [listen, read, hframe]
  | control | deadline => simp [listen, read]
  | binary | close | broken => simp [Signal.breaks] at unbroken

/-- The announcements that come during a request are kept in order. -/
theorem awaitAll_reads : ∃ read, arrivals = read ++ (connection.awaitAll awaiting arrivals).2.2 ∧
    (connection.awaitAll awaiting arrivals).2.1.pending =
      connection.pending ++ Arrival.notifications read := by
  induction arrivals generalizing connection with
  | nil => exact ⟨[], rfl, by simp [awaitAll]⟩
  | cons arrival rest ih =>
      have hkept := connection.await_snd awaiting arrival
      cases hawait : connection.await awaiting arrival with
      | mk outcome kept =>
          obtain rfl : kept = _ := by simpa [hawait] using hkept
          cases outcome with
          | some outcome => exact ⟨[arrival], by simp [awaitAll, hawait]⟩
          | none =>
              obtain ⟨read, hrest, hpending⟩ := ih
                { connection with pending := connection.pending ++ arrival.notification?.toList }
              refine ⟨arrival :: read, ?_, ?_⟩
              · simpa [awaitAll, hawait] using hrest
              · simpa [awaitAll, hawait] using hpending

theorem request_reads :
    ∃ read, arrivals = read ++ (connection.request method arrivals).2.2.2 ∧
      (connection.request method arrivals).2.2.1.pending =
        connection.pending ++ Arrival.notifications read :=
  awaitAll_reads _ _ arrivals

theorem listenFor_reads : ∃ read, arrivals = read ++ (connection.listenFor arrivals).2.2 ∧
    (connection.listenFor arrivals).2.1 = connection ∧
    Arrival.notifications read = (handed? (connection.listenFor arrivals).1).toList := by
  induction arrivals with
  | nil => exact ⟨[], rfl, rfl, rfl⟩
  | cons arrival rest ih =>
      have hhanded := connection.handed?_listen arrival
      cases hlisten : connection.listen arrival with
      | some outcome =>
          rw [hlisten] at hhanded
          exact ⟨[arrival], by simp [listenFor, hlisten, hhanded]⟩
      | none =>
          obtain ⟨read, hrest, hconnection, hread⟩ := ih
          have hnone : arrival.notification? = none := by rw [← hhanded, hlisten]; rfl
          refine ⟨arrival :: read, ?_, ?_, ?_⟩
          · simpa [listenFor, hlisten] using hrest
          · simpa [listenFor, hlisten] using hconnection
          · simpa [listenFor, hlisten, hnone] using hread

variable {arrival} {quiet : List Arrival} (rest : List Arrival)

/-- A request reads up to what ends it. -/
theorem awaitAll_split
    (unended : ∀ a ∈ quiet, (Signal.arrival a).ending? awaiting.id = none)
    (ended : ((Signal.arrival arrival).ending? awaiting.id).isSome = true) :
    (connection.awaitAll awaiting (quiet ++ arrival :: rest)).2.2 = rest := by
  induction quiet generalizing connection with
  | nil =>
      have hsome := (connection.isSome_await awaiting arrival).trans ended
      cases hawait : connection.await awaiting arrival with
      | mk outcome kept =>
          rw [hawait] at hsome
          obtain ⟨outcome, rfl⟩ := Option.isSome_iff_exists.mp hsome
          simp [awaitAll, hawait]
  | cons first quiet ih =>
      obtain ⟨hfirst, hquiet⟩ := List.forall_mem_cons.mp unended
      have hnone := connection.isSome_await awaiting first
      cases hawait : connection.await awaiting first with
      | mk outcome kept =>
          obtain rfl : outcome = none := by simpa [hawait, hfirst] using hnone
          simpa [awaitAll, hawait] using ih kept hquiet

/-- A wait for an announcement reads up to what ends it. -/
theorem listenFor_split {outcome : Except ConnectionError Notification}
    (passed : ∀ a ∈ quiet, connection.listen a = none)
    (ended : connection.listen arrival = some outcome) :
    connection.listenFor (quiet ++ arrival :: rest) = (some outcome, connection, rest) := by
  induction quiet with
  | nil => simp [listenFor, ended]
  | cons first quiet ih =>
      obtain ⟨hfirst, hquiet⟩ := List.forall_mem_cons.mp passed
      simpa [listenFor, hfirst] using ih hquiet

/-- The next announcement is the oldest one that waits. Only if none does, something is read. -/
theorem listenAll_reads : ∃ read, arrivals = read ++ (connection.listenAll arrivals).2.2 ∧
    (handed? (connection.listenAll arrivals).1).toList ++
        (connection.listenAll arrivals).2.1.pending =
      connection.pending ++ Arrival.notifications read := by
  cases hpending : connection.pending with
  | cons notification rest =>
      -- what waits goes first, and nothing is read
      refine ⟨[], ?_⟩
      simp [listenAll, takePending, hpending, handed?]
  | nil =>
      obtain ⟨read, hrest, hconnection, hread⟩ := connection.listenFor_reads arrivals
      refine ⟨read, ?_⟩
      simp [listenAll, takePending, hpending, hread, hconnection, ← hrest]

end Connection

/-- What happens to a connection that is in use. -/
inductive Use where
  | arrive (arrival : Arrival)
  | request (method : String)
  /-- The next announcement is asked for. -/
  | next

namespace Use

/-- What comes in. -/
def arrival? : Use → Option Arrival
  | .arrive arrival => some arrival
  | .request _ | .next => none

end Use

/-- A connection in use. -/
structure Session where
  connection : Connection
  /-- What has come in and has not been read yet. -/
  unread : List Arrival
  /-- The announcements that have been handed out, in order. -/
  handed : List Notification

namespace Session

/-- A connection that has not been used yet. -/
def opened (timeout : Span) : Session := ⟨.opened timeout, [], []⟩

/-- A call reads what has come in until it is over. If this does not suffice, it is given up. -/
def step (s : Session) : Use → Session
  | .arrive arrival => { s with unread := s.unread ++ [arrival] }
  | .request method =>
    let (_, _, connection, unread) := s.connection.request method s.unread
    { s with connection, unread }
  | .next =>
    let (outcome, connection, unread) := s.connection.listenAll s.unread
    ⟨connection, unread, s.handed ++ (Connection.handed? outcome).toList⟩

/-- What a sequence of happenings makes of a session. -/
def run (s : Session) (uses : List Use) : Session := uses.foldl step s

theorem step_request_handed {s : Session} {method : String} :
    (s.step (.request method)).handed = s.handed := rfl

theorem run_concat {s : Session} {uses : List Use} {use : Use} :
    s.run (uses ++ [use]) = (s.run uses).step use := by
  simp [run]

/-- Whether the announcements that were handed out, followed by those that still wait, are those
of the arrivals that have been read. -/
def Conserves (s : Session) (arrivals : List Arrival) : Prop :=
  ∃ read, arrivals = read ++ s.unread ∧
    s.handed ++ s.connection.pending = Arrival.notifications read

variable {s next : Session} {arrivals : List Arrival}

/-- A call conserves what it reads. -/
theorem Conserves.reads (h : s.Conserves arrivals)
    (call : ∃ read, s.unread = read ++ next.unread ∧
      next.handed ++ next.connection.pending =
        s.handed ++ (s.connection.pending ++ Arrival.notifications read)) :
    next.Conserves arrivals := by
  obtain ⟨before, harrivals, hbefore⟩ := h
  obtain ⟨read, hunread, hread⟩ := call
  refine ⟨before ++ read, ?_, ?_⟩
  · rw [harrivals, hunread, List.append_assoc]
  · rw [hread, ← List.append_assoc, hbefore, Arrival.notifications_append]

/-- Nothing is lost, repeated or overtaken by what happens. -/
theorem Conserves.step (h : s.Conserves arrivals) (use : Use) :
    (s.step use).Conserves (arrivals ++ use.arrival?.toList) := by
  cases use with
  | arrive arrival =>
      obtain ⟨read, harrivals, hread⟩ := h
      exact ⟨read, by simp [Session.step, Use.arrival?, harrivals], hread⟩
  | request method =>
      rw [Use.arrival?, Option.toList_none, List.append_nil]
      obtain ⟨read, hunread, hpending⟩ := s.connection.request_reads s.unread method
      exact h.reads ⟨read, hunread, congrArg (s.handed ++ ·) hpending⟩
  | next =>
      rw [Use.arrival?, Option.toList_none, List.append_nil]
      obtain ⟨read, hunread, hhanded⟩ := s.connection.listenAll_reads s.unread
      refine h.reads ⟨read, hunread, ?_⟩
      rw [← hhanded]
      exact List.append_assoc _ _ _

theorem Conserves.run (h : s.Conserves arrivals) (uses : List Use) :
    (s.run uses).Conserves (arrivals ++ uses.filterMap Use.arrival?) := by
  induction uses generalizing s arrivals with
  | nil => simpa [Session.run] using h
  | cons use rest ih =>
      have hrest := ih (h.step use)
      rw [List.append_assoc] at hrest
      cases harrival : use.arrival? <;> simpa [Session.run, harrival] using hrest

theorem conserves_opened (timeout : Span) : (opened timeout).Conserves [] := ⟨[], rfl, rfl⟩

/-- What waits goes first, and nothing is read for it. -/
theorem step_next_of_waiting {notification : Notification} {waiting : List Notification}
    (pending : s.connection.pending = notification :: waiting) :
    (s.step .next).handed = s.handed ++ [notification] ∧ (s.step .next).unread = s.unread := by
  simp [Session.step, Connection.listenAll, Connection.takePending, pending, Connection.handed?]

/-- If nothing waits, the first announcement that comes is handed out, unless the connection breaks
before it. -/
theorem step_next_of_announced {quiet rest : List Arrival} {arrival : Arrival}
    {notification : Notification} (pending : s.connection.pending = [])
    (unread : s.unread = quiet ++ arrival :: rest)
    (passed : ∀ a ∈ quiet, a.notification? = none ∧ (Signal.arrival a).breaks = false)
    (announced : arrival.notification? = some notification) :
    (s.step .next).handed = s.handed ++ [notification] ∧ (s.step .next).unread = rest := by
  have hpassed : ∀ a ∈ quiet, s.connection.listen a = none := fun a ha =>
    s.connection.listen_eq_none a (passed a ha).1 (passed a ha).2
  have hhanded := (s.connection.handed?_listen arrival).trans announced
  cases hlisten : s.connection.listen arrival with
  | none => simp [hlisten, Connection.handed?] at hhanded
  | some outcome =>
      have hlistenFor := s.connection.listenFor_split rest hpassed hlisten
      rw [hlisten] at hhanded
      simp [Session.step, Connection.listenAll, Connection.takePending, pending, unread,
        hlistenFor, hhanded]

/-- A request reads up to what ends its question. -/
theorem step_request_of_ended {quiet rest : List Arrival} {arrival : Arrival} (method : String)
    (unread : s.unread = quiet ++ arrival :: rest)
    (unended : ∀ a ∈ quiet, (Signal.arrival a).ending? s.connection.nextId = none)
    (ended : ((Signal.arrival arrival).ending? s.connection.nextId).isSome = true) :
    (s.step (.request method)).unread = rest := by
  have hsplit := (s.connection.send method).2.2.awaitAll_split (s.connection.send method).2.1
    rest unended ended
  rw [← unread] at hsplit
  exact hsplit

/-- Whatever comes in on a connection and whatever is done with it: the announcements that have
been handed out, followed by those that still wait, are the announcements among the arrivals that
have been read, and these are the first ones of all that have come in. What waits is handed out
before anything is read; if nothing waits, the first announcement that comes is; and a request
reads no further than to what ends its question. -/
theorem notifications_conserved (timeout : Span) (uses : List Use) :
    let s := (opened timeout).run uses
    (∃ read, uses.filterMap Use.arrival? = read ++ s.unread ∧
      s.handed ++ s.connection.pending = Arrival.notifications read) ∧
    (∀ notification waiting, s.connection.pending = notification :: waiting →
      (s.step .next).handed = s.handed ++ [notification] ∧ (s.step .next).unread = s.unread) ∧
    (∀ quiet arrival notification rest, s.connection.pending = [] →
      s.unread = quiet ++ arrival :: rest →
      (∀ a ∈ quiet, a.notification? = none ∧ (Signal.arrival a).breaks = false) →
      arrival.notification? = some notification →
      (s.step .next).handed = s.handed ++ [notification] ∧ (s.step .next).unread = rest) ∧
    (∀ method quiet arrival rest, s.unread = quiet ++ arrival :: rest →
      (∀ a ∈ quiet, (Signal.arrival a).ending? s.connection.nextId = none) →
      ((Signal.arrival arrival).ending? s.connection.nextId).isSome = true →
      (s.step (.request method)).unread = rest) := by
  intro s
  refine ⟨(conserves_opened timeout).run uses, ?_, ?_, ?_⟩
  · intro notification waiting pending
    exact step_next_of_waiting pending
  · intro quiet arrival notification rest pending unread passed announced
    exact step_next_of_announced pending unread passed announced
  · intro method quiet arrival rest unread unended ended
    exact step_request_of_ended method unread unended ended

end Session

namespace Sample

theorem notification?_joined : joined.notification? = some .playersJoined := by
  simp only [joined, Arrival.notification?, Signal.notification?, decode_joined]

end Sample

namespace Session

/-- The announcement that comes during a request is handed out after it, although the request is
not answered in time. -/
theorem notifications_conserved_sample :
    let s := (opened ⟨10⟩).run [.arrive Sample.joined, .arrive .deadline]
    let t := s.step (.request Request.playersMethod)
    t.unread = [] ∧ t.connection.pending = [.playersJoined] ∧
      (t.step .next).handed = [.playersJoined] ∧ (s.step .next).handed = [.playersJoined] := by
  intro s t
  have ht : (opened ⟨10⟩).run ([.arrive Sample.joined, .arrive .deadline] ++
      [.request Request.playersMethod]) = t := run_concat
  have unended : ∀ a ∈ [Sample.joined], (Signal.arrival a).ending? 1 = none :=
    List.forall_mem_singleton.mpr (Signal.ending?_of_notification Sample.notification?_joined 1)
  have first := notifications_conserved ⟨10⟩ [.arrive Sample.joined, .arrive .deadline]
  have second := notifications_conserved ⟨10⟩ ([.arrive Sample.joined, .arrive .deadline] ++
    [.request Request.playersMethod])
  rw [ht] at second
  obtain ⟨-, -, hannounced, hrequest⟩ := first
  obtain ⟨⟨read, hread, hconserved⟩, hwaiting, -⟩ := second
  have hunread : t.unread = [] :=
    hrequest Request.playersMethod [Sample.joined] .deadline [] rfl unended rfl
  have hnext : (s.step .next).handed = [.playersJoined] :=
    (hannounced [] Sample.joined .playersJoined [.deadline] rfl rfl (by simp)
      Sample.notification?_joined).1
  have hhanded : t.handed = [] := step_request_handed
  clear_value t
  have hpending : t.connection.pending = [.playersJoined] := by
    have hall : [Sample.joined, .deadline] = read ++ t.unread := hread
    rw [hunread, List.append_nil] at hall
    have hdeadline : Arrival.notification? .deadline = none := rfl
    simpa [hhanded, ← hall, Sample.notification?_joined, hdeadline] using hconserved
  have hlast := (hwaiting .playersJoined [] hpending).1
  rw [hhanded] at hlast
  exact ⟨hunread, hpending, hlast, hnext⟩

end Session

end Flotilla
