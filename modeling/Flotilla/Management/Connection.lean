import Flotilla.Management.Endpoint
import Flotilla.Management.Frame
import Flotilla.Span

/-!
# Management connections

A connection carries requests to a server one at a time. While an answer is awaited
the server may announce things; announcements are kept in order until they are asked
for. An answer that nobody awaits any more is passed over.

What comes in is a sequence of arrivals. Each wait takes arrivals until it is over
and leaves the rest for the next one; a wait for an answer may be cut off by its
deadline, which stands in the sequence as `Arrival.deadline`.
-/

namespace Flotilla

/-- What comes in on a connection, or a deadline that passes. -/
inductive Arrival where
  | text (text : String)
  | binary
  /-- A frame that only keeps the connection alive. -/
  | control
  /-- The server closes the connection. -/
  | close
  /-- The connection breaks. -/
  | broken
  /-- The time for an answer is over. -/
  | deadline
  deriving DecidableEq

/-- Why a connection is of no use, or a request on it. -/
inductive ConnectionError where
  | broken
  | closed
  | endpoint (error : EndpointError)
  | protocol (error : FrameError)
  /-- The server answers a request with an error. -/
  | remote (method : String) (error : Json)
  | timeout (operation : String) (after : Span)

namespace ConnectionError

/-- The wording of an error. -/
def message : ConnectionError → String
  | .broken => "connection failure"
  | .closed => "connection closed by instance"
  | .endpoint error => "invalid endpoint: " ++ error.message
  | .protocol error => "protocol error: " ++ error.message
  | .remote method error => "request " ++ method ++ " rejected: " ++ error.text
  | .timeout operation after => operation ++ " timed out after " ++ after.text

end ConnectionError

/-- An open connection. -/
structure Connection where
  /-- The number of the next request. -/
  nextId : Nat
  /-- Announcements that nobody has asked for yet. -/
  pending : List Notification
  timeout : Span

namespace Connection

/-- A connection that has just been opened. -/
def opened (timeout : Span) : Connection := ⟨1, [], timeout⟩

/-- What is awaited while the connection is opened. -/
def handshake : String := "handshake"

/-- What one arrival means to whoever waits. -/
inductive Reading where
  | frame (frame : Frame)
  | over (error : ConnectionError)
  | nothing

/-- What an arrival means while `operation` is awaited for `limit`. -/
def read (operation : String) (limit : Span) : Arrival → Reading
  | .text text =>
    match Frame.decode text with
    | .ok frame => .frame frame
    | .error error => .over (.protocol error)
  | .binary => .over (.protocol .binary)
  | .control => .nothing
  | .close => .over .closed
  | .broken => .over .broken
  | .deadline => .over (.timeout operation limit)

/-- A request that was sent and not answered yet. -/
structure Awaiting where
  id : Nat
  method : String
  deriving DecidableEq

/-- Numbers a request: the request to send, what is awaited, and the connection. -/
def send (connection : Connection) (method : String) : Request × Awaiting × Connection :=
  (⟨connection.nextId, method, none⟩, ⟨connection.nextId, method⟩,
    { connection with nextId := (connection.nextId + 1) % Frame.idBound })

/-- Whether and how a request ends with an arrival, and the connection afterwards. -/
def await (connection : Connection) (awaiting : Awaiting) (arrival : Arrival) :
    Option (Except ConnectionError Json) × Connection :=
  match read awaiting.method connection.timeout arrival with
  | .nothing => (none, connection)
  | .over error => (some (.error error), connection)
  | .frame (.notification notification) =>
    (none, { connection with pending := connection.pending ++ [notification] })
  | .frame (.response id result) =>
    (if id = awaiting.id then some (.ok result) else none, connection)
  | .frame (.failure id error) =>
    (if id = awaiting.id then some (.error (.remote awaiting.method error)) else none, connection)

/-- The outcome of a request over the arrivals that follow it, or `none` if they end
first, and the arrivals that are left. -/
def awaitAll (connection : Connection) (awaiting : Awaiting) :
    List Arrival → Option (Except ConnectionError Json) × Connection × List Arrival
  | [] => (none, connection, [])
  | arrival :: rest =>
    match connection.await awaiting arrival with
    | (some outcome, connection) => (some outcome, connection, rest)
    | (none, connection) => connection.awaitAll awaiting rest

/-- One request from its beginning to its end: what is sent, its outcome over the arrivals
that follow, the connection afterwards and the arrivals that are left. -/
def request (connection : Connection) (method : String) (arrivals : List Arrival) :
    Request × Option (Except ConnectionError Json) × Connection × List Arrival :=
  let (request, awaiting, connection) := connection.send method
  (request, connection.awaitAll awaiting arrivals)

/-- Whether and how a wait for an announcement ends with an arrival. Such a wait has no
deadline. -/
def listen (connection : Connection) (arrival : Arrival) :
    Option (Except ConnectionError Notification) :=
  if arrival = .deadline then none
  else
    match read handshake connection.timeout arrival with
    | .nothing => none
    | .over error => some (.error error)
    | .frame (.notification notification) => some (.ok notification)
    | .frame _ => none

/-- The oldest announcement that was kept. -/
def takePending (connection : Connection) : Option (Notification × Connection) :=
  match connection.pending with
  | [] => none
  | notification :: rest => some (notification, { connection with pending := rest })

/-- The first announcement among the arrivals, or how they end the connection before one
comes, and the arrivals that are left. -/
def listenFor (connection : Connection) :
    List Arrival → Option (Except ConnectionError Notification) × Connection × List Arrival
  | [] => (none, connection, [])
  | arrival :: rest =>
    match connection.listen arrival with
    | some outcome => (some outcome, connection, rest)
    | none => connection.listenFor rest

/-- The next announcement: a kept one, or else the first one among the arrivals. -/
def listenAll (connection : Connection) (arrivals : List Arrival) :
    Option (Except ConnectionError Notification) × Connection × List Arrival :=
  match connection.takePending with
  | some (notification, connection) => (some (.ok notification), connection, arrivals)
  | none => connection.listenFor arrivals

end Connection

end Flotilla
