import Flotilla.Http.Handshake
import Flotilla.Http.Refusal

/-!
# Rejections

A request that cannot be made sense of is answered before the gateway is asked at all.
An unknown path or method is answered with a mere status, a watcher who does not say
who they are with a refusal, and anything else with a text of its own.
-/

namespace Flotilla

/-- Why a request asks for nothing that the gateway could do. -/
inductive Rejection where
  /-- There is nothing under this path. -/
  | path
  /-- What is under this path is not done by this method. -/
  | method
  /-- A parameter in the path cannot be read. -/
  | parameter
  | query
  /-- The body is not declared to be JSON. -/
  | mediaType
  /-- The body is longer than any body may be. -/
  | length
  /-- The body is not JSON. -/
  | malformed
  /-- The body is JSON of the wrong shape. -/
  | unsuitable
  | handshake (fault : HandshakeFault)
  /-- The request does not say who it comes from. -/
  | anonymous
  deriving DecidableEq

namespace Rejection

/-- What a rejected request is answered. -/
def response : Rejection → HttpResponse
  | .path => .bare 404
  | .method => .bare 405
  | .parameter => .text 400 "Invalid URL"
  | .query => .text 400 "Failed to deserialize query string"
  | .mediaType => .text 415 "Expected request with \x60Content-Type: application/json\x60"
  | .length => .text 413 "Failed to buffer the request body: length limit exceeded"
  | .malformed => .text 400 "Failed to parse the request body as JSON"
  | .unsuitable => .text 422 "Failed to deserialize the JSON body into the target type"
  | .handshake fault => .text fault.status fault.message
  | .anonymous => Refusal.unauthorized.response

/-- The rejection of a body that holds no value of the wanted type. -/
def ofFault : Fault → Rejection
  | .malformed => .malformed
  | .mismatch => .unsuitable

end Rejection

end Flotilla
