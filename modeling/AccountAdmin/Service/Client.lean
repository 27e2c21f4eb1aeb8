import AccountAdmin.Service.Call
import AccountAdmin.Service.Endpoint
import AccountAdmin.Session

/-!
# The client

A client sends requests to an endpoint over a wire and looks after the session: a request carries
the token if there is one, beside the user that its URL may say, and a reply with status 401 to a
request with a token ends the session, whatever else the reply says.

* `Client.build`: a client for an endpoint whose base URL is sound.
* `Client.request`: one request and the payload of its reply.
* `Client.perform`: one call and its answer.
-/

namespace AccountAdmin

/-- An endpoint, a session and a wire. -/
structure Client (σ : Type) where
  endpoint : Endpoint
  session : Session σ
  wire : Wire

namespace Client

variable {σ : Type} [TokenSlot σ]

/-- A client for an endpoint; a base URL that does not resolve is refused at once. -/
def build (endpoint : Endpoint) (session : Session σ) (peer : Peer) : Except Error (Client σ) :=
  match endpoint.resolve "/" with
  | .error e => .error (.url e)
  | .ok _ => .ok { endpoint, session, wire := { peer } }

/-- Whether the client holds a token. -/
def isAuthenticated (c : Client σ) : Bool := c.session.hasToken

/-- The media type of bodies and replies. -/
def mediaType : String := "application/json"

/-- The request to a URL, with the headers that the client puts on it. -/
def prepare (c : Client σ) (method : Method) (url : Url) (body : Option Json) : Request :=
  { method
    url := url.onWire
    basic := url.basic?
    authorization := c.session.token.map ("Bearer " ++ ·)
    contentType := body.map fun _ => mediaType
    accept := mediaType
    userAgent := c.endpoint.userAgent
    body := body.map Json.compact }

/-- Sends a request to a URL and looks at the reply. -/
def send (c : Client σ) (method : Method) (url : Url) (body : Option Json) :
    Except Error Payload × Client σ :=
  match c.wire.submit (c.prepare method url body) with
  | (.dropped, wire) => (.error .network, { c with wire })
  | (.answered reply, wire) =>
    if reply.status = 401 ∧ c.session.hasToken then
      (.error .sessionExpired, { c with wire, session := c.session.clear })
    else (Payload.ofReply reply, { c with wire })

/-- Sends a request to a path of the service and looks at the reply. -/
def request (c : Client σ) (method : Method) (path : String) (body : Option Json) :
    Except Error Payload × Client σ :=
  match c.endpoint.resolve path with
  | .error e => (.error (.url e), c)
  | .ok url => c.send method url body

/-- Performs a call. -/
def perform (c : Client σ) (call : Call) : Except Error call.Answer × Client σ :=
  match c.request call.method call.path call.body with
  | (.error e, c) => (.error e, c)
  | (.ok payload, c) => (call.decode payload, c)

/-- Sets the token. -/
def setToken (c : Client σ) (token : String) (keep : Bool) : Client σ :=
  { c with session := c.session.setToken token keep }

/-- Clears the token. -/
def clearToken (c : Client σ) : Client σ := { c with session := c.session.clear }

end Client

end AccountAdmin
