import AccountAdmin.Url.User

/-!
# The wire

A request is delivered to a *peer*, which replies or does not.  All that a run of the program can
learn of a network is the reply to each request, so a peer is a script: the replies to the requests
to come, in order.  A peer that is not there gives no reply and takes no notice of a request.

The wire also keeps the requests that reached the peer, the earliest first.  They are what an
observer of the network sees, or would see if nothing were encrypted.

* `Wire.exchange`: delivers a request.
* `Wire.submit`: delivers it if it can be sent at all.  HTTP is spoken, plain or over TLS, and a
  header is a text without controls, tabs apart.
-/

namespace AccountAdmin

/-- A method of a request. -/
inductive Method where
  | get
  | post
  | patch
  | delete
  | named (name : String)
  deriving DecidableEq, Repr

namespace Method

/-- The name of a method. -/
def name : Method → String
  | get => "GET"
  | post => "POST"
  | patch => "PATCH"
  | delete => "DELETE"
  | named name => name

/-- The method with a name. -/
def ofName (s : String) : Method :=
  if s = "GET" then get
  else if s = "POST" then post
  else if s = "PATCH" then patch
  else if s = "DELETE" then delete
  else named s

end Method

/-- A request as it goes over the wire. -/
structure Request where
  method : Method
  /-- Where it goes; there is neither a user nor a fragment in it. -/
  url : Url
  /-- The `Authorization` header with the user of the URL, if there is one. -/
  basic : Option String := none
  /-- The `Authorization` header with the token, if there is one. -/
  authorization : Option String
  contentType : Option String
  accept : String
  userAgent : String
  body : Option String
  deriving DecidableEq, Repr

/-- A reply: a status and a body.  It has no headers, so it does not redirect a request, and its
body is not compressed. -/
structure Reply where
  status : Nat
  /-- The body that the client reads, unless that breaks off.  With the status 304 it is empty,
  whatever has been sent. -/
  body : Option ByteArray

/-- What becomes of a request. -/
inductive Delivery where
  /-- The connection ends without a reply. -/
  | dropped
  | answered (reply : Reply)

/-- Who is at the other end. -/
inductive Peer where
  /-- Nobody. -/
  | absent
  /-- Somebody who replies by a script, and drops the connection at its end. -/
  | scripted (replies : List Delivery)

/-- A peer, and the requests that reached it. -/
structure Wire where
  peer : Peer
  sent : List Request := []

namespace Request

/-- A text that may stand in a header. -/
def isHeaderText (s : String) : Bool :=
  s.toList.all fun c => c == '\t' || (0x20 ≤ c.toNat && c.toNat != 0x7F)

theorem isHeaderText_append (s t : String) :
    isHeaderText (s ++ t) = (isHeaderText s && isHeaderText t) := by
  rw [isHeaderText, String.toList_append, List.all_append]
  rfl

/-- The `Authorization` headers of a request, in their order. -/
def authorizations (r : Request) : List String := r.basic.toList ++ r.authorization.toList

/-- The schemes of the URLs to which requests can be sent. -/
def schemes : List (List Char) := ["http".toList, "https".toList]

/-- Whether a request can be sent at all. -/
def isSendable (r : Request) : Bool :=
  schemes.contains r.url.scheme && isHeaderText r.userAgent && r.authorizations.all isHeaderText

end Request

namespace Wire

/-- Delivers a request to the peer. -/
def exchange (w : Wire) (r : Request) : Delivery × Wire :=
  match w.peer with
  | .absent => (.dropped, w)
  | .scripted [] => (.dropped, { w with sent := w.sent ++ [r] })
  | .scripted (d :: rest) => (d, { peer := .scripted rest, sent := w.sent ++ [r] })

/-- Delivers a request that can be sent, and drops any other. -/
def submit (w : Wire) (r : Request) : Delivery × Wire :=
  if r.isSendable then w.exchange r else (.dropped, w)

end Wire

end AccountAdmin
