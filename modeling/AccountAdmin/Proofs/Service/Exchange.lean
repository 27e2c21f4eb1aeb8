import AccountAdmin.Service.Client

/-!
# Exchanges

An observer of the network sees requests and what becomes of them.  `Exchange` is one such
observation.  Everything that a client learns in an exchange, and everything that an exchange does
to its session, is a function of the observation alone, and these functions are here:

* `Exchange.expires`: a request that carried a token was refused with status 401;
* `Exchange.payload`: what the caller of the request gets;
* `Exchange.answer`: what the caller of a call gets;
* `Exchange.signIn?`: the answer to credentials, if they were accepted.

The wire keeps only the requests.  Since a peer is a script, the deliveries are not lost:
`Peer.answers` pairs requests with the replies that a script holds for them, and
`Wire.exchangesTo` reads the exchanges between two states of a wire off the two states.

`Client.request_cases` and `Client.perform_cases` are the only places where the triage of replies
is opened: a request either fails without leaving a trace, for one of the reasons in
`Client.Hinders`, or is one exchange.
-/

namespace AccountAdmin

/-- A request goes to the URL of a path, and the user of the URL is in a header of it. -/
def Request.GoesTo (r : Request) (e : Endpoint) (path : String) : Prop :=
  ∃ url, e.resolve path = .ok url ∧ r.url = url.onWire ∧ r.basic = url.basic?

/-- A request that reached the peer, and what became of it. -/
structure Exchange where
  request : Request
  delivery : Delivery

namespace Exchange

/-- Whether the exchange ends the session. -/
def expires (x : Exchange) : Bool :=
  match x.delivery with
  | .dropped => false
  | .answered reply => reply.status == 401 && x.request.authorization.isSome

/-- What the caller of the request gets. -/
def payload (x : Exchange) : Except Error Payload :=
  match x.delivery with
  | .dropped => .error .network
  | .answered reply => if x.expires then .error .sessionExpired else Payload.ofReply reply

/-- What the caller gets if the request belongs to a call. -/
def answer (x : Exchange) (call : Call) : Except Error call.Answer :=
  match x.payload with
  | .error e => .error e
  | .ok payload => call.decode payload

/-- The answer to credentials, if the exchange is about credentials and they were accepted. -/
def signIn? (x : Exchange) : Option SignIn :=
  match x.payload with
  | .error _ => none
  | .ok payload => (payload.decode SignIn.ofJson).toOption

end Exchange

/-- Requests, the earliest first, with what becomes of them. -/
def Peer.answers : Peer → List Request → List Exchange
  | _, [] => []
  | .scripted (d :: rest), r :: rs => ⟨r, d⟩ :: answers (.scripted rest) rs
  | p, r :: rs => ⟨r, .dropped⟩ :: answers p rs

/-- The exchanges between two states of a wire. -/
def Wire.exchangesTo (before after : Wire) : List Exchange :=
  before.peer.answers (after.sent.drop before.sent.length)

/-! ## What an exchange comes to -/

/-- Whether a result says that the session is over. -/
def isExpiry {α : Type} : Except Error α → Bool
  | .error e => e.isSessionExpired
  | .ok _ => false

theorem eq_sessionExpired_of_isExpiry {α : Type} {r : Except Error α} (h : isExpiry r = true) :
    r = .error .sessionExpired := by
  cases r with
  | error e =>
    cases e with
    | sessionExpired => rfl
    | _ => cases h
  | ok a => cases h

/-- Whether an error tells of a reply, or that there was none. -/
def Error.isOfReply : Error → Bool
  | .network | .api _ | .parse _ | .json _ => true
  | .sessionExpired | .passwordMismatch | .invalidArgument _ | .url _ => false

/-- If a result is a failure, then the fault is with a reply. -/
def BlamesReply {α : Type} (r : Except Error α) : Prop := ∀ e, r = .error e → e.isOfReply = true

theorem blamesReply_ok {α : Type} (a : α) : BlamesReply (.ok a) := fun _ h => nomatch h

theorem blamesReply_error {α : Type} {e : Error} (he : e.isOfReply = true) :
    BlamesReply (.error e : Except Error α) := fun _ h => Except.error.inj h ▸ he

theorem blamesReply_liftMismatch {α : Type} (r : Except Mismatch α) :
    BlamesReply (liftMismatch r) := by
  cases r with
  | error e => exact blamesReply_error rfl
  | ok a => exact blamesReply_ok a

theorem Payload.blamesReply_decode {α : Type} (decoder : Json → Except Mismatch α) (p : Payload) :
    BlamesReply (p.decode decoder) := by
  cases p with
  | empty => exact blamesReply_error rfl
  | document v => exact blamesReply_liftMismatch (decoder v)

theorem Payload.blamesReply_ofJson (v : Json) : BlamesReply (Payload.ofJson v) := by
  rw [Payload.ofJson]
  split
  · exact blamesReply_error rfl
  · exact blamesReply_ok _

theorem Payload.blamesReply_ofReply (r : Reply) : BlamesReply (Payload.ofReply r) := by
  rw [Payload.ofReply]
  split
  · exact blamesReply_ok _
  · split
    · exact blamesReply_error rfl
    · rw [Payload.ofBytes]
      split
      · exact blamesReply_error rfl
      · exact Payload.blamesReply_ofJson _

theorem Call.blamesReply_decode (call : Call) (p : Payload) : BlamesReply (call.decode p) := by
  cases call with
  | authenticate | current | get | list | create | updateDetails =>
    exact Payload.blamesReply_decode _ p
  | changePassword | setStatus | resetPassword | delete => exact blamesReply_ok ()

/-- A request fails because it ends the session, or because of the reply to it. -/
theorem Exchange.payload_error {x : Exchange} {e : Error} (h : x.payload = .error e) :
    (e = .sessionExpired ∧ x.expires = true) ∨ (e.isOfReply = true ∧ x.expires = false) := by
  obtain ⟨request, delivery⟩ := x
  cases delivery with
  | dropped => exact .inr ⟨Except.error.inj h ▸ rfl, rfl⟩
  | answered reply =>
    dsimp only [Exchange.payload] at h
    split at h
    · next hexpires => exact .inl ⟨(Except.error.inj h).symm, hexpires⟩
    · next hexpires =>
      exact .inr ⟨Payload.blamesReply_ofReply reply e h, Bool.eq_false_iff.mpr hexpires⟩

theorem Exchange.expires_of_payload_ok {x : Exchange} {p : Payload} (h : x.payload = .ok p) :
    x.expires = false := by
  obtain ⟨request, delivery⟩ := x
  cases delivery with
  | dropped => rfl
  | answered reply =>
    dsimp only [Exchange.payload] at h
    split at h
    · cases h
    · next hexpires => exact Bool.eq_false_iff.mpr hexpires

/-- A call fails because its request ends the session, or because of the reply to it. -/
theorem Exchange.answer_error {x : Exchange} {call : Call} {e : Error}
    (h : x.answer call = .error e) :
    (e = .sessionExpired ∧ x.expires = true) ∨ (e.isOfReply = true ∧ x.expires = false) := by
  rw [Exchange.answer] at h
  cases hpayload : x.payload with
  | error e' =>
    rw [hpayload] at h
    exact Except.error.inj h ▸ payload_error hpayload
  | ok p =>
    rw [hpayload] at h
    exact .inr ⟨call.blamesReply_decode p e h, expires_of_payload_ok hpayload⟩

theorem Exchange.expires_of_answer_ok {x : Exchange} {call : Call} {a : call.Answer}
    (h : x.answer call = .ok a) : x.expires = false := by
  rw [Exchange.answer] at h
  cases hpayload : x.payload with
  | error e =>
    rw [hpayload] at h
    cases h
  | ok p => exact expires_of_payload_ok hpayload

theorem Error.isSessionExpired_of_isOfReply {e : Error} (h : e.isOfReply = true) :
    e.isSessionExpired = false := by
  cases e with
  | sessionExpired => cases h
  | _ => rfl

theorem Error.isLocal_of_isOfReply {e : Error} (h : e.isOfReply = true) : e.isLocal = false := by
  cases e with
  | passwordMismatch | invalidArgument => cases h
  | _ => rfl

theorem Error.isSessionExpired_of_isLocal {e : Error} (h : e.isLocal = true) :
    e.isSessionExpired = false := by
  cases e with
  | sessionExpired => cases h
  | _ => rfl

theorem Exchange.isExpiry_payload (x : Exchange) : isExpiry x.payload = x.expires := by
  cases h : x.payload with
  | error e =>
    rcases payload_error h with ⟨rfl, hexpires⟩ | ⟨he, hexpires⟩
    · exact hexpires.symm
    · exact (e.isSessionExpired_of_isOfReply he).trans hexpires.symm
  | ok p => exact (expires_of_payload_ok h).symm

theorem Exchange.isExpiry_answer (x : Exchange) (call : Call) :
    isExpiry (x.answer call) = x.expires := by
  cases h : x.answer call with
  | error e =>
    rcases answer_error h with ⟨rfl, hexpires⟩ | ⟨he, hexpires⟩
    · exact hexpires.symm
    · exact (e.isSessionExpired_of_isOfReply he).trans hexpires.symm
  | ok a => exact (expires_of_answer_ok h).symm

/-! ## Deliveries -/

/-- Somebody takes a request, and this becomes of it. -/
inductive Wire.Takes (w : Wire) (r : Request) : Delivery → Wire → Prop where
  | reply {d : Delivery} {rest : List Delivery} (h : w.peer = .scripted (d :: rest)) :
      Takes w r d ⟨.scripted rest, w.sent ++ [r]⟩
  | silence (h : w.peer = .scripted []) : Takes w r .dropped ⟨.scripted [], w.sent ++ [r]⟩

namespace Wire

variable {w after : Wire} {r : Request} {d : Delivery}

theorem Takes.sent (h : w.Takes r d after) : after.sent = w.sent ++ [r] := by
  cases h <;> rfl

theorem Takes.answers_cons (h : w.Takes r d after) (rs : List Request) :
    w.peer.answers (r :: rs) = ⟨r, d⟩ :: after.peer.answers rs := by
  cases h with
  | reply hp => rw [hp, Peer.answers]
  | silence hp => rw [hp]; rfl

/-- A request that is submitted is dropped without a trace or taken by somebody. -/
theorem submit_cases (w : Wire) (r : Request) :
    w.submit r = (.dropped, w) ∨ ∃ d after, w.submit r = (d, after) ∧ w.Takes r d after := by
  rw [submit]
  split
  · obtain ⟨peer, sent⟩ := w
    match peer with
    | .absent => exact .inl rfl
    | .scripted [] => exact .inr ⟨_, _, rfl, .silence rfl⟩
    | .scripted (d :: rest) => exact .inr ⟨_, _, rfl, .reply rfl⟩
  · exact .inl rfl

end Wire

/-! ## What a client makes of a reply -/

namespace Client

variable {σ : Type}

theorem goesTo_prepare {c : Client σ} {path : String} {url : Url}
    (hurl : c.endpoint.resolve path = .ok url) (method : Method) (body : Option Json) :
    (c.prepare method url body).GoesTo c.endpoint path := ⟨url, hurl, rfl, rfl⟩

theorem isSome_authorization_prepare (c : Client σ) (method : Method) (url : Url)
    (body : Option Json) :
    (c.prepare method url body).authorization.isSome = c.session.hasToken := by
  rw [prepare, Option.isSome_map, Session.hasToken]

/-- A client is built exactly for an endpoint whose base URL resolves. -/
theorem build_eq_ok_iff {endpoint : Endpoint} {session : Session σ} {peer : Peer}
    {client : Client σ} : Client.build endpoint session peer = .ok client ↔
      (∃ root, endpoint.resolve "/" = .ok root) ∧ client = ⟨endpoint, session, { peer }⟩ := by
  rw [Client.build]
  cases hroot : endpoint.resolve "/" with
  | error fault => simp
  | ok root => simp [eq_comm]

/-- Why a request to a path cannot be sent: the path does not resolve, or the wire does not take the
request. -/
inductive Hinders (c : Client σ) (path : String) : Error → Prop where
  | url {fault : Url.Fault} (h : c.endpoint.resolve path = .error fault) :
      Hinders c path (.url fault)
  | network : Hinders c path .network

theorem Hinders.isSessionExpired_eq {c : Client σ} {path : String} {e : Error}
    (h : c.Hinders path e) : e.isSessionExpired = false := by
  cases h <;> rfl

theorem Hinders.isLocal_eq {c : Client σ} {path : String} {e : Error} (h : c.Hinders path e) :
    e.isLocal = false := by
  cases h <;> rfl

variable [TokenSlot σ]

/-- The client after an exchange. -/
def after (c : Client σ) (x : Exchange) (wire : Wire) : Client σ :=
  { c with wire, session := if x.expires then c.session.clear else c.session }

theorem session_after_of_expires {c : Client σ} {x : Exchange} (h : x.expires = true)
    (wire : Wire) : (c.after x wire).session = c.session.clear := if_pos h

theorem session_after_of_not_expires {c : Client σ} {x : Exchange} (h : x.expires = false)
    (wire : Wire) : (c.after x wire).session = c.session := if_neg (by simp [h])

/-- A client makes of a delivery what the exchange comes to. -/
theorem send_eq_payload {c : Client σ} {method : Method} {url : Url} {body : Option Json}
    {d : Delivery} {wire : Wire} (h : c.wire.submit (c.prepare method url body) = (d, wire)) :
    c.send method url body =
      (Exchange.payload ⟨c.prepare method url body, d⟩,
        c.after ⟨c.prepare method url body, d⟩ wire) := by
  rw [send, h]
  cases d with
  | dropped => rfl
  | answered reply =>
    have hexp : (⟨c.prepare method url body, .answered reply⟩ : Exchange).expires =
        decide (reply.status = 401 ∧ c.session.hasToken) := by
      rw [Bool.decide_and, Bool.decide_eq_true, ← c.isSome_authorization_prepare method url body]
      rfl
    dsimp only [Exchange.payload, after]
    rw [hexp]
    by_cases h401 : reply.status = 401 ∧ c.session.hasToken = true
    · rw [if_pos h401, decide_eq_true h401]
      rfl
    · rw [if_neg h401, decide_eq_false h401]
      rfl

/-- A request to a path fails without leaving a trace, or is one exchange. -/
theorem request_cases (c : Client σ) (method : Method) (path : String) (body : Option Json) :
    (∃ e, c.request method path body = (.error e, c) ∧ c.Hinders path e) ∨
      ∃ url d wire, c.endpoint.resolve path = .ok url ∧
        c.wire.Takes (c.prepare method url body) d wire ∧
        c.request method path body =
          (Exchange.payload ⟨c.prepare method url body, d⟩,
            c.after ⟨c.prepare method url body, d⟩ wire) := by
  rw [request]
  cases hurl : c.endpoint.resolve path with
  | error e => exact .inl ⟨.url e, rfl, .url hurl⟩
  | ok url =>
    rcases c.wire.submit_cases (c.prepare method url body) with h | ⟨d, wire, h, htakes⟩
    · exact .inl ⟨.network, send_eq_payload h, .network⟩
    · exact .inr ⟨url, d, wire, rfl, htakes, send_eq_payload h⟩

/-- A call fails without leaving a trace, or is one exchange. -/
theorem perform_cases (c : Client σ) (call : Call) :
    (∃ e, c.perform call = (.error e, c) ∧ c.Hinders call.path e) ∨
      ∃ url d wire, c.endpoint.resolve call.path = .ok url ∧
        c.wire.Takes (c.prepare call.method url call.body) d wire ∧
        c.perform call =
          (Exchange.answer ⟨c.prepare call.method url call.body, d⟩ call,
            c.after ⟨c.prepare call.method url call.body, d⟩ wire) := by
  rw [perform]
  rcases c.request_cases call.method call.path call.body with
    ⟨e, h, he⟩ | ⟨url, d, wire, hurl, htakes, h⟩
  · rw [h]
    exact .inl ⟨e, rfl, he⟩
  · refine .inr ⟨url, d, wire, hurl, htakes, ?_⟩
    rw [h, Exchange.answer]
    cases Exchange.payload ⟨c.prepare call.method url call.body, d⟩ <;> rfl

end Client

end AccountAdmin
