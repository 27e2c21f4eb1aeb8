import AccountAdmin.Proofs.Json.Completeness
import AccountAdmin.Proofs.Service.Exchange

/-!
# The triage of replies

What a request comes to is decided by a cascade of questions about what became of it: whether the
connection was dropped, whether a token was refused, whether there is a body at all, whether it can
be read, whether it is a document, whether the document reports an error.  `Triage` is the cascade
as a relation.  It speaks of documents in terms of the grammar, so that nothing in it depends on how
a body is read, and the key under which an error is reported is the key that the text spells,
however it is spelled there.

* `request_triage`: a request that can be sent comes to exactly what the cascade says, and beyond
  the two statuses that have a meaning of their own only the body of the reply matters.
* `deep_document_refused`: the reader of bodies has limits, and what is beyond them counts as
  malformed even if it is grammatical.
-/

namespace AccountAdmin

/-! ## Bodies -/

/-- The error that a document reports: what an object has under the key `error`, the last if there
are several. -/
def Json.reported? : Json → Option Json
  | .object fields => lastUnder? "error" fields
  | _ => none

/-- Where the reader of a document looks for a reported error, it finds the one that the text
has. -/
theorem Json.field?_canonical (v : Json) :
    v.canonical.field? "error" = v.reported?.map canonical := by
  cases v with
  | object fields => exact field?_canonical_object "error" fields
  | _ => rfl

/-- What a body comes to. -/
inductive Payload.OfBody (bytes : ByteArray) : Except Error Payload → Prop where
  | malformed (h : ∀ v, ¬ Json.BodyDocument v bytes) : OfBody bytes (.error (.json .malformed))
  | reported {v e : Json} (h : Json.BodyDocument v bytes) (he : v.reported? = some e) :
      OfBody bytes (.error (.api (errorText e.canonical)))
  | carried {v : Json} (h : Json.BodyDocument v bytes) (he : v.reported? = none) :
      OfBody bytes (.ok (.document v.canonical))

theorem Payload.ofJson_canonical (v : Json) :
    Payload.ofJson v.canonical =
      match v.reported? with
      | some e => .error (.api (errorText e.canonical))
      | none => .ok (.document v.canonical) := by
  rw [Payload.ofJson, Json.field?_canonical]
  cases v.reported? <;> rfl

theorem Payload.ofBytes_of_document {v : Json} {bytes : ByteArray}
    (h : Json.BodyDocument v bytes) : Payload.ofBytes bytes = Payload.ofJson v.canonical := by
  rw [Payload.ofBytes, Json.ofBytes_eq_some_iff.2 ⟨v, h, rfl⟩]

/-- Of every body exactly one thing is made. -/
theorem Payload.ofBytes_eq_iff {bytes : ByteArray} {result : Except Error Payload} :
    Payload.ofBytes bytes = result ↔ OfBody bytes result := by
  constructor
  · rintro rfl
    cases hread : Json.ofBytes bytes with
    | none =>
      have hno (v : Json) : ¬ Json.BodyDocument v bytes := by
        intro h
        rw [Json.ofBytes_eq_some_iff.2 ⟨v, h, rfl⟩] at hread
        cases hread
      rw [Payload.ofBytes, hread]
      exact .malformed hno
    | some w =>
      obtain ⟨v, h, -⟩ := Json.ofBytes_eq_some_iff.1 hread
      rw [ofBytes_of_document h, ofJson_canonical]
      cases he : v.reported? with
      | some e => exact .reported h he
      | none => exact .carried h he
  · intro h
    cases h with
    | malformed hno =>
      cases hread : Json.ofBytes bytes with
      | none => rw [Payload.ofBytes, hread]
      | some w =>
        obtain ⟨v, h, -⟩ := Json.ofBytes_eq_some_iff.1 hread
        exact absurd h (hno v)
    | reported h he => rw [ofBytes_of_document h, ofJson_canonical, he]
    | carried h he => rw [ofBytes_of_document h, ofJson_canonical, he]

/-! ## Replies -/

/-- Neither does the reply refuse a token nor does it say that there is nothing: it is up to the
body. -/
structure Reply.SpeaksByBody (r : Reply) (attached : Bool) : Prop where
  not_refused : ¬ (r.status = 401 ∧ attached = true)
  not_empty : r.status ≠ 204

/-- What a request comes to, by what became of it and whether a token was attached to it. -/
inductive Triage (attached : Bool) : Delivery → Except Error Payload → Prop where
  | dropped : Triage attached .dropped (.error .network)
  | expired {r : Reply} (h401 : r.status = 401) (hattached : attached = true) :
      Triage attached (.answered r) (.error .sessionExpired)
  | empty {r : Reply} (h204 : r.status = 204) : Triage attached (.answered r) (.ok .empty)
  | unreadable {r : Reply} (h : r.SpeaksByBody attached) (hbody : r.body = none) :
      Triage attached (.answered r) (.error .network)
  | body {r : Reply} {bytes : ByteArray} {result : Except Error Payload}
      (h : r.SpeaksByBody attached) (hbody : r.body = some bytes)
      (hresult : Payload.OfBody bytes result) : Triage attached (.answered r) result

namespace Exchange

/-- What a reply comes to that is up to its body. -/
theorem payload_of_speaksByBody {x : Exchange} {r : Reply} (hx : x.delivery = .answered r)
    (h : r.SpeaksByBody x.request.authorization.isSome) :
    x.payload = match r.body with
      | none => .error .network
      | some bytes => Payload.ofBytes bytes := by
  have hexpires : ¬ x.expires = true := by
    rw [expires, hx]
    simpa using h.not_refused
  rw [payload, hx]
  dsimp only
  rw [if_neg hexpires]
  exact if_neg h.not_empty

theorem payload_of_refused {x : Exchange} {r : Reply} (hx : x.delivery = .answered r)
    (h401 : r.status = 401) (hattached : x.request.authorization.isSome = true) :
    x.payload = .error .sessionExpired := by
  have hexpires : x.expires = true := by
    rw [expires, hx]
    simp [h401, hattached]
  rw [payload, hx]
  exact if_pos hexpires

theorem payload_of_empty {x : Exchange} {r : Reply} (hx : x.delivery = .answered r)
    (h204 : r.status = 204) : x.payload = .ok .empty := by
  have hexpires : ¬ x.expires = true := by
    rw [expires, hx]
    simp [h204]
  rw [payload, hx]
  dsimp only
  rw [if_neg hexpires, Payload.ofReply, if_pos h204]

/-- An exchange comes to exactly what the cascade says. -/
theorem payload_eq_iff {x : Exchange} {result : Except Error Payload} :
    x.payload = result ↔ Triage x.request.authorization.isSome x.delivery result := by
  constructor
  · rintro rfl
    cases hx : x.delivery with
    | dropped =>
      rw [payload, hx]
      exact .dropped
    | answered r =>
      by_cases hrefused : r.status = 401 ∧ x.request.authorization.isSome = true
      · rw [payload_of_refused hx hrefused.1 hrefused.2]
        exact .expired hrefused.1 hrefused.2
      by_cases h204 : r.status = 204
      · rw [payload_of_empty hx h204]
        exact .empty h204
      have h : r.SpeaksByBody x.request.authorization.isSome := ⟨hrefused, h204⟩
      rw [payload_of_speaksByBody hx h]
      cases hbody : r.body with
      | none => exact .unreadable h hbody
      | some bytes => exact .body h hbody (Payload.ofBytes_eq_iff.1 rfl)
  · intro h
    generalize hx : x.delivery = d at h
    cases h with
    | dropped => rw [payload, hx]
    | expired h401 hattached => exact payload_of_refused hx h401 hattached
    | empty h204 => exact payload_of_empty hx h204
    | unreadable h hbody => rw [payload_of_speaksByBody hx h, hbody]
    | body h hbody hresult =>
      rw [payload_of_speaksByBody hx h, hbody]
      exact Payload.ofBytes_eq_iff.2 hresult

end Exchange

/-! ## Requests -/

/-- A request of the client can be sent, and this is the request and what becomes of it. -/
structure Client.Delivers {σ : Type} (c : Client σ) (method : Method) (path : String)
    (body : Option Json) (x : Exchange) : Prop where
  resolved : ∃ url, c.endpoint.resolve path = .ok url ∧ x.request = c.prepare method url body
  sendable : x.request.isSendable = true
  delivered : (c.wire.exchange x.request).1 = x.delivery

theorem Client.delivers {σ : Type} {c : Client σ} (method : Method) {path : String}
    (body : Option Json) {url : Url} (hurl : (c.endpoint.resolve path).toOption = some url)
    (hsendable : (c.prepare method url body).isSendable = true) :
    c.Delivers method path body
      ⟨c.prepare method url body, (c.wire.exchange (c.prepare method url body)).1⟩ := by
  refine ⟨⟨url, ?_, rfl⟩, hsendable, rfl⟩
  cases hresolve : c.endpoint.resolve path with
  | error e =>
    rw [hresolve] at hurl
    cases hurl
  | ok url' =>
    rw [hresolve] at hurl
    exact congrArg _ (Option.some.inj hurl)

variable {σ : Type} [TokenSlot σ]

/-- A request that can be sent comes to what its exchange comes to. -/
theorem Client.Delivers.request_eq {c : Client σ} {method : Method} {path : String}
    {body : Option Json} {x : Exchange} (h : c.Delivers method path body x) :
    (c.request method path body).1 = x.payload := by
  obtain ⟨⟨url, hurl, hrequest⟩, hsendable, hdelivered⟩ := h
  obtain ⟨request, delivery⟩ := x
  obtain rfl : request = c.prepare method url body := hrequest
  have hsubmit : c.wire.submit (c.prepare method url body) =
      (delivery, (c.wire.exchange (c.prepare method url body)).2) := by
    rw [Wire.submit, if_pos hsendable]
    exact Prod.ext hdelivered rfl
  rw [Client.request, hurl]
  exact congrArg Prod.fst (Client.send_eq_payload hsubmit)

/-- A body of which nothing is read counts as malformed. -/
theorem Client.Delivers.request_of_unread {c : Client σ} {method : Method} {path : String}
    {body : Option Json} {x : Exchange} (h : c.Delivers method path body x) {r : Reply}
    (hx : x.delivery = .answered r) (hr : r.SpeaksByBody x.request.authorization.isSome)
    {s : String} (hbody : r.body = some s.toUTF8) (hread : Json.readText s.toList = none) :
    (c.request method path body).1 = .error (.json .malformed) := by
  rw [h.request_eq, Exchange.payload_of_speaksByBody hx hr, hbody]
  dsimp only
  rw [Payload.ofBytes, Json.ofBytes, Text.fromUTF8?_toUTF8]
  dsimp only
  rw [Json.read, hread]

/-- **Triage.**  A request that can be sent comes to exactly what the cascade says: an error of the
network if the connection was dropped; the end of the session if a token was attached and refused,
whatever the body; nothing if the status says so, whatever the body; an error of the network if the
body cannot be read; malformed JSON if it is no document; the error that the document reports, if it
reports one; and else the document.  Beyond the two statuses that have a meaning of their own, equal
bodies come to the same, whoever sent the requests. -/
theorem request_triage {c : Client σ} {method : Method} {path : String} {body : Option Json}
    {x : Exchange} (h : c.Delivers method path body x) :
    (∀ result, (c.request method path body).1 = result ↔
      Triage x.request.authorization.isSome x.delivery result) ∧
    ∀ (τ : Type) [TokenSlot τ] (c' : Client τ) (method' : Method) (path' : String)
      (body' : Option Json) (x' : Exchange) (r r' : Reply), c'.Delivers method' path' body' x' →
      x.delivery = .answered r → x'.delivery = .answered r' →
      r.SpeaksByBody x.request.authorization.isSome →
      r'.SpeaksByBody x'.request.authorization.isSome → r.body = r'.body →
      (c.request method path body).1 = (c'.request method' path' body').1 := by
  refine ⟨fun result => ?_, fun τ _ c' method' path' body' x' r r' h' hx hx' hr hr' hbody => ?_⟩
  · rw [h.request_eq]
    exact Exchange.payload_eq_iff
  · rw [h.request_eq, h'.request_eq, Exchange.payload_of_speaksByBody hx hr,
      Exchange.payload_of_speaksByBody hx' hr', hbody]

/-- A token is refused, and the body of the reply cannot be read; that does not matter any more. -/
theorem request_triage_refused :
    let c : Client MemorySlot :=
      { endpoint := .default
        session := .start ⟨some "t"⟩
        wire := { peer := .scripted [.answered ⟨401, none⟩] } }
    (c.request .delete "/user/7" none).1 = .error .sessionExpired := by
  intro c
  let url : Url :=
    ⟨"http".toList, some ⟨[], .domain "localhost".toList, some 8080⟩, "/rest/user/7".toList,
      none, none⟩
  have hurl : (c.endpoint.resolve "/user/7").toOption = some url := by decide +kernel
  have hdelivers := c.delivers .delete none hurl (by decide +kernel)
  exact ((request_triage hdelivers).1 _).2 (.expired rfl rfl)

/-- A body that is one array inside of 127 others, with nothing wrong in it, counts as malformed. -/
theorem deep_document_refused :
    let body := String.ofList (Json.brackets 127)
    let c : Client MemorySlot :=
      { endpoint := .default
        session := .start ⟨none⟩
        wire := { peer := .scripted [.answered ⟨200, some body.toUTF8⟩] } }
    Json.Written 128 (Json.nestedArrays 127) body.toList ∧
      (Json.nestedArrays 127).reported? = none ∧
      (c.request .get "/user/list" none).1 = .error (.json .malformed) := by
  intro body c
  have hbody : body.toList = Json.brackets 127 := String.toList_ofList
  have hread : Json.readText body.toList = none := by
    rw [hbody, Json.readText_brackets (by decide)]
  refine ⟨hbody ▸ Json.written_nestedArrays 127, rfl, ?_⟩
  let url : Url :=
    ⟨"http".toList, some ⟨[], .domain "localhost".toList, some 8080⟩, "/rest/user/list".toList,
      none, none⟩
  have hurl : (Endpoint.default.resolve "/user/list").toOption = some url := by decide +kernel
  have hsendable : Request.isSendable ⟨.get, url, none, none, none, Client.mediaType,
      Endpoint.default.userAgent, none⟩ = true := by decide +kernel
  have hstatus : 200 ≠ 401 ∧ 200 ≠ 204 := by decide
  exact (c.delivers .get none hurl hsendable).request_of_unread rfl
    ⟨fun h => hstatus.1 h.1, hstatus.2⟩ rfl hread

end AccountAdmin
