import AccountAdmin.Proofs.Config.OwnedSlot
import AccountAdmin.Service.Client

/-!
# Clients that differ in a token

Two runs of the program are compared that start with configuration files that differ in the token of
their sessions and in nothing else.  `TokenPair` is the pair of these two tokens.  As long as a run
holds the token it started with, the other one holds the other token; once the token has been
replaced or cleared in one run, so it has been in the other, and then both hold the same one or
none.  The same is true of the two files, independently.

`TokenPair.History` says so of the tokens in memory and the requests that were sent with them,
`TokenPair.Files` of the files, and `TokenPair.Clients` of whole clients.  A client looks at its
token only to put it on a request and to ask whether there is one, so what the callers of two such
clients get is the same, and the clients stay such a pair (`TokenPair.Clients.perform`).
-/

namespace AccountAdmin

/-! ## Requests with a token -/

/-- The request with a token. -/
def Request.bearing (token : String) (r : Request) : Request :=
  { r with authorization := some ("Bearer " ++ token) }

theorem Request.isHeaderText_bearer {token : String} (h : Request.isHeaderText token = true) :
    Request.isHeaderText ("Bearer " ++ token) = true := by
  have hbearer : Request.isHeaderText "Bearer " = true := by decide
  rw [Request.isHeaderText_append, hbearer, h]
  rfl

/-- A peer replies to a request whatever is on it. -/
theorem Wire.submit_eq_of_peer_eq {w₁ w₂ : Wire} {r₁ r₂ : Request} (hpeer : w₁.peer = w₂.peer)
    (hsend : r₁.isSendable = r₂.isSendable) :
    (w₁.submit r₁ = (.dropped, w₁) ∧ w₂.submit r₂ = (.dropped, w₂)) ∨
      ∃ d peer, w₁.submit r₁ = (d, ⟨peer, w₁.sent ++ [r₁]⟩) ∧
        w₂.submit r₂ = (d, ⟨peer, w₂.sent ++ [r₂]⟩) := by
  obtain ⟨peer, sent₁⟩ := w₁
  obtain ⟨_, sent₂⟩ := w₂
  dsimp only at hpeer
  subst hpeer
  rw [Wire.submit, Wire.submit, hsend]
  by_cases h : r₂.isSendable = true
  · rw [if_pos h, if_pos h]
    match peer with
    | .absent => exact .inl ⟨rfl, rfl⟩
    | .scripted [] => exact .inr ⟨.dropped, .scripted [], rfl, rfl⟩
    | .scripted (d :: rest) => exact .inr ⟨d, .scripted rest, rfl, rfl⟩
  · rw [if_neg h, if_neg h]
    exact .inl ⟨rfl, rfl⟩

/-! ## Pairs of tokens -/

/-- Two tokens, each of which may stand in a header. -/
structure TokenPair where
  one : String
  other : String
  one_legal : Request.isHeaderText one = true
  other_legal : Request.isHeaderText other = true

namespace TokenPair

variable (tokens : TokenPair)

/-! ## What may differ -/

/-- Sessions in two files: they differ in the token, which is still the first one, or not at all. -/
inductive Slots : Option SessionRecord → Option SessionRecord → Prop where
  | original (owner : Option String) :
    Slots (some ⟨tokens.one, owner⟩) (some ⟨tokens.other, owner⟩)
  | same (slot : Option SessionRecord) : Slots slot slot

/-- Files with the same settings whose sessions may differ in the token. -/
inductive Files (f₁ f₂ : ConfigFile) : Prop where
  | mk {server : ServerSettings} {slot₁ slot₂ : Option SessionRecord} (h₁ : f₁.Holds server slot₁)
    (h₂ : f₂.Holds server slot₂) (hslots : tokens.Slots slot₁ slot₂)

/-- Tokens in memory and requests that were sent: as long as the first token is held, it stood on
every request. -/
inductive History : Option String → List Request → Option String → List Request → Prop where
  | original (first : List Request) :
    History (some tokens.one) (first.map (Request.bearing tokens.one))
      (some tokens.other) (first.map (Request.bearing tokens.other))
  | replaced (token : Option String) (first rest : List Request) :
    History token (first.map (Request.bearing tokens.one) ++ rest)
      token (first.map (Request.bearing tokens.other) ++ rest)

/-- Slots of one service in two such files. -/
structure FileSlots (s₁ s₂ : ConfigSlot) : Prop where
  baseUrl : s₁.baseUrl = s₂.baseUrl
  files : tokens.Files s₁.file s₂.file

/-- Clients that may differ in the first token. -/
structure Clients (c₁ c₂ : Client ConfigSlot) : Prop where
  endpoint : c₁.endpoint = c₂.endpoint
  peer : c₁.wire.peer = c₂.wire.peer
  slots : tokens.FileSlots c₁.session.slot c₂.session.slot
  history : tokens.History c₁.session.token c₁.wire.sent c₂.session.token c₂.wire.sent

variable {tokens : TokenPair}

/-! ## Files -/

/-- A use of the slot that leaves the same in both slots leaves files that hold the same. -/
theorem Files.use {f₁ f₂ : ConfigFile} (h : tokens.Files f₁ f₂) (u : SlotUse)
    (hsame : ∀ slot₁ slot₂, u.act slot₁ = u.act slot₂) : tokens.Files (u.file f₁) (u.file f₂) := by
  cases h with
  | @mk server slot₁ slot₂ h₁ h₂ hslots =>
    have h₂' := u.holds_file h₂
    rw [← hsame slot₁ slot₂] at h₂'
    exact ⟨u.holds_file h₁, h₂', .same _⟩

/-- Whose token it is does not depend on the token. -/
theorem Slots.history {slot₁ slot₂ : Option SessionRecord} (h : tokens.Slots slot₁ slot₂)
    (baseUrl : String) :
    tokens.History (SlotUse.token? baseUrl slot₁) [] (SlotUse.token? baseUrl slot₂) [] := by
  cases h with
  | original owner =>
    cases owner with
    | none => exact .replaced none [] []
    | some own =>
      unfold SlotUse.token?
      dsimp only
      by_cases hown : Endpoint.trimSlashes own = Endpoint.trimSlashes baseUrl
      · rw [if_pos hown, if_pos hown]
        exact .original []
      · rw [if_neg hown, if_neg hown]
        exact .replaced none [] []
  | same slot => exact .replaced _ [] []

namespace FileSlots

variable {s₁ s₂ : ConfigSlot}

theorem store (h : tokens.FileSlots s₁ s₂) (token : String) :
    tokens.FileSlots (TokenSlot.store token s₁) (TokenSlot.store token s₂) where
  baseUrl := (ConfigSlot.baseUrl_replace s₁ _).trans
    (h.baseUrl.trans (ConfigSlot.baseUrl_replace s₂ _).symm)
  files := by
    obtain ⟨f₁, baseUrl⟩ := s₁
    obtain ⟨f₂, _⟩ := s₂
    obtain rfl : baseUrl = _ := h.baseUrl
    exact h.files.use ⟨baseUrl, .store token⟩ fun _ _ => rfl

theorem remove (h : tokens.FileSlots s₁ s₂) :
    tokens.FileSlots (TokenSlot.remove s₁) (TokenSlot.remove s₂) where
  baseUrl := (ConfigSlot.baseUrl_remove s₁).trans
    (h.baseUrl.trans (ConfigSlot.baseUrl_remove s₂).symm)
  files := by
    obtain ⟨f₁, baseUrl⟩ := s₁
    obtain ⟨f₂, _⟩ := s₂
    obtain rfl : baseUrl = _ := h.baseUrl
    exact h.files.use ⟨baseUrl, .remove⟩ fun _ _ => rfl

/-- A session that is opened now holds the first token, or the same one in both runs. -/
theorem history (h : tokens.FileSlots s₁ s₂) :
    tokens.History (TokenSlot.load s₁) [] (TokenSlot.load s₂) [] := by
  obtain ⟨f₁, baseUrl⟩ := s₁
  obtain ⟨f₂, _⟩ := s₂
  obtain rfl : baseUrl = _ := h.baseUrl
  cases h.files with
  | mk h₁ h₂ hslots =>
    have hload₁ := SlotUse.loaded?_eq_answer? ⟨baseUrl, .load⟩ h₁
    have hload₂ := SlotUse.loaded?_eq_answer? ⟨baseUrl, .load⟩ h₂
    have htoken₁ : TokenSlot.load (⟨f₁, baseUrl⟩ : ConfigSlot) = _ := Option.some.inj hload₁
    have htoken₂ : TokenSlot.load (⟨f₂, baseUrl⟩ : ConfigSlot) = _ := Option.some.inj hload₂
    rw [htoken₁, htoken₂]
    exact hslots.history baseUrl

end FileSlots

/-! ## Tokens in memory -/

section History

variable {token₁ token₂ : Option String} {sent₁ sent₂ : List Request}

theorem History.isSome_eq (h : tokens.History token₁ sent₁ token₂ sent₂) :
    token₁.isSome = token₂.isSome := by
  cases h <;> rfl

/-- Both tokens give way to the same one, or to none. -/
theorem History.replace (h : tokens.History token₁ sent₁ token₂ sent₂) (token : Option String) :
    tokens.History token sent₁ token sent₂ := by
  cases h with
  | original first =>
    have hnone : tokens.History token _ token _ := .replaced token first []
    rwa [List.append_nil, List.append_nil] at hnone
  | replaced _ first rest => exact .replaced token first rest

/-- A request with the token of each run is one more request. -/
theorem History.send (h : tokens.History token₁ sent₁ token₂ sent₂) (r : Request) :
    tokens.History token₁ (sent₁ ++ [{ r with authorization := token₁.map ("Bearer " ++ ·) }])
      token₂ (sent₂ ++ [{ r with authorization := token₂.map ("Bearer " ++ ·) }]) := by
  cases h with
  | original first =>
    have hmore : tokens.History _ _ _ _ := .original (first ++ [r])
    rwa [List.map_append, List.map_append] at hmore
  | replaced _ first rest =>
    rw [List.append_assoc, List.append_assoc]
    exact .replaced _ first _

/-- Either token may stand on a request, so that both requests can be sent or neither can. -/
theorem History.isSendable_eq (h : tokens.History token₁ sent₁ token₂ sent₂) (r : Request) :
    Request.isSendable { r with authorization := token₁.map ("Bearer " ++ ·) } =
      Request.isSendable { r with authorization := token₂.map ("Bearer " ++ ·) } := by
  cases h with
  | original first =>
    have hone := Request.isHeaderText_bearer tokens.one_legal
    have hother := Request.isHeaderText_bearer tokens.other_legal
    simp [Request.isSendable, Request.authorizations, hone, hother]
  | replaced _ first rest => rfl

end History

/-! ## Clients -/

namespace Clients

variable {c₁ c₂ : Client ConfigSlot}

theorem prepare_eq (h : tokens.Clients c₁ c₂) (method : Method) (url : Url) (body : Option Json) :
    c₂.prepare method url body =
      { c₁.prepare method url body with
        authorization := c₂.session.token.map ("Bearer " ++ ·) } := by
  rw [Client.prepare, Client.prepare, h.endpoint]

theorem hasToken_eq (h : tokens.Clients c₁ c₂) : c₁.session.hasToken = c₂.session.hasToken :=
  h.history.isSome_eq

theorem isPersisted_eq (h : tokens.Clients c₁ c₂) :
    c₁.session.isPersisted = c₂.session.isPersisted :=
  h.slots.history.isSome_eq

/-- The session ends in both runs. -/
theorem clearToken (h : tokens.Clients c₁ c₂) : tokens.Clients c₁.clearToken c₂.clearToken :=
  ⟨h.endpoint, h.peer, h.slots.remove, h.history.replace none⟩

/-- A new token takes the place of the first one in both runs. -/
theorem setToken (h : tokens.Clients c₁ c₂) (token : String) (keep : Bool) :
    tokens.Clients (c₁.setToken token keep) (c₂.setToken token keep) := by
  refine ⟨h.endpoint, h.peer, ?_, h.history.replace (some token)⟩
  cases keep with
  | true => exact h.slots.store token
  | false => exact h.slots

/-- Both requests go out with the token of their run, or neither does. -/
theorem submit (h : tokens.Clients c₁ c₂) (method : Method) (url : Url) (body : Option Json) :
    ∃ d w₁ w₂, c₁.wire.submit (c₁.prepare method url body) = (d, w₁) ∧
      c₂.wire.submit (c₂.prepare method url body) = (d, w₂) ∧
      tokens.Clients { c₁ with wire := w₁ } { c₂ with wire := w₂ } := by
  have hsend :
      (c₁.prepare method url body).isSendable = (c₂.prepare method url body).isSendable := by
    rw [h.prepare_eq]
    exact h.history.isSendable_eq (c₁.prepare method url body)
  rcases Wire.submit_eq_of_peer_eq h.peer hsend with ⟨hw₁, hw₂⟩ | ⟨d, peer, hw₁, hw₂⟩
  · exact ⟨.dropped, _, _, hw₁, hw₂, h⟩
  · refine ⟨d, _, _, hw₁, hw₂, h.endpoint, rfl, h.slots, ?_⟩
    rw [h.prepare_eq]
    exact h.history.send (c₁.prepare method url body)

theorem send (h : tokens.Clients c₁ c₂) (method : Method) (url : Url) (body : Option Json) :
    (c₁.send method url body).1 = (c₂.send method url body).1 ∧
      tokens.Clients (c₁.send method url body).2 (c₂.send method url body).2 := by
  obtain ⟨d, w₁, w₂, hw₁, hw₂, hclients⟩ := h.submit method url body
  rw [Client.send, Client.send, hw₁, hw₂]
  cases d with
  | dropped => exact ⟨rfl, hclients⟩
  | answered reply =>
    dsimp only
    rw [h.hasToken_eq]
    by_cases hexpired : reply.status = 401 ∧ c₂.session.hasToken = true
    · rw [if_pos hexpired, if_pos hexpired]
      exact ⟨rfl, hclients.clearToken⟩
    · rw [if_neg hexpired, if_neg hexpired]
      exact ⟨rfl, hclients⟩

theorem request (h : tokens.Clients c₁ c₂) (method : Method) (path : String) (body : Option Json) :
    (c₁.request method path body).1 = (c₂.request method path body).1 ∧
      tokens.Clients (c₁.request method path body).2 (c₂.request method path body).2 := by
  rw [Client.request, Client.request, h.endpoint]
  cases c₂.endpoint.resolve path with
  | error e => exact ⟨rfl, h⟩
  | ok url => exact h.send method url body

/-- A call has the same answer in both runs. -/
theorem perform (h : tokens.Clients c₁ c₂) (call : Call) :
    (c₁.perform call).1 = (c₂.perform call).1 ∧
      tokens.Clients (c₁.perform call).2 (c₂.perform call).2 := by
  obtain ⟨hresult, hclients⟩ := h.request call.method call.path call.body
  rw [Client.perform, Client.perform]
  rcases hr₁ : c₁.request call.method call.path call.body with ⟨r₁, c₁'⟩
  rcases hr₂ : c₂.request call.method call.path call.body with ⟨r₂, c₂'⟩
  rw [hr₁, hr₂] at hresult hclients
  obtain rfl : r₁ = r₂ := hresult
  cases r₁ with
  | error e => exact ⟨rfl, hclients⟩
  | ok payload => exact ⟨rfl, hclients⟩

end Clients

end TokenPair

end AccountAdmin
