import AccountAdmin.Proofs.Console.Identity
import AccountAdmin.Proofs.Console.Script
import AccountAdmin.Proofs.Service.CallReader

/-!
# Identity and token belong together

The token lives in the session and the current user in the console.  Two of the actions send both at
once: they ask the service to change the password or the profile of the current user, and carry the
token to show that they may.  Nothing in a request ties the one to the other, so it matters that the
two never come from different logins.

They do not, because a run falls into *epochs*.  An epoch starts with a run, with every login that
succeeds and with every signing out, and whatever starts one sets token and user together: a login
takes both from one reply, and signing out empties both.  Within an epoch the token can only be
lost, and the user can only be replaced by that of another record of the same epoch.  Failed logins,
refused tokens and questions that fail do less than that.

`Console.Dated` is this invariant, relative to the history of a run, and `Console.Dated.step` is the
step.  `identity_of_epoch` draws the conclusion for the requests.
-/

namespace AccountAdmin

/-! ## Epochs -/

namespace Deed

/-- Whether the deed starts an epoch: a login that succeeded, or signing out. -/
def startsEpoch (d : Deed) : Bool :=
  match d.move with
  | .action (.login _ _) => d.succeeded
  | .action .logout => true
  | _ => false

/-- The deeds of the current epoch. -/
def epochOf (history : List Deed) : List Deed :=
  history.foldl (fun epoch d => if d.startsEpoch then [d] else epoch ++ [d]) []

theorem epochOf_append_singleton (history : List Deed) (d : Deed) :
    epochOf (history ++ [d]) = if d.startsEpoch then [d] else epochOf history ++ [d] := by
  rw [epochOf, List.foldl_append, List.foldl_cons, List.foldl_nil, epochOf]

/-- The last deed belongs to the current epoch in any case. -/
theorem mem_epochOf_append_singleton (history : List Deed) (d : Deed) :
    d ∈ epochOf (history ++ [d]) := by
  rw [epochOf_append_singleton]
  split
  · exact List.mem_singleton_self d
  · exact List.mem_append_right _ (List.mem_singleton_self d)

/-- The current epoch goes on with a deed that does not start another one. -/
theorem epochOf_append_of_not_startsEpoch {d : Deed} (h : d.startsEpoch = false)
    (history : List Deed) : epochOf (history ++ [d]) = epochOf history ++ [d] := by
  rw [epochOf_append_singleton, h]
  rfl

end Deed

/-! ## Tokens -/

section

variable {σ α : Type} [TokenSlot σ] {allowed : Method → String → Prop}

/-- What neither signs in nor out brings no token. -/
theorem Outcome.Serves.token_eq {c : Client σ} {o : Outcome σ α} (ho : o.Serves allowed c .other)
    {token : String} (h : o.console.client.session.token = some token) :
    c.session.token = some token := by
  obtain ⟨xs, hxs⟩ := ho
  rw [hxs.course.session_eq] at h
  rcases Happening.token_foldl h with ⟨hc, -⟩ | ⟨before, keep, after, hsplit, -⟩
  · exact hc
  · rw [Purpose.course] at hsplit
    have hmem : .signedIn token keep ∈ xs.map Happening.exchanged := by
      rw [hsplit]
      exact List.mem_append_right before List.mem_cons_self
    obtain ⟨x, -, hx⟩ := List.mem_map.1 hmem
    cases hx

/-- A token that is held after a login comes from it if it has succeeded, and was held before if it
has failed. -/
theorem Console.token_login (c : Console σ) (credentials : Credentials) (keep : Bool)
    {token : String} (h : (c.login credentials keep).console.client.session.token = some token) :
    let xs := c.client.wire.exchangesTo (c.login credentials keep).console.client.wire
    ((c.login credentials keep).result.isOk = true ∧
        ∃ answer, xs.findSome? Exchange.signIn? = some answer ∧ answer.token = token) ∨
      ((c.login credentials keep).result.isOk = false ∧ c.client.session.token = some token) := by
  have hany : anyPath .post "/authenticate" := trivial
  have hperform :
      (c.perform (.authenticate credentials)).console.client.session.token = some token →
        c.client.session.token = some token := (c.serves_perform hany).token_eq
  obtain ⟨mid, hmid, ⟨e, hlogin, -⟩ | ⟨x, answer, hlogin, hx, hone⟩⟩ :=
    c.perform_andThen_cases (.authenticate credentials) (o := c.login credentials keep) rfl
      fun _ _ => rfl
  · -- the call has failed, and a call brings no token
    rw [hmid] at hperform
    rw [hlogin] at h ⊢
    exact .inr ⟨rfl, hperform h⟩
  · have hsign : x.signIn? = some answer := by
      rw [signIn?_eq x credentials, hx]
      rfl
    have htoken : SignIn.token answer = token := by
      rw [hlogin] at h
      exact Option.some.inj h
    intro xs
    have hxs : xs = [x] := hone
    rw [hxs, List.findSome?_singleton, hsign, hlogin]
    exact .inl ⟨rfl, answer, rfl, htoken⟩

/-- A token that is held after an action comes from the action, which was a login, or was held
before and the action starts no epoch. -/
theorem Action.token_run (action : Action) (c : Console σ) {token : String}
    (h : (action.run c).console.client.session.token = some token) :
    let d := (Move.action action).deed c
    (d.startsEpoch = true ∧ ∃ answer, d.signIn? = some answer ∧ answer.token = token) ∨
      (d.startsEpoch = false ∧ c.client.session.token = some token) := by
  have hany (call : Call) : anyPath call.method call.path := trivial
  have hserves := action.serves hany c
  cases action with
  | login credentials keep =>
    dsimp only [Move.deed, Deed.startsEpoch, Deed.signIn?, Move.exchanges, Move.run, run,
      Move.Answer, Answer] at h ⊢
    exact c.token_login credentials keep h
  | logout => cases h
  | _ => exact .inr ⟨rfl, hserves.token_eq h⟩

end

/-- What starts an epoch settles who is signed in. -/
theorem Move.isSome_identity?_of_startsEpoch {σ : Type} [TokenSlot σ] (move : Move) (c : Console σ)
    (h : (move.deed c).startsEpoch = true) : (move.deed c).identity?.isSome = true := by
  cases move with
  | action a =>
    cases a with
    | login credentials keep =>
      have hasks : (Move.action (.login credentials keep)).asksWho = true := rfl
      have hsucceeded := (shows_run_of_asksWho hasks c).1
      rw [Deed.identity?_of_asksWho hasks hsucceeded, Option.isSome_map, ← hsucceeded]
      exact h
    | logout => rfl
    | _ => cases h
  | _ => cases h

/-! ## Epochs and consoles -/

namespace Console

variable {σ : Type} {client : Client σ} {history : List Deed} {c : Console σ}

/-- What the history of a run, started with some client, says of the console at its end. -/
structure Dated (client : Client σ) (history : List Deed) (c : Console σ) : Prop where
  /-- The current user has no id, or the one of a record of the current epoch. -/
  identity : c.user.id = none ∨
    ∃ d ∈ Deed.epochOf history, ∃ u, d.record? = some u ∧ u.id = c.user.id
  /-- The token was brought by the login that started the current epoch; or no epoch has started
  since the run has, and the token is the one with which it was started. -/
  token : ∀ token, c.client.session.token = some token →
    (∃ d answer rest, Deed.epochOf history = d :: rest ∧ d.startsEpoch = true ∧
      d.signIn? = some answer ∧ answer.token = token) ∨
    ((∀ d ∈ history, d.startsEpoch = false) ∧ client.session.token = some token)

theorem dated_start (client : Client σ) : Dated client [] { client } where
  identity := .inl rfl
  token _ h := .inr ⟨fun _ hd => (nomatch hd), h⟩

variable [TokenSlot σ]

/-- Step lemma: an action keeps history and console together. -/
theorem Dated.step (h : c.Dated client history) (action : Action) :
    (action.run c).console.Dated client (history ++ [(Move.action action).deed c]) := by
  have huser : (action.run c).console.user =
      ((Move.action action).deed c).identity?.getD c.user :=
    ((Move.action action).shows_run c).user_eq
  have htoken (token : String)
      (hheld : (action.run c).console.client.session.token = some token) :=
    action.token_run c hheld
  have hstarts := (Move.action action).isSome_identity?_of_startsEpoch c
  -- nothing but these three facts is needed of the deed
  generalize (Move.action action).deed c = d at huser htoken hstarts ⊢
  refine ⟨?_, fun token hheld => ?_⟩
  · rw [huser]
    cases hidentity : d.identity? with
    | none =>
      -- the user stays, and so does the epoch, which would have settled the matter otherwise
      have hsame : d.startsEpoch = false := by
        rw [hidentity] at hstarts
        exact Bool.eq_false_iff.2 fun hstart => Bool.false_ne_true (hstarts hstart)
      rw [Deed.epochOf_append_of_not_startsEpoch hsame]
      refine h.identity.imp_right ?_
      rintro ⟨e, he, hrecord⟩
      exact ⟨e, List.mem_append_left _ he, hrecord⟩
    | some user =>
      rcases Deed.identity?_cases hidentity with rfl | ⟨u, hu, rfl⟩
      · exact .inl rfl
      · exact .inr ⟨d, Deed.mem_epochOf_append_singleton history d, u, hu,
          (CurrentUser.id_ofRecord u).symm⟩
  · rcases htoken token hheld with ⟨hstart, answer, hanswer, rfl⟩ | ⟨hsame, hbefore⟩
    · refine .inl ⟨d, answer, [], ?_, hstart, hanswer, rfl⟩
      rw [Deed.epochOf_append_singleton, if_pos hstart]
    · rw [Deed.epochOf_append_of_not_startsEpoch hsame]
      rcases h.token token hbefore with ⟨e, answer, rest, hepoch, hrest⟩ | ⟨hnone, hheld⟩
      · exact .inl ⟨e, answer, rest ++ [d], by rw [hepoch]; rfl, hrest⟩
      · refine .inr ⟨fun e he => ?_, hheld⟩
        rcases List.mem_append.1 he with he | he
        · exact hnone e he
        · exact List.mem_singleton.1 he ▸ hsame

/-- Run lemma: any actions keep history and console together. -/
theorem Dated.run (h : c.Dated client history) (actions : List Action) :
    (Move.runAll (actions.map .action) c).Dated client
      (history ++ Move.history (actions.map .action) c) := by
  induction actions generalizing history c with
  | nil =>
    rw [List.map_nil, Move.history, List.append_nil]
    exact h
  | cons action actions ih =>
    have hrest := ih (h.step action)
    rw [List.append_assoc, List.singleton_append] at hrest
    exact hrest

end Console

/-! ## Requests about the current user -/

/-- What the text of the body of a request has under the key `userId`. -/
def Request.userId? (r : Request) : Option Json :=
  r.body.bind fun text => (Json.read text).bind (Json.field? "userId")

namespace Action

/-- The call about the current user that an action makes, if it makes one. -/
def ownCall? (user : CurrentUser) : Action → Option Call
  | changePassword old new _ => some (.changePassword ⟨user.id, old, new⟩)
  | updateProfile displayName => some (.updateDetails ⟨user.id, displayName⟩)
  | _ => none

/-- Whether an action asks for a change of the current user. -/
def changesOwn : Action → Bool
  | changePassword _ _ _ | updateProfile _ => true
  | _ => false

variable {σ : Type} [TokenSlot σ]

theorem exists_ownCall? {action : Action} (h : action.changesOwn = true) (user : CurrentUser) :
    ∃ call, action.ownCall? user = some call := by
  cases action with
  | changePassword | updateProfile => exact ⟨_, rfl⟩
  | _ => cases h

/-- There is no other call than this one. -/
theorem spells_ownCall? {action : Action} {user : CurrentUser} {call : Call}
    (h : action.ownCall? user = some call) : (action.script user).Spells [call] := by
  cases action with
  | changePassword old new again =>
    obtain rfl := Option.some.inj h
    rw [script]
    split
    · exact .call fun _ => .done user
    · exact .refuse _ _
  | updateProfile displayName =>
    obtain rfl := Option.some.inj h
    exact .call fun u => .done _
  | _ => cases h

theorem purpose_of_ownCall? {action : Action} {user : CurrentUser} {call : Call}
    (h : action.ownCall? user = some call) : action.purpose = .other := by
  cases action with
  | changePassword | updateProfile => rfl
  | _ => cases h

/-- The body of the call says who is meant. -/
theorem userId?_of_ownCall? {action : Action} {user : CurrentUser} {call : Call}
    (h : action.ownCall? user = some call) {r : Request} (hbody : r.body = call.bodyText) :
    r.userId? = some (UserId.toJson? user.id) := by
  obtain ⟨fields, hfields, hunder⟩ : ∃ fields, call.fields? = some fields ∧
      Json.lastUnder? "userId" fields = some (UserId.toJson? user.id) := by
    cases action with
    | changePassword | updateProfile =>
      obtain rfl := Option.some.inj h
      exact ⟨_, rfl, rfl⟩
    | _ => cases h
  rw [Request.userId?, hbody, Call.bodyText_eq, hfields, Option.map_some, Option.bind_some,
    Json.read_compact (Call.fits_fields hfields), Option.bind_some, Json.field?_canonical_object,
    hunder, Option.map_some, Json.canonical_optionalId]

/-- A request of the action is the one of its call, and carries the token that is held. -/
theorem request_of_ownCall? {action : Action} {c : Console σ} {call : Call}
    (h : action.ownCall? c.user = some call) {x : Exchange}
    (hx : x ∈ (Move.action action).exchanges c) :
    x.request.body = call.bodyText ∧
      x.request.authorization = c.client.session.token.map ("Bearer " ++ ·) := by
  obtain ⟨hs, made, r, hcourse, hmade, hplays, -, -⟩ := action.plays c
  have hexchanges : (Move.action action).exchanges c = made.map (·.exchange) :=
    hcourse.exchangesTo_eq.trans hmade
  have hcalls := hplays.prefix_of_spells (spells_ownCall? h)
  rw [hexchanges] at hx
  obtain ⟨k, hk, rfl⟩ := List.mem_map.1 hx
  -- the script has one call, so this is the only request
  have hone : made = [k] := by
    obtain ⟨first, rest, rfl⟩ := List.exists_cons_of_ne_nil (List.ne_nil_of_mem hk)
    have hlength := hcalls.length_le
    rw [List.length_map, List.length_cons, List.length_singleton] at hlength
    obtain rfl : rest = [] := List.eq_nil_of_length_eq_zero (by omega)
    rw [List.mem_singleton.1 hk]
  have hcall : k.call = call := by
    have hmem := hcalls.subset (List.mem_map_of_mem hk)
    exact List.mem_singleton.1 hmem
  refine ⟨?_, ?_⟩
  · have hcarries := hplays.carries k hk
    rw [hcall] at hcarries
    exact hcarries.body_eq
  · have hown := (Move.action action).course_run c
    have hcourse_eq : (Move.action action).course c = [] ++ .exchanged k.exchange :: [] := by
      have hpurpose : (Move.action action).purpose = .other := purpose_of_ownCall? h
      rw [Move.course, hpurpose, hexchanges, hone]
      rfl
    rw [hcourse_eq] at hown
    exact hown.request_of_split.1

end Action

/-- **Identity and token belong together.**  A console is set up with any client, and then any
actions are performed.  Let a further one send a request about the current user.  The `userId` in
its body is null, or the id of a record that was received in the current epoch.  If the request
carries a token, then it was brought by the login that started the current epoch; or no epoch has
started since the run has, so no login has succeeded, and it is the token with which the run was
started. -/
theorem identity_of_epoch {σ : Type} [TokenSlot σ] (client : Client σ) (actions : List Action)
    {action : Action} (hown : action.changesOwn = true) {x : Exchange}
    (hx : x ∈ (Move.action action).exchanges (Move.runAll (actions.map .action) { client })) :
    let history := Move.history (actions.map .action) ({ client } : Console σ)
    let epoch := Deed.epochOf history
    (x.request.userId? = some .null ∨
      ∃ d ∈ epoch, ∃ u id, d.record? = some u ∧ u.id = some id ∧
        x.request.userId? = some id.toJson) ∧
    ∀ token, x.request.authorization = some ("Bearer " ++ token) →
      (∃ d answer rest, epoch = d :: rest ∧ d.startsEpoch = true ∧ d.signIn? = some answer ∧
        answer.token = token) ∨
      ((∀ d ∈ history, d.startsEpoch = false) ∧ client.session.token = some token) := by
  intro history epoch
  have hdated := (Console.dated_start client).run actions
  rw [List.nil_append] at hdated
  obtain ⟨call, hcall⟩ := Action.exists_ownCall? hown
    (Move.runAll (actions.map .action) ({ client } : Console σ)).user
  obtain ⟨hbody, hauthorization⟩ := Action.request_of_ownCall? hcall hx
  have hid := Action.userId?_of_ownCall? hcall hbody
  refine ⟨?_, fun token htoken => ?_⟩
  · rcases hdated.identity with hnone | ⟨d, hd, u, hu, hsame⟩
    · rw [hnone] at hid
      exact .inl hid
    · rw [← hsame] at hid
      cases huser : u.id with
      | none =>
        rw [huser] at hid
        exact .inl hid
      | some id =>
        rw [huser] at hid
        exact .inr ⟨d, hd, u, id, hu, huser, hid⟩
  · rw [hauthorization] at htoken
    obtain ⟨held, hheld, hbearer⟩ := Option.map_eq_some_iff.1 htoken
    obtain rfl : held = token := (String.append_right_inj "Bearer ").1 hbearer
    exact hdated.token held hheld

/-- The first login brings the token `a` and the id 7, and is followed by signing out; the second
one brings the token `b` and the id 8.  A change of password behind it goes to the service with the
id 8 and the token `b`, and says which login the two come from. -/
theorem identity_of_epoch_second_login :
    let ann := "\x7b\"user\":\x7b\"userId\":7\x7d,\"authToken\":\"a\"\x7d"
    let bob := "\x7b\"user\":\x7b\"userId\":8\x7d,\"authToken\":\"b\"\x7d"
    let peer : Peer := .scripted [.answered ⟨200, some ann.toUTF8⟩,
      .answered ⟨200, some bob.toUTF8⟩, .answered ⟨204, none⟩]
    let start : Console MemorySlot := { client := ⟨.default, .start {}, { peer }⟩ }
    let moves := [Action.login ⟨"ann", "pw"⟩ false, .logout, .login ⟨"bob", "pw"⟩ false].map .action
    ∃ x ∈ (Move.action (.changePassword "pw" "new" "new")).exchanges (Move.runAll moves start),
      x.request.userId? = some (.integer 8) ∧ x.request.authorization = some "Bearer b" ∧
      ∃ d answer rest, Deed.epochOf (Move.history moves start) = d :: rest ∧
        d.signIn? = some answer ∧ answer.token = "b" := by
  intro ann bob peer start moves
  have hsent : ((Move.action (.changePassword "pw" "new" "new")).exchanges
      (Move.runAll moves start)).isEmpty = false := by decide +kernel
  have huser : (Move.runAll moves start).user.id = some { value := 8 } := by decide +kernel
  have hheld : (Move.runAll moves start).client.session.token = some "b" := by decide +kernel
  obtain ⟨x, hx⟩ := List.exists_mem_of_ne_nil _ (List.isEmpty_eq_false_iff.1 hsent)
  have hcall (user : CurrentUser) : (Action.changePassword "pw" "new" "new").ownCall? user =
      some (.changePassword ⟨user.id, "pw", "new"⟩) := rfl
  obtain ⟨hbody, hbearer⟩ := Action.request_of_ownCall? (hcall _) hx
  have hid := Action.userId?_of_ownCall? (hcall _) hbody
  rw [huser] at hid
  rw [hheld] at hbearer
  refine ⟨x, hx, hid, hbearer, ?_⟩
  obtain ⟨-, htoken⟩ := identity_of_epoch start.client
    [.login ⟨"ann", "pw"⟩ false, .logout, .login ⟨"bob", "pw"⟩ false] rfl hx
  rcases htoken "b" hbearer with ⟨d, answer, rest, hepoch, -, hanswer, htoken⟩ | ⟨-, hheld⟩
  · exact ⟨d, answer, rest, hepoch, hanswer, htoken⟩
  · cases hheld

end AccountAdmin
