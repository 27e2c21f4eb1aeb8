import AccountAdmin.Proofs.Console.Course
import AccountAdmin.Proofs.Service.Script

/-!
# The scripts of the actions

Each action of the console has a script (`Action.script`): the calls that it makes, how they depend
on the answers, and the current user at its end.  The script says nothing of what is reported, of
the session, or of how a call goes about its business; it says what the service gets to hear of the
action, and `Action.plays` says that this is all.

The script depends on the current user before the action, because two of the calls say whose
password or profile is meant.  An action hands the user on to what comes behind it as the value at
the end of its script, and so the scripts of actions done one after another are put together by
`Script.bind` (`Console.Plays.bind`).
-/

namespace AccountAdmin

variable {σ : Type} [TokenSlot σ]

/-- A script about the user of a record, who has to have an id. -/
def Script.onId {α : Type} (u : UserRecord) (f : UserId → Script α) : Script α :=
  match u.id with
  | none => .refuse
  | some id => f id

/-! ## Playing a script -/

/-- One gets from a console to another one by the calls of a script, up to the end of the script or
not. -/
def Console.Plays (c : Console σ) (p : Script CurrentUser) (ok : Bool) (last : Console σ) : Prop :=
  ∃ hs made r, Client.Course servicePath c.client hs last.client ∧
    exchangesOf hs = made.map (·.exchange) ∧ p.Plays c.client.endpoint made r ∧
    r.isSome = ok ∧ ∀ user ∈ r, last.user = user

/-- An outcome comes about by the calls of a script, and is a success if it gets to the end. -/
def Outcome.Plays {α : Type} (c : Console σ) (p : Script CurrentUser) (o : Outcome σ α) : Prop :=
  c.Plays p o.result.isOk o.console

namespace Console

variable {c last : Console σ}

/-- Nothing is sent. -/
theorem plays_done {hs : List Happening} {user : CurrentUser}
    (hcourse : Client.Course servicePath c.client hs last.client) (hs_nil : exchangesOf hs = [])
    (huser : last.user = user) : c.Plays (.done user) true last :=
  ⟨hs, [], some user, hcourse, hs_nil, .done user, rfl, fun _ h => Option.some.inj h ▸ huser⟩

/-- Nothing is sent and nothing done. -/
theorem plays_refuse (c : Console σ) : c.Plays .refuse false c :=
  ⟨[], [], none, .nil c.client, rfl, .refuse, rfl, fun _ h => nomatch h⟩

theorem Plays.bind_of_false {p : Script CurrentUser} (h : c.Plays p false last)
    (f : CurrentUser → Script CurrentUser) : c.Plays (p.bind f) false last := by
  obtain ⟨hs, made, r, hcourse, hmade, hplays, hr, -⟩ := h
  cases r with
  | some user => cases hr
  | none =>
    exact ⟨hs, made, none, hcourse, hmade, hplays.bind_of_none f, rfl, fun _ h => nomatch h⟩

/-- What comes behind a script finds the current user at the end of the script. -/
theorem Plays.bind {p : Script CurrentUser} {f : CurrentUser → Script CurrentUser}
    {mid : Console σ} {ok : Bool} (h : c.Plays p true mid)
    (hrest : mid.Plays (f mid.user) ok last) :
    c.Plays (p.bind f) ok last := by
  obtain ⟨hs, made, r, hcourse, hmade, hplays, hr, huser⟩ := h
  obtain ⟨ks, more, r', hcourse', hmore, hplays', hr', huser'⟩ := hrest
  cases r with
  | none => cases hr
  | some user =>
    obtain rfl := huser user rfl
    rw [hcourse.endpoint_eq] at hplays'
    refine ⟨hs ++ ks, made ++ more, r', hcourse.trans hcourse', ?_,
      hplays.bind_of_some hplays', hr', huser'⟩
    rw [exchangesOf_append, hmade, hmore, List.map_append]

theorem plays_tell {user : CurrentUser} (huser : c.user = user) (events : List Event) :
    (c.tell events).Plays c (.done user) :=
  plays_done (.nil c.client) rfl huser

theorem plays_apply (c : Console σ) (u : UserRecord) : (c.apply u).Plays c (.done (.ofRecord u)) :=
  plays_done (.nil c.client) rfl rfl

end Console

namespace Outcome

variable {c : Console σ} {p : Script CurrentUser} {α β : Type} {o : Outcome σ α}

theorem Plays.map (f : α → β) (h : o.Plays c p) : (o.map f).Plays c p := by
  have hok : (o.map f).result.isOk = o.result.isOk := by
    rw [result_map]
    cases o.result <;> rfl
  rw [Plays, hok]
  exact h

/-- What succeeds without a call leaves the script to what comes behind it. -/
theorem plays_tell_andThen {events : List Event} {next : Unit → Console σ → Outcome σ β}
    (h : (next () c).Plays c p) : ((c.tell events).andThen next).Plays c p := by
  rw [andThen_of_ok (a := ()) rfl]
  exact h

end Outcome

namespace Console

/-- A call, and what comes behind it if it is answered. -/
theorem plays_perform_andThen {β : Type} (c : Console σ) (call : Call)
    {next : call.Answer → Console σ → Outcome σ β} {f : call.Answer → Script CurrentUser}
    (hnext : ∀ a (last : Console σ), last.user = c.user → (next a last).Plays last (f a)) :
    ((c.perform call).andThen next).Plays c (.call call f) := by
  rcases c.perform_cases call with ⟨e, h, -⟩ | ⟨url, d, wire, hurl, htakes, h⟩
  · -- nothing was sent
    rw [Outcome.andThen_of_error (e := e) (by rw [h]), h]
    exact ⟨[], [], none, .nil c.client, rfl, .unsent call f, rfl, fun _ h => nomatch h⟩
  · have hcarries := c.client.carries_prepare hurl d
    have hstep : Client.Step servicePath c.client _ _ := .exchanged ⟨call, rfl, rfl⟩ hurl htakes
    cases hanswer : Exchange.answer ⟨c.client.prepare call.method url call.body, d⟩ call with
    | error e =>
      rw [hanswer] at h
      rw [Outcome.andThen_of_error (e := e) (by rw [h]; rfl), h]
      exact ⟨[_], [⟨call, _⟩], none, hstep.course, rfl, .failed hcarries hanswer, rfl,
        fun _ h => nomatch h⟩
    | ok a =>
      rw [hanswer] at h
      rw [Outcome.andThen_of_ok (a := a) (by rw [h]; rfl), h]
      obtain ⟨hs, made, r, hcourse, hmade, hplays, hr, huser⟩ := hnext a
        { c with client := c.client.after ⟨c.client.prepare call.method url call.body, d⟩ wire } rfl
      exact ⟨_ :: hs, ⟨call, _⟩ :: made, r, .cons hstep hcourse, congrArg (_ :: ·) hmade,
        .answered hcarries hanswer hplays, hr, huser⟩

/-- An action on a record, which has to have an id. -/
theorem plays_requireId_andThen {β : Type} (c : Console σ) (u : UserRecord)
    {next : UserId → Console σ → Outcome σ β} {f : UserId → Script CurrentUser}
    (hnext : ∀ id, (next id c).Plays c (f id)) :
    ((c.report u.requireId).andThen next).Plays c (.onId u f) := by
  rw [UserRecord.requireId, Script.onId]
  cases u.id with
  | none => exact c.plays_refuse
  | some id => exact hnext id

end Console

/-! ## Actions -/

/-- All users are fetched, and the current user stays. -/
def Script.listing (user : CurrentUser) : Script CurrentUser := .call .list fun _ => .done user

/-- The script of an action, from the current user before it. -/
def Action.script (user : CurrentUser) : Action → Script CurrentUser
  | refreshUser => .call .current fun (u : UserRecord) => .done (.ofRecord u)
  | login credentials _ =>
    .call (.authenticate credentials) fun (answer : SignIn) => .done (.ofRecord answer.user)
  | logout => .done (.ofRecord .guest)
  | changePassword old new again =>
    if new = again then .call (.changePassword ⟨user.id, old, new⟩) fun _ => .done user else .refuse
  | updateProfile displayName =>
    .call (.updateDetails ⟨user.id, displayName⟩) fun (u : UserRecord) => .done (.ofRecord u)
  | listUsers => .listing user
  | showUser id => .call (.get id) fun _ => .done user
  | addUser new => .call (.create new) fun _ => .listing user
  | resetUserPassword u => .onId u fun id => .call (.resetPassword id) fun _ => .done user
  | setUserEnabled u enabled =>
    .onId u fun id => .call (.setStatus ⟨id, !enabled⟩) fun _ => .listing user
  | deleteUser u => .onId u fun id => .call (.delete id) fun _ => .listing user

namespace Console

variable (c : Console σ)

theorem plays_listUsers {user : CurrentUser} (huser : c.user = user) :
    c.listUsers.Plays c (.listing user) :=
  c.plays_perform_andThen .list fun _ _ hlast => (plays_tell (hlast.trans huser) _).map _

theorem plays_redraw {user : CurrentUser} (huser : c.user = user) (done : Event) :
    (c.redraw done).Plays c (.listing user) :=
  Outcome.plays_tell_andThen ((c.plays_listUsers huser).map _)

theorem plays_refreshUser : c.refreshUser.Plays c (Action.refreshUser.script c.user) :=
  c.plays_perform_andThen .current fun (u : UserRecord) last _ => last.plays_apply u

theorem plays_login (credentials : Credentials) (keep : Bool) :
    (c.login credentials keep).Plays c ((Action.login credentials keep).script c.user) :=
  c.plays_perform_andThen (.authenticate credentials) fun (answer : SignIn) _ _ =>
    plays_done (Client.Step.signedIn answer.token keep).course rfl rfl

theorem plays_logout : c.logout.Plays c (Action.logout.script c.user) := by
  have hcleared : Client.Course servicePath c.client [.signedOut] c.client.clearToken :=
    Client.Step.signedOut.course
  rw [logout, Action.script]
  exact plays_done hcleared rfl rfl

theorem plays_changePassword (old new again : String) :
    (c.changePassword old new again).Plays c
      ((Action.changePassword old new again).script c.user) := by
  rw [changePassword, Action.script]
  split
  · exact c.plays_perform_andThen _ fun _ _ hlast => plays_tell hlast _
  · exact c.plays_refuse

theorem plays_updateProfile (displayName : String) :
    (c.updateProfile displayName).Plays c ((Action.updateProfile displayName).script c.user) :=
  c.plays_perform_andThen _ fun (_ : UserRecord) _ _ => plays_done (.nil _) rfl rfl

theorem plays_showUser (id : UserId) :
    (c.showUser id).Plays c ((Action.showUser id).script c.user) :=
  c.plays_perform_andThen (.get id) fun _ _ hlast => (plays_tell hlast _).map _

theorem plays_addUser (user : NewUser) :
    (c.addUser user).Plays c ((Action.addUser user).script c.user) :=
  c.plays_perform_andThen (.create user) fun _ last hlast => last.plays_redraw hlast _

theorem plays_resetUserPassword (user : UserRecord) :
    (c.resetUserPassword user).Plays c ((Action.resetUserPassword user).script c.user) :=
  c.plays_requireId_andThen user fun id =>
    c.plays_perform_andThen (.resetPassword id) fun _ _ hlast => plays_tell hlast _

theorem plays_setUserEnabled (user : UserRecord) (enabled : Bool) :
    (c.setUserEnabled user enabled).Plays c
      ((Action.setUserEnabled user enabled).script c.user) :=
  c.plays_requireId_andThen user fun id =>
    c.plays_perform_andThen (.setStatus ⟨id, !enabled⟩) fun _ last hlast =>
      last.plays_redraw hlast _

theorem plays_deleteUser (user : UserRecord) :
    (c.deleteUser user).Plays c ((Action.deleteUser user).script c.user) :=
  c.plays_requireId_andThen user fun id =>
    c.plays_perform_andThen (.delete id) fun _ last hlast => last.plays_redraw hlast _

end Console

/-- What an action asks of the service is what its script says. -/
theorem Action.plays (action : Action) (c : Console σ) :
    (action.run c).Plays c (action.script c.user) := by
  cases action with
  | refreshUser => exact c.plays_refreshUser
  | login credentials keep => exact c.plays_login credentials keep
  | logout => exact c.plays_logout
  | changePassword old new again => exact c.plays_changePassword old new again
  | updateProfile displayName => exact c.plays_updateProfile displayName
  | listUsers => exact c.plays_listUsers rfl
  | showUser id => exact c.plays_showUser id
  | addUser user => exact c.plays_addUser user
  | resetUserPassword user => exact c.plays_resetUserPassword user
  | setUserEnabled user enabled => exact c.plays_setUserEnabled user enabled
  | deleteUser user => exact c.plays_deleteUser user

end AccountAdmin
