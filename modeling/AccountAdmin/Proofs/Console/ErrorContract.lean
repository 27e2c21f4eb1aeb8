import AccountAdmin.Proofs.Config.OwnedSlot
import AccountAdmin.Proofs.Console.Course

/-!
# The error contract of the console

Who performs an action looks at its result and trusts the rest: a failure has been shown to the
operator, once and after everything else, and has not changed anything but, where the service no
longer knows the token, the session.  `Outcome.FailsWith` spells out what a failure leaves behind
and `Outcome.Honest` is the contract, for successes and failures.

An action is put together by `Outcome.andThen`, and the contract does not pass through it for free.
The second part is held to the console that the first part has left, but the whole is held to the
console before both.  So the first part has to have left the user and the session as they were
(`Outcome.Unchanged`), and the second part must not fail with an error that stands for "nothing was
sent" (`Outcome.Remote`).  Calls are like that (`Console.unchanged_perform`,
`Console.remote_perform`), and every action is a call with something behind it, once the checks
that need no call are passed.

* `Outcome.Honest.andThen`: the step from the parts of an action to the whole.
* `action_error_contract`: every action keeps the contract.
-/

namespace AccountAdmin

/-! ## Slots that can be emptied -/

/-- A slot that is empty once its token has been removed. -/
class LawfulTokenSlot (σ : Type) [TokenSlot σ] : Prop where
  load_remove (s : σ) : TokenSlot.load (TokenSlot.remove s) = none

instance : LawfulTokenSlot MemorySlot where
  load_remove _ := rfl

/-- A file that cannot be loaded holds no token to begin with. -/
instance : LawfulTokenSlot ConfigSlot where
  load_remove s := by
    obtain ⟨file, baseUrl⟩ := s
    cases hload : file.load with
    | error fault =>
      rw [ConfigSlot.remove_eq, ConfigSlot.replace_eq_self hload, ite_self]
      exact ConfigSlot.load_eq_none hload
    | ok config =>
      by_cases hnowhere : file = .nowhere
      · subst hnowhere
        rfl
      · have hremoved := (ConfigFile.Holds.mk hnowhere hload).remove baseUrl
        show ConfigSlot.token? _ = none
        rw [ConfigSlot.token?, hremoved.load]
        rfl

/-! ## The contract -/

namespace Event

/-- Whether the event shows a failure. -/
def isReport : Event → Bool
  | reportError _ => true
  | _ => false

/-- Whether the event shows a new current user. -/
def isApply : Event → Bool
  | applyUser _ => true
  | _ => false

end Event

namespace Outcome

variable {σ α β : Type}

/-- The error is not one of those that are found before anything is sent. -/
def Remote (o : Outcome σ α) : Prop := ∀ e, o.result = .error e → e.isLocal = false

/-- The user and the session are those of a console before, and nothing else has been shown. -/
structure Unchanged (c : Console σ) (o : Outcome σ α) : Prop where
  user_eq : o.console.user = c.user
  session_eq : o.console.client.session = c.client.session
  events : ∀ ev ∈ o.events, ev.isReport = false ∧ ev.isApply = false

variable [TokenSlot σ]

/-- What an action leaves behind that has failed with an error. -/
structure FailsWith (c : Console σ) (e : Error) (o : Outcome σ α) : Prop where
  /-- The error is reported once, after everything else, and no user is shown. -/
  reported : ∃ before, o.events = before ++ [.reportError e] ∧
    ∀ ev ∈ before, ev.isReport = false ∧ ev.isApply = false
  user_eq : o.console.user = c.user
  session_eq : e.isSessionExpired = false → o.console.client.session = c.client.session
  vacated : e.isSessionExpired = true →
    o.console.client.session.token = none ∧ TokenSlot.load o.console.client.session.slot = none
  sent_eq : e.isLocal = true → o.console.client.wire.sent = c.client.wire.sent

/-- The contract between an action and who performs it. -/
structure Honest (c : Console σ) (o : Outcome σ α) : Prop where
  succeeds : ∀ a, o.result = .ok a → ∀ ev ∈ o.events, ev.isReport = false
  fails : ∀ e, o.result = .error e → o.FailsWith c e

variable {c : Console σ} {o : Outcome σ α} {a : α}

omit [TokenSlot σ] in
theorem remote_of_ok (h : o.result = .ok a) : o.Remote := by
  intro e he
  rw [h] at he
  cases he

theorem honest_of_ok (h : o.result = .ok a) (hevents : ∀ ev ∈ o.events, ev.isReport = false) :
    o.Honest c where
  succeeds _ _ := hevents
  fails e he := by
    rw [h] at he
    cases he

omit [TokenSlot σ] in
theorem Remote.andThen {next : α → Console σ → Outcome σ β} (ho : o.Remote)
    (hnext : ∀ a c, (next a c).Remote) : (o.andThen next).Remote := by
  intro e he
  cases hresult : o.result with
  | error e' =>
    rw [andThen_of_error hresult] at he
    obtain rfl : e' = e := Except.error.inj he
    exact ho e' hresult
  | ok a =>
    rw [andThen_of_ok hresult] at he
    exact hnext a o.console e he

/-- The contract holds of two parts together if the first one keeps it and, in case of success,
changes nothing, and the second one keeps it and does not fail before it has sent anything. -/
theorem Honest.andThen {next : α → Console σ → Outcome σ β} (ho : o.Honest c)
    (hunchanged : ∀ a, o.result = .ok a → o.Unchanged c)
    (hnext : ∀ a c, (next a c).Honest c) (hremote : ∀ a c, (next a c).Remote) :
    (o.andThen next).Honest c := by
  cases hresult : o.result with
  | error e =>
    have hfails := ho.fails e hresult
    rw [andThen_of_error hresult]
    refine ⟨fun b hb => (nomatch hb), fun e' he' => ?_⟩
    obtain rfl : e = e' := Except.error.inj he'
    exact ⟨hfails.reported, hfails.user_eq, hfails.session_eq, hfails.vacated, hfails.sent_eq⟩
  | ok a =>
    have hfirst := hunchanged a hresult
    have hsecond := hnext a o.console
    rw [andThen_of_ok hresult]
    refine ⟨fun b hb ev hev => ?_, fun e he => ?_⟩
    · rcases List.mem_append.1 hev with hev | hev
      · exact (hfirst.events ev hev).1
      · exact hsecond.succeeds b hb ev hev
    · have hfails := hsecond.fails e he
      obtain ⟨before, hevents, hbefore⟩ := hfails.reported
      refine ⟨⟨o.events ++ before, ?_, fun ev hev => ?_⟩, hfails.user_eq.trans hfirst.user_eq,
        fun h => (hfails.session_eq h).trans hfirst.session_eq, hfails.vacated, fun hlocal => ?_⟩
      · rw [hevents, List.append_assoc]
      · rcases List.mem_append.1 hev with hev | hev
        · exact hfirst.events ev hev
        · exact hbefore ev hev
      · rw [hremote a o.console e he] at hlocal
        cases hlocal

omit [TokenSlot σ] in
theorem Remote.map {o : Outcome σ α} (f : α → β) (ho : o.Remote) : (o.map f).Remote := by
  intro e he
  refine ho e ?_
  cases hresult : o.result with
  | error e' => simpa [hresult, Except.map] using he
  | ok a => simp [hresult, Except.map] at he

theorem Honest.map (f : α → β) (ho : o.Honest c) : (o.map f).Honest c := by
  cases hresult : o.result with
  | error e =>
    have hfails := ho.fails e hresult
    refine ⟨fun b hb => ?_, fun e' he' => ?_⟩
    · simp [hresult, Except.map] at hb
    · obtain rfl : e = e' := by simpa [hresult, Except.map] using he'
      exact ⟨hfails.reported, hfails.user_eq, hfails.session_eq, hfails.vacated, hfails.sent_eq⟩
  | ok a =>
    refine honest_of_ok (a := f a) ?_ (ho.succeeds a hresult)
    rw [result_map, hresult]
    rfl

end Outcome

/-! ## Calls -/

namespace Console

variable {σ : Type} [TokenSlot σ]

theorem remote_perform (c : Console σ) (call : Call) : (c.perform call).Remote := by
  intro e he
  rcases c.perform_cases call with ⟨e', h, hhinders⟩ | ⟨url, d, wire, -, -, h⟩
  · rw [h] at he
    obtain rfl : e' = e := Except.error.inj he
    exact hhinders.isLocal_eq
  · rw [h, result_report] at he
    rcases Exchange.answer_error he with ⟨rfl, -⟩ | ⟨hreply, -⟩
    · rfl
    · exact e.isLocal_of_isOfReply hreply

/-- A call that succeeds shows nothing and changes neither user nor session. -/
theorem unchanged_perform (c : Console σ) {call : Call} {a : call.Answer}
    (ha : (c.perform call).result = .ok a) : (c.perform call).Unchanged c := by
  rcases c.perform_cases call with ⟨e, h, -⟩ | ⟨url, d, wire, -, -, h⟩
  · rw [h] at ha
    cases ha
  · rw [h, result_report] at ha
    rw [h, ha]
    have hexpires := Exchange.expires_of_answer_ok ha
    exact ⟨rfl, Client.session_after_of_not_expires hexpires wire, fun ev hev => nomatch hev⟩

theorem remote_listUsers (c : Console σ) : c.listUsers.Remote :=
  (c.remote_perform .list).andThen fun users _ => Outcome.remote_of_ok (a := users) rfl

theorem remote_redraw (c : Console σ) (done : Event) : (c.redraw done).Remote :=
  (Outcome.remote_of_ok rfl).andThen fun _ c => c.remote_listUsers.map _

/-- A check that needs no call reports its failure and leaves everything as it was. -/
theorem honest_report_local {α : Type} (c : Console σ) {e : Error} (he : e.isLocal = true) :
    (c.report (.error e : Except Error α)).Honest c := by
  refine ⟨fun a ha => (nomatch ha), fun e' he' => ?_⟩
  obtain rfl : e = e' := Except.error.inj he'
  refine ⟨⟨[], rfl, fun ev hev => nomatch hev⟩, rfl, fun _ => rfl, fun hexpired => ?_, fun _ => rfl⟩
  rw [e.isSessionExpired_of_isLocal he] at hexpired
  cases hexpired

/-- An action on a record that has to have an id. -/
theorem honest_requireId_andThen {β : Type} (c : Console σ) (u : UserRecord)
    {next : UserId → Console σ → Outcome σ β} (hnext : ∀ id, (next id c).Honest c) :
    ((c.report u.requireId).andThen next).Honest c := by
  rw [UserRecord.requireId]
  cases u.id with
  | some id => exact hnext id
  | none => exact c.honest_report_local rfl

variable [LawfulTokenSlot σ]

theorem honest_perform (c : Console σ) (call : Call) : (c.perform call).Honest c := by
  refine ⟨fun a ha ev hev => ((c.unchanged_perform ha).events ev hev).1, fun e he => ?_⟩
  rcases c.perform_cases call with ⟨e', h, hhinders⟩ | ⟨url, d, wire, -, -, h⟩
  · -- nothing was sent, so nothing has changed at all
    rw [h] at he ⊢
    obtain rfl : e' = e := Except.error.inj he
    refine ⟨⟨[], rfl, fun ev hev => nomatch hev⟩, rfl, fun _ => rfl, fun hexpired => ?_,
      fun _ => rfl⟩
    rw [hhinders.isSessionExpired_eq] at hexpired
    cases hexpired
  · rw [h, result_report] at he
    rw [h, he]
    rcases Exchange.answer_error he with ⟨rfl, hexpires⟩ | ⟨hreply, hexpires⟩
    · have hcleared := Client.session_after_of_expires (c := c.client) hexpires wire
      refine ⟨⟨[], rfl, fun ev hev => nomatch hev⟩, rfl, fun hkept => (nomatch hkept), fun _ => ?_,
        fun hlocal => (nomatch hlocal)⟩
      exact ⟨congrArg Session.token hcleared, (congrArg (TokenSlot.load ·.slot) hcleared).trans
        (LawfulTokenSlot.load_remove _)⟩
    · have hkept := Client.session_after_of_not_expires (c := c.client) hexpires wire
      refine ⟨⟨[], rfl, fun ev hev => nomatch hev⟩, rfl, fun _ => hkept, fun hexpired => ?_,
        fun hlocal => ?_⟩
      · rw [e.isSessionExpired_of_isOfReply hreply] at hexpired
        cases hexpired
      · rw [e.isLocal_of_isOfReply hreply] at hlocal
        cases hlocal

/-- A call with something behind it that keeps the contract and does not fail locally. -/
theorem honest_perform_andThen {β : Type} (c : Console σ) (call : Call)
    {next : call.Answer → Console σ → Outcome σ β} (hnext : ∀ a c, (next a c).Honest c)
    (hremote : ∀ a c, (next a c).Remote) : ((c.perform call).andThen next).Honest c :=
  (c.honest_perform call).andThen (fun _ ha => c.unchanged_perform ha) hnext hremote

/-- A call with something behind it that cannot fail. -/
theorem honest_perform_finish {β : Type} (c : Console σ) (call : Call)
    {next : call.Answer → Console σ → Outcome σ β} (hok : ∀ a c, ∃ b, (next a c).result = .ok b)
    (hevents : ∀ a c, ∀ ev ∈ (next a c).events, ev.isReport = false) :
    ((c.perform call).andThen next).Honest c := by
  refine c.honest_perform_andThen call (fun a c => ?_) (fun a c => ?_)
  · obtain ⟨b, hb⟩ := hok a c
    exact Outcome.honest_of_ok hb (hevents a c)
  · obtain ⟨b, hb⟩ := hok a c
    exact Outcome.remote_of_ok hb

/-! ## Actions -/

section

variable (c : Console σ)

theorem honest_refreshUser : c.refreshUser.Honest c :=
  c.honest_perform_finish .current (fun _ _ => ⟨(), rfl⟩) fun (u : UserRecord) c => by
    simp [Event.isReport]

theorem honest_login (credentials : Credentials) (keep : Bool) :
    (c.login credentials keep).Honest c :=
  c.honest_perform_finish (.authenticate credentials) (fun _ _ => ⟨(), rfl⟩) fun answer c => by
    rw [Outcome.andThen_of_ok (a := ()) rfl]
    cases SignIn.mustChangePassword answer <;> simp [Event.isReport]

theorem honest_changePassword (old new again : String) :
    (c.changePassword old new again).Honest c := by
  rw [changePassword]
  split
  · exact c.honest_perform_finish _ (fun _ _ => ⟨(), rfl⟩) fun _ _ => by simp [Event.isReport]
  · exact c.honest_report_local rfl

theorem honest_updateProfile (displayName : String) : (c.updateProfile displayName).Honest c :=
  c.honest_perform_finish _ (fun _ _ => ⟨(), rfl⟩) fun (u : UserRecord) c => by
    rw [Outcome.andThen_of_ok (a := ()) rfl]
    simp [Event.isReport]

theorem honest_listUsers : c.listUsers.Honest c :=
  c.honest_perform_finish .list (fun users _ => ⟨users, rfl⟩) fun (users : List UserRecord) c => by
    simp [Event.isReport]

theorem honest_showUser (id : UserId) : (c.showUser id).Honest c :=
  c.honest_perform_finish (.get id) (fun user _ => ⟨user, rfl⟩) fun (user : UserRecord) c => by
    simp [Event.isReport]

theorem honest_redraw {done : Event} (hdone : done.isReport = false ∧ done.isApply = false) :
    (c.redraw done).Honest c := by
  have htell : ∀ ev ∈ (c.tell [done]).events, ev.isReport = false ∧ ev.isApply = false := by
    simpa using hdone
  refine (Outcome.honest_of_ok rfl fun ev hev => (htell ev hev).1).andThen
    (fun _ _ => ⟨rfl, rfl, htell⟩) (fun _ c => c.honest_listUsers.map _)
    fun _ c => c.remote_listUsers.map _

theorem honest_addUser (user : NewUser) : (c.addUser user).Honest c :=
  c.honest_perform_andThen (.create user) (fun _ c => c.honest_redraw ⟨rfl, rfl⟩)
    fun _ c => c.remote_redraw _

theorem honest_resetUserPassword (user : UserRecord) : (c.resetUserPassword user).Honest c :=
  c.honest_requireId_andThen user fun id =>
    c.honest_perform_finish (.resetPassword id) (fun _ _ => ⟨(), rfl⟩) fun _ _ => by
      simp [Event.isReport]

theorem honest_setUserEnabled (user : UserRecord) (enabled : Bool) :
    (c.setUserEnabled user enabled).Honest c :=
  c.honest_requireId_andThen user fun id =>
    c.honest_perform_andThen (.setStatus ⟨id, !enabled⟩) (fun _ c => c.honest_redraw ⟨rfl, rfl⟩)
      fun _ c => c.remote_redraw _

theorem honest_deleteUser (user : UserRecord) : (c.deleteUser user).Honest c :=
  c.honest_requireId_andThen user fun id =>
    c.honest_perform_andThen (.delete id) (fun _ c => c.honest_redraw ⟨rfl, rfl⟩)
      fun _ c => c.remote_redraw _

end

end Console

theorem Action.honest {σ : Type} [TokenSlot σ] [LawfulTokenSlot σ] (action : Action)
    (c : Console σ) : (action.run c).Honest c := by
  cases action with
  | refreshUser => exact c.honest_refreshUser
  | login credentials keep => exact c.honest_login credentials keep
  | logout =>
    exact Outcome.honest_of_ok (a := ()) rfl (by simp [run, Console.logout, Event.isReport])
  | changePassword old new again => exact c.honest_changePassword old new again
  | updateProfile displayName => exact c.honest_updateProfile displayName
  | listUsers => exact c.honest_listUsers
  | showUser id => exact c.honest_showUser id
  | addUser user => exact c.honest_addUser user
  | resetUserPassword user => exact c.honest_resetUserPassword user
  | setUserEnabled user enabled => exact c.honest_setUserEnabled user enabled
  | deleteUser user => exact c.honest_deleteUser user

/-- An action that fails reports its error exactly once and after everything else, shows no user and
leaves the current user alone.  It leaves the token in memory and the slot alone, too, unless the
error says that the session is over; then there is no token in either.  If the error is local, then
no request was sent.  An action that succeeds reports no error. -/
theorem action_error_contract {σ : Type} [TokenSlot σ] [LawfulTokenSlot σ] (action : Action)
    (c : Console σ) :
    let o := action.run c
    (∀ e, o.result = .error e →
      (∃ before, o.events = before ++ [.reportError e] ∧
        ∀ ev ∈ before, ev.isReport = false ∧ ev.isApply = false) ∧
      o.console.user = c.user ∧
      (e.isSessionExpired = false → o.console.client.session = c.client.session) ∧
      (e.isSessionExpired = true → o.console.client.session.token = none ∧
        TokenSlot.load o.console.client.session.slot = none) ∧
      (e.isLocal = true → o.console.client.wire.sent = c.client.wire.sent)) ∧
    ∀ a, o.result = .ok a → ∀ ev ∈ o.events, ev.isReport = false := by
  intro o
  have hhonest : o.Honest c := action.honest c
  refine ⟨fun e he => ?_, hhonest.succeeds⟩
  have hfails := hhonest.fails e he
  exact ⟨hfails.reported, hfails.user_eq, hfails.session_eq, hfails.vacated, hfails.sent_eq⟩

/-- Disabling a user works, but the list of users behind it meets the end of the session. -/
theorem action_error_contract_expired :
    let c : Console ConfigSlot :=
      { client :=
          { endpoint := .default
            session := ⟨some "t", ⟨.saved ⟨{}, some ⟨"t", some Endpoint.defaultBaseUrl⟩⟩,
              Endpoint.defaultBaseUrl⟩⟩
            wire := { peer := .scripted [.answered ⟨204, none⟩, .answered ⟨401, none⟩] } } }
    let action := Action.setUserEnabled { id := some { value := 7 }, username := "bob" } false
    ∃ before, (action.run c).result = .error .sessionExpired ∧
      (action.run c).events = before ++ [.reportError .sessionExpired] ∧
      (∀ ev ∈ before, ev.isReport = false ∧ ev.isApply = false) ∧
      (action.run c).console.user = c.user ∧
      (action.run c).console.client.session.token = none ∧
      TokenSlot.load (action.run c).console.client.session.slot = none := by
  intro c action
  have hresult : (action.run c).result = .error .sessionExpired :=
    eq_sessionExpired_of_isExpiry (by decide +kernel)
  obtain ⟨⟨before, hevents, hbefore⟩, huser, -, hvacated, -⟩ :=
    (action_error_contract action c).1 _ hresult
  exact ⟨before, hresult, hevents, hbefore, huser, hvacated rfl⟩

end AccountAdmin
