import AccountAdmin.Console
import AccountAdmin.Proofs.Service.Course

/-!
# The course of an action

Every action of the console is put together from calls, reports and events by `Outcome.andThen`.  So
what an action does to the session need not be looked for in each action anew: `Outcome.Serves` says
that an outcome comes about by a course for some purpose, and that its result says so if the session
is over, and it is kept by `andThen` as long as neither part signs in or out.

`Action.purpose` says what each action is for, and `Action.serves` that it is used for nothing else.
-/

namespace AccountAdmin

/-! ## Outcomes -/

namespace Outcome

variable {σ α β : Type}

theorem andThen_of_error {o : Outcome σ α} {e : Error} (he : o.result = .error e)
    (next : α → Console σ → Outcome σ β) : o.andThen next = ⟨.error e, o.events, o.console⟩ := by
  rw [andThen, he]

theorem andThen_of_ok {o : Outcome σ α} {a : α} (ha : o.result = .ok a)
    (next : α → Console σ → Outcome σ β) :
    o.andThen next = ⟨(next a o.console).result, o.events ++ (next a o.console).events,
      (next a o.console).console⟩ := by
  rw [andThen, ha]

theorem result_andThen_of_error {o : Outcome σ α} {e : Error} {next : α → Console σ → Outcome σ β}
    (he : o.result = .error e) : (o.andThen next).result = .error e := by
  rw [andThen_of_error he]

theorem result_andThen_of_ok {o : Outcome σ α} {a : α} {next : α → Console σ → Outcome σ β}
    (ha : o.result = .ok a) : (o.andThen next).result = (next a o.console).result := by
  rw [andThen_of_ok ha]

@[simp] theorem result_map (f : α → β) (o : Outcome σ α) : (o.map f).result = o.result.map f := rfl

@[simp] theorem events_map (f : α → β) (o : Outcome σ α) : (o.map f).events = o.events := rfl

variable [TokenSlot σ] {allowed : Method → String → Prop} {c : Client σ}

/-- An outcome comes about by a course, and its result says so if the session is over. -/
structure Follows (allowed : Method → String → Prop) (c : Client σ) (hs : List Happening)
    (o : Outcome σ α) : Prop where
  course : Client.Course allowed c hs o.console.client
  expiry : isExpiry o.result = (exchangesOf hs).any Exchange.expires

/-- An outcome comes about while the client is used for some purpose. -/
def Serves (allowed : Method → String → Prop) (c : Client σ) (p : Purpose)
    (o : Outcome σ α) : Prop :=
  ∃ xs, Follows allowed c (p.course xs) o

theorem Follows.andThen_of_error {hs : List Happening} {o : Outcome σ α} {e : Error}
    (ho : o.Follows allowed c hs) (he : o.result = .error e)
    (next : α → Console σ → Outcome σ β) : (o.andThen next).Follows allowed c hs := by
  have hexpiry := ho.expiry
  rw [he] at hexpiry
  rw [Outcome.andThen_of_error he]
  exact ⟨ho.course, hexpiry⟩

theorem Follows.andThen_of_ok {hs ks : List Happening} {o : Outcome σ α} {a : α}
    {next : α → Console σ → Outcome σ β} (ho : o.Follows allowed c hs) (ha : o.result = .ok a)
    (hnext : (next a o.console).Follows allowed o.console.client ks) :
    (o.andThen next).Follows allowed c (hs ++ ks) := by
  rw [Outcome.andThen_of_ok ha]
  refine ⟨ho.course.trans hnext.course, ?_⟩
  rw [exchangesOf_append, List.any_append, ← ho.expiry, ← hnext.expiry, ha]
  rfl

/-- Neither part of an outcome signs in or out, and so neither does the whole. -/
theorem Serves.andThen {o : Outcome σ α} {next : α → Console σ → Outcome σ β}
    (ho : o.Serves allowed c .other)
    (hnext : ∀ a console, (next a console).Serves allowed console.client .other) :
    (o.andThen next).Serves allowed c .other := by
  obtain ⟨xs, hxs⟩ := ho
  cases hresult : o.result with
  | error e => exact ⟨xs, hxs.andThen_of_error hresult next⟩
  | ok a =>
    obtain ⟨ys, hys⟩ := hnext a o.console
    refine ⟨xs ++ ys, ?_⟩
    rw [Purpose.course, List.map_append]
    exact hxs.andThen_of_ok hresult hys

theorem Serves.map {o : Outcome σ α} {p : Purpose} (f : α → β) (ho : o.Serves allowed c p) :
    (o.map f).Serves allowed c p := by
  obtain ⟨xs, hxs⟩ := ho
  refine ⟨xs, hxs.course, ?_⟩
  rw [← hxs.expiry, Outcome.map]
  cases o.result <;> rfl

/-- The exchanges of an outcome can be read off the wire. -/
theorem Serves.follows {o : Outcome σ α} {p : Purpose} (ho : o.Serves allowed c p) :
    o.Follows allowed c (p.course (c.wire.exchangesTo o.console.client.wire)) := by
  obtain ⟨xs, hxs⟩ := ho
  rwa [hxs.course.exchangesTo_eq, Purpose.exchangesOf_course]

end Outcome

/-! ## The parts of an action -/

namespace Console

variable {σ α : Type}

@[simp] theorem events_tell (c : Console σ) (events : List Event) :
    (c.tell events).events = events := rfl

@[simp] theorem events_apply (c : Console σ) (u : UserRecord) :
    (c.apply u).events = [.applyUser (.ofRecord u)] := rfl

theorem result_report (c : Console σ) (r : Except Error α) : (c.report r).result = r := by
  cases r <;> rfl

theorem client_report (c : Console σ) (r : Except Error α) :
    (c.report r).console.client = c.client := by
  cases r <;> rfl

variable [TokenSlot σ] {allowed : Method → String → Prop}

theorem serves_tell (c : Console σ) (events : List Event) :
    (c.tell events).Serves allowed c.client .other :=
  ⟨[], .nil c.client, rfl⟩

theorem serves_apply (c : Console σ) (u : UserRecord) :
    (c.apply u).Serves allowed c.client .other :=
  ⟨[], .nil c.client, rfl⟩

theorem serves_report (c : Console σ) {r : Except Error α} (hr : isExpiry r = false) :
    (c.report r).Serves allowed c.client .other := by
  cases r with
  | ok a => exact ⟨[], .nil c.client, rfl⟩
  | error e => exact ⟨[], .nil c.client, hr⟩

/-- A call fails without leaving a trace, or is one exchange; either way a failure is reported. -/
theorem perform_cases (c : Console σ) (call : Call) :
    (∃ e, c.perform call = ⟨.error e, [.reportError e], c⟩ ∧ c.client.Hinders call.path e) ∨
      ∃ url d wire, c.client.endpoint.resolve call.path = .ok url ∧
        c.client.wire.Takes (c.client.prepare call.method url call.body) d wire ∧
        c.perform call =
          { c with client :=
              c.client.after ⟨c.client.prepare call.method url call.body, d⟩ wire }.report
            (Exchange.answer ⟨c.client.prepare call.method url call.body, d⟩ call) := by
  rcases c.client.perform_cases call with ⟨e, h, he⟩ | ⟨url, d, wire, hurl, htakes, h⟩
  · refine .inl ⟨e, ?_, he⟩
    rw [perform, h]
    rfl
  · refine .inr ⟨url, d, wire, hurl, htakes, ?_⟩
    rw [perform, h]

theorem perform_follows (c : Console σ) (call : Call) (hallowed : allowed call.method call.path) :
    (∃ e, (c.perform call).result = .error e ∧ (c.perform call).Follows allowed c.client []) ∨
      ∃ x, (c.perform call).result = x.answer call ∧
        (c.perform call).Follows allowed c.client [.exchanged x] := by
  rcases c.perform_cases call with ⟨e, h, he⟩ | ⟨url, d, wire, hurl, htakes, h⟩
  · rw [h]
    exact .inl ⟨e, rfl, .nil c.client, he.isSessionExpired_eq⟩
  · refine .inr ⟨⟨c.client.prepare call.method url call.body, d⟩, ?_, ?_, ?_⟩
    · rw [h, result_report]
    · rw [h, client_report]
      exact (Client.Step.exchanged hallowed hurl htakes).course
    · rw [h, result_report, Exchange.isExpiry_answer]
      exact (Bool.or_false _).symm

theorem serves_perform (c : Console σ) {call : Call} (hallowed : allowed call.method call.path) :
    (c.perform call).Serves allowed c.client .other := by
  rcases c.perform_follows call hallowed with ⟨e, _, h⟩ | ⟨x, _, h⟩
  · exact ⟨[], h⟩
  · exact ⟨[x], h⟩

theorem isExpiry_requireId (u : UserRecord) : isExpiry u.requireId = false := by
  rw [UserRecord.requireId]
  cases u.id <;> rfl

/-! ## Actions that neither sign in nor out -/

section
variable (hall : ∀ call : Call, allowed call.method call.path) (c : Console σ)
include hall

theorem serves_refreshUser : c.refreshUser.Serves allowed c.client .other :=
  (c.serves_perform (hall .current)).andThen fun u c => c.serves_apply u

theorem serves_changePassword (old new again : String) :
    (c.changePassword old new again).Serves allowed c.client .other := by
  rw [changePassword]
  split
  · exact (c.serves_perform (hall _)).andThen fun _ c => c.serves_tell _
  · exact c.serves_report rfl

theorem serves_updateProfile (displayName : String) :
    (c.updateProfile displayName).Serves allowed c.client .other :=
  (c.serves_perform (hall (.updateDetails ⟨c.user.id, displayName⟩))).andThen fun u c =>
    (c.serves_apply u).andThen fun _ c => c.serves_tell _

theorem serves_listUsers : c.listUsers.Serves allowed c.client .other :=
  (c.serves_perform (hall .list)).andThen fun _ c => (c.serves_tell _).map _

theorem serves_showUser (id : UserId) : (c.showUser id).Serves allowed c.client .other :=
  (c.serves_perform (hall (.get id))).andThen fun _ c => (c.serves_tell _).map _

theorem serves_redraw (done : Event) : (c.redraw done).Serves allowed c.client .other :=
  (c.serves_tell [done]).andThen fun _ c => (c.serves_listUsers hall).map _

theorem serves_addUser (user : NewUser) : (c.addUser user).Serves allowed c.client .other :=
  (c.serves_perform (hall (.create user))).andThen fun _ c => c.serves_redraw hall _

theorem serves_resetUserPassword (user : UserRecord) :
    (c.resetUserPassword user).Serves allowed c.client .other :=
  (c.serves_report (isExpiry_requireId user)).andThen fun id c =>
    (c.serves_perform (hall (.resetPassword id))).andThen fun _ c => c.serves_tell _

theorem serves_setUserEnabled (user : UserRecord) (enabled : Bool) :
    (c.setUserEnabled user enabled).Serves allowed c.client .other :=
  (c.serves_report (isExpiry_requireId user)).andThen fun id c =>
    (c.serves_perform (hall (.setStatus ⟨id, !enabled⟩))).andThen fun _ c => c.serves_redraw hall _

theorem serves_deleteUser (user : UserRecord) :
    (c.deleteUser user).Serves allowed c.client .other :=
  (c.serves_report (isExpiry_requireId user)).andThen fun id c =>
    (c.serves_perform (hall (.delete id))).andThen fun _ c => c.serves_redraw hall _

end

/-! ## Signing in and out -/

theorem signIn?_eq (x : Exchange) (credentials : Credentials) :
    x.signIn? = (x.answer (.authenticate credentials)).toOption := by
  rw [Exchange.signIn?, Exchange.answer]
  cases x.payload <;> rfl

theorem mem_course_signIn {keep : Bool} {token : String} {xs : List Exchange} :
    .signedIn token keep ∈ (Purpose.signIn keep).course xs ↔
      ∃ x ∈ xs, ∃ answer, x.signIn? = some answer ∧ answer.token = token := by
  rw [Purpose.course, List.mem_flatMap]
  refine exists_congr fun x => and_congr_right fun _ => ?_
  cases x.signIn? <;> simp [eq_comm]

/-- Signing in is at most one exchange, and it succeeds exactly if the reply brings a token. -/
theorem login_follows (c : Console σ) (credentials : Credentials) (keep : Bool)
    (hallowed : allowed .post "/authenticate") :
    ∃ xs, (c.login credentials keep).Follows allowed c.client ((Purpose.signIn keep).course xs) ∧
      ((c.login credentials keep).result = .ok () ↔
        ∃ x ∈ xs, ∃ answer, x.signIn? = some answer) := by
  rcases c.perform_follows (.authenticate credentials) hallowed with
    ⟨e, he, h⟩ | ⟨x, hx, h⟩
  · have hresult : (c.login credentials keep).result = .error e :=
      Outcome.result_andThen_of_error he
    refine ⟨[], h.andThen_of_error he _, ?_⟩
    rw [hresult]
    simp
  · refine ⟨[x], ?_⟩
    have hsign := signIn?_eq x credentials
    rw [Purpose.course, List.flatMap_cons, List.flatMap_nil, List.append_nil]
    cases hanswer : x.answer (.authenticate credentials) with
    | error e =>
      rw [hanswer] at hx hsign
      have hresult : (c.login credentials keep).result = .error e :=
        Outcome.result_andThen_of_error hx
      refine ⟨by rw [hsign]; exact h.andThen_of_error hx _, ?_⟩
      rw [hresult]
      simp [hsign, Except.toOption]
    | ok answer =>
      rw [hanswer] at hx hsign
      have hresult : (c.login credentials keep).result = .ok () :=
        Outcome.result_andThen_of_ok hx
      refine ⟨?_, ?_⟩
      · rw [hsign]
        exact h.andThen_of_ok hx ⟨(Client.Step.signedIn (SignIn.token answer) keep).course, rfl⟩
      · rw [hresult]
        exact ⟨fun _ => ⟨x, List.mem_singleton_self x, answer, hsign⟩, fun _ => rfl⟩

theorem serves_login (c : Console σ) (credentials : Credentials) (keep : Bool)
    (hallowed : allowed .post "/authenticate") :
    (c.login credentials keep).Serves allowed c.client (.signIn keep) := by
  obtain ⟨xs, h, _⟩ := c.login_follows credentials keep hallowed
  exact ⟨xs, h⟩

/-- Signing in succeeds exactly if a token is set. -/
theorem login_succeeds_iff (c : Console σ) (credentials : Credentials) (keep : Bool) :
    (c.login credentials keep).result = .ok () ↔
      ∃ token, .signedIn token keep ∈ (Purpose.signIn keep).course
        (c.client.wire.exchangesTo (c.login credentials keep).console.client.wire) := by
  have hany : anyPath .post "/authenticate" := trivial
  obtain ⟨xs, h, hresult⟩ := c.login_follows credentials keep hany
  rw [hresult, h.course.exchangesTo_eq, Purpose.exchangesOf_course]
  simp only [mem_course_signIn]
  refine ⟨?_, ?_⟩
  · rintro ⟨x, hx, answer, hanswer⟩
    exact ⟨answer.token, x, hx, answer, hanswer, rfl⟩
  · rintro ⟨_, x, hx, answer, hanswer, _⟩
    exact ⟨x, hx, answer, hanswer⟩

theorem serves_logout (c : Console σ) : c.logout.Serves allowed c.client .signOut :=
  ⟨[], Client.Step.signedOut.course, rfl⟩

end Console

/-! ## All actions -/

namespace Action

/-- What an action is for, as far as the session is concerned. -/
def purpose : Action → Purpose
  | login _ keep => .signIn keep
  | logout => .signOut
  | _ => .other

/-- An action does nothing to the session but what it is for. -/
theorem serves {σ : Type} [TokenSlot σ] {allowed : Method → String → Prop}
    (hall : ∀ call : Call, allowed call.method call.path) (action : Action) (c : Console σ) :
    (action.run c).Serves allowed c.client action.purpose := by
  cases action with
  | refreshUser => exact c.serves_refreshUser hall
  | login credentials keep =>
    exact c.serves_login credentials keep (hall (.authenticate credentials))
  | logout => exact c.serves_logout
  | changePassword old new again => exact c.serves_changePassword hall old new again
  | updateProfile displayName => exact c.serves_updateProfile hall displayName
  | listUsers => exact c.serves_listUsers hall
  | showUser id => exact c.serves_showUser hall id
  | addUser user => exact c.serves_addUser hall user
  | resetUserPassword user => exact c.serves_resetUserPassword hall user
  | setUserEnabled user enabled => exact c.serves_setUserEnabled hall user enabled
  | deleteUser user => exact c.serves_deleteUser hall user

end Action

end AccountAdmin
