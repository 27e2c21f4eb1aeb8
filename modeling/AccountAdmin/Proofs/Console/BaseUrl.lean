import AccountAdmin.Proofs.Account.UserIdText
import AccountAdmin.Proofs.Console.SessionLifecycle
import AccountAdmin.Proofs.Url.BehindBase

/-!
# A bad base URL is found when the client is built

A client is built for an endpoint if a single slash can be put behind the base URL of the endpoint.
The calls put other things behind it, and every request reads its URL anew.  The one check is
enough, since every path of the service is harmless behind a base: the words at the fronts of the
paths are hosts, wherever they end up (`Call.hasHarmlessPath`), and no path holds characters that
count differently at the end of a text or in the middle.

The rest is bookkeeping.  The endpoint of a client never changes, and the other causes of a failure
are not about URLs; `Outcome.Addressed` says both and is kept by `andThen`, so every action has it.

* `Endpoint.resolve_call`: an endpoint that resolves the single slash resolves the path of every
  call.
* `url_checked_at_build`: neither calls nor actions fail because of a URL, in any run.
-/

namespace AccountAdmin

/-! ## The paths of the service -/

namespace Url

theorem harmless_authenticate : Harmless "authenticate".toList where
  plain := by decide
  slashless := rfl
  host _ := rfl
  fileHost := by decide +kernel

theorem harmless_user : Harmless "user".toList where
  plain := by decide
  slashless := rfl
  host _ := rfl
  fileHost := by decide +kernel

theorem harmless_users : Harmless ("user".toList ++ ['/']) where
  plain := by decide
  slashless := rfl
  host _ := rfl
  fileHost := by decide +kernel

end Url

/-- There are no blanks in the text of an id. -/
theorem UserId.isPlain_text (id : UserId) : Url.isPlain id.text.toList = true := by
  rw [Url.isPlain_iff]
  intro c hc
  rw [Bool.eq_false_iff]
  intro houter
  refine id.notMem_text (c := c) ?_ ?_ hc
  · rintro rfl
    exact absurd houter (by decide)
  · rw [Bool.eq_false_iff]
    intro hdigit
    have hlower := (Text.toNat_of_isDigit hdigit).1
    rw [Url.isOuter, decide_eq_true_iff] at houter
    omega

namespace Call

/-- A path that is a slash and something harmless. -/
def HasHarmlessPath (call : Call) : Prop := ∃ w, call.path.toList = '/' :: w ∧ Url.Harmless w

/-- What is about users stands behind a word of its own. -/
theorem hasHarmlessPath_of_users {call : Call} {s : String} (hpath : call.path = "/user/" ++ s)
    (hs : Url.isPlain s.toList = true) : call.HasHarmlessPath := by
  refine ⟨"user".toList ++ '/' :: s.toList, ?_, Url.harmless_users.append hs⟩
  rw [hpath, String.toList_append]
  rfl

/-- The path of every call is a slash and something harmless. -/
theorem hasHarmlessPath (call : Call) : call.HasHarmlessPath := by
  cases call with
  | authenticate =>
    refine ⟨"authenticate".toList, ?_, Url.harmless_authenticate⟩
    rw [path]
    rfl
  | current => exact ⟨"user".toList, rfl, Url.harmless_user⟩
  | get id | delete id => exact hasHarmlessPath_of_users rfl id.isPlain_text
  | list => exact hasHarmlessPath_of_users (s := "list") rfl (by decide)
  | create => exact hasHarmlessPath_of_users (s := "create") rfl (by decide)
  | changePassword => exact hasHarmlessPath_of_users (s := "change-password") rfl (by decide)
  | updateDetails => exact hasHarmlessPath_of_users (s := "details") rfl (by decide)
  | setStatus => exact hasHarmlessPath_of_users (s := "status") rfl (by decide)
  | resetPassword id =>
    refine hasHarmlessPath_of_users (s := id.text ++ "/reset-password") ?_ ?_
    · rw [path, String.append_assoc]
    · rw [String.toList_append, Url.isPlain_append, id.isPlain_text]
      rfl

end Call

namespace Endpoint

/-- The base URL can be read with a single slash behind it. -/
def IsSound (e : Endpoint) : Prop := (e.resolve "/").isOk = true

theorem joined_of_slash (baseUrl : String) {path : String} {w : List Char}
    (hpath : path.toList = '/' :: w) : joined baseUrl path = trimSlashes baseUrl ++ '/' :: w := by
  rw [joined, hpath]
  rfl

/-- A sound endpoint has a URL for every call. -/
theorem resolve_call {e : Endpoint} (h : e.IsSound) (call : Call) :
    (e.resolve call.path).isOk = true := by
  obtain ⟨w, hpath, hw⟩ := call.hasHarmlessPath
  rw [IsSound, resolve, joined_of_slash (w := []) e.baseUrl rfl] at h
  rw [resolve, joined_of_slash e.baseUrl hpath]
  exact Url.isOk_parseChars_append hw h

/-- The converse fails: behind `http:` the slash is no URL, but the path of a call is one, with the
host `user`. -/
example :
    let e : Endpoint := { baseUrl := "http:" }
    (e.resolve "/").isOk = false ∧ (e.resolve "/user").isOk = true := by decide +kernel

end Endpoint

/-- A client is built exactly for a sound endpoint. -/
theorem Client.build_eq_ok_iff_isSound {σ : Type} {endpoint : Endpoint} {session : Session σ}
    {peer : Peer} {client : Client σ} : Client.build endpoint session peer = .ok client ↔
      endpoint.IsSound ∧ client = ⟨endpoint, session, { peer }⟩ := by
  rw [build_eq_ok_iff, Endpoint.IsSound]
  refine and_congr_left fun _ => ?_
  cases endpoint.resolve "/" with
  | error fault =>
    constructor
    · rintro ⟨root, h⟩
      cases h
    · intro h
      cases h
  | ok root => exact ⟨fun _ => rfl, fun _ => ⟨root, rfl⟩⟩

/-! ## Outcomes -/

section

variable {σ α β : Type}

/-- The endpoint is sound, and if there is a failure, then it is not about a URL. -/
structure Outcome.Addressed (o : Outcome σ α) : Prop where
  endpoint : o.console.client.endpoint.IsSound
  not_url : ∀ fault, o.result ≠ .error (.url fault)

theorem Outcome.addressed_of_ok {o : Outcome σ α} (h : o.console.client.endpoint.IsSound) {a : α}
    (ha : o.result = .ok a) : o.Addressed := by
  refine ⟨h, fun fault hfault => ?_⟩
  rw [ha] at hfault
  cases hfault

theorem Outcome.Addressed.andThen {o : Outcome σ α} {next : α → Console σ → Outcome σ β}
    (ho : o.Addressed) (hnext : ∀ a c, c.client.endpoint.IsSound → (next a c).Addressed) :
    (o.andThen next).Addressed := by
  cases hresult : o.result with
  | error e =>
    rw [andThen_of_error hresult]
    refine ⟨ho.endpoint, fun fault hfault => ho.not_url fault ?_⟩
    rw [hresult]
    exact congrArg Except.error (Except.error.inj hfault)
  | ok a =>
    have hlast := hnext a o.console ho.endpoint
    rw [andThen_of_ok hresult]
    exact ⟨hlast.endpoint, hlast.not_url⟩

theorem Outcome.Addressed.map {o : Outcome σ α} (f : α → β) (ho : o.Addressed) :
    (o.map f).Addressed := by
  refine ⟨ho.endpoint, fun fault hfault => ho.not_url fault ?_⟩
  rw [result_map] at hfault
  cases hresult : o.result with
  | error e =>
    rw [hresult] at hfault
    exact congrArg Except.error (Except.error.inj hfault)
  | ok a =>
    rw [hresult] at hfault
    cases hfault

end

/-! ## Actions -/

namespace Console

variable {σ : Type} {c : Console σ}

theorem addressed_tell (hc : c.client.endpoint.IsSound) (events : List Event) :
    (c.tell events).Addressed := Outcome.addressed_of_ok hc (a := ()) rfl

theorem addressed_apply (hc : c.client.endpoint.IsSound) (u : UserRecord) :
    (c.apply u).Addressed := Outcome.addressed_of_ok hc (a := ()) rfl

/-- A check that needs no call does not fail because of a URL. -/
theorem addressed_report_local {α : Type} (hc : c.client.endpoint.IsSound) {e : Error}
    (he : e.isLocal = true) : (c.report (.error e : Except Error α)).Addressed := by
  refine ⟨hc, fun fault hfault => ?_⟩
  obtain rfl : e = .url fault := Except.error.inj hfault
  cases he

theorem addressed_requireId (hc : c.client.endpoint.IsSound) (u : UserRecord) :
    (c.report u.requireId).Addressed := by
  rw [UserRecord.requireId]
  cases u.id with
  | some id => exact Outcome.addressed_of_ok hc (a := id) rfl
  | none => exact addressed_report_local hc rfl

variable [TokenSlot σ]

/-- Step lemma: a call of a sound endpoint does not fail because of a URL. -/
theorem addressed_perform (hc : c.client.endpoint.IsSound) (call : Call) :
    (c.perform call).Addressed := by
  rcases c.perform_cases call with ⟨e, h, hhinders⟩ | ⟨url, d, wire, -, -, h⟩
  · rw [h]
    refine ⟨hc, fun fault hfault => ?_⟩
    obtain rfl : e = .url fault := Except.error.inj hfault
    cases hhinders with
    | url hurl =>
      have hok := Endpoint.resolve_call hc call
      rw [hurl] at hok
      cases hok
  · rw [h]
    refine ⟨?_, fun fault hfault => ?_⟩
    · rw [client_report]
      exact hc
    · rw [result_report] at hfault
      rcases Exchange.answer_error hfault with ⟨hexpired, -⟩ | ⟨hreply, -⟩
      · cases hexpired
      · cases hreply

section

variable (hc : c.client.endpoint.IsSound)
include hc

theorem addressed_refreshUser : c.refreshUser.Addressed :=
  (addressed_perform hc .current).andThen fun u _ hc => addressed_apply hc u

theorem addressed_login (credentials : Credentials) (keep : Bool) :
    (c.login credentials keep).Addressed :=
  (addressed_perform hc (.authenticate credentials)).andThen fun (answer : SignIn) c hc =>
    (addressed_apply (c := { c with client := c.client.setToken answer.token keep }) hc
      answer.user).andThen fun _ _ hc => addressed_tell hc _

theorem addressed_logout : c.logout.Addressed := Outcome.addressed_of_ok hc (a := ()) rfl

theorem addressed_changePassword (old new again : String) :
    (c.changePassword old new again).Addressed := by
  rw [changePassword]
  split
  · exact (addressed_perform hc _).andThen fun _ _ hc => addressed_tell hc _
  · exact addressed_report_local hc rfl

theorem addressed_updateProfile (displayName : String) : (c.updateProfile displayName).Addressed :=
  (addressed_perform hc _).andThen fun u _ hc =>
    (addressed_apply hc u).andThen fun _ _ hc => addressed_tell hc _

theorem addressed_listUsers : c.listUsers.Addressed :=
  (addressed_perform hc .list).andThen fun _ _ hc => (addressed_tell hc _).map _

theorem addressed_showUser (id : UserId) : (c.showUser id).Addressed :=
  (addressed_perform hc (.get id)).andThen fun _ _ hc => (addressed_tell hc _).map _

theorem addressed_redraw (done : Event) : (c.redraw done).Addressed :=
  (addressed_tell hc [done]).andThen fun _ _ hc => (addressed_listUsers hc).map _

theorem addressed_addUser (user : NewUser) : (c.addUser user).Addressed :=
  (addressed_perform hc (.create user)).andThen fun _ _ hc => addressed_redraw hc _

theorem addressed_resetUserPassword (user : UserRecord) : (c.resetUserPassword user).Addressed :=
  (addressed_requireId hc user).andThen fun id _ hc =>
    (addressed_perform hc (.resetPassword id)).andThen fun _ _ hc => addressed_tell hc _

theorem addressed_setUserEnabled (user : UserRecord) (enabled : Bool) :
    (c.setUserEnabled user enabled).Addressed :=
  (addressed_requireId hc user).andThen fun id _ hc =>
    (addressed_perform hc (.setStatus ⟨id, !enabled⟩)).andThen fun _ _ hc => addressed_redraw hc _

theorem addressed_deleteUser (user : UserRecord) : (c.deleteUser user).Addressed :=
  (addressed_requireId hc user).andThen fun id _ hc =>
    (addressed_perform hc (.delete id)).andThen fun _ _ hc => addressed_redraw hc _

end

end Console

theorem Action.addressed {σ : Type} [TokenSlot σ] (action : Action) {c : Console σ}
    (hc : c.client.endpoint.IsSound) : (action.run c).Addressed := by
  cases action with
  | refreshUser => exact Console.addressed_refreshUser hc
  | login credentials keep => exact Console.addressed_login hc credentials keep
  | logout => exact Console.addressed_logout hc
  | changePassword old new again => exact Console.addressed_changePassword hc old new again
  | updateProfile displayName => exact Console.addressed_updateProfile hc displayName
  | listUsers => exact Console.addressed_listUsers hc
  | showUser id => exact Console.addressed_showUser hc id
  | addUser user => exact Console.addressed_addUser hc user
  | resetUserPassword user => exact Console.addressed_resetUserPassword hc user
  | setUserEnabled user enabled => exact Console.addressed_setUserEnabled hc user enabled
  | deleteUser user => exact Console.addressed_deleteUser hc user

/-- **A bad base URL is found when the client is built.**  A client is built for any endpoint, with
any session and any peer, a console is set up with it, and then any moves are made.  The path of
every call has a URL then, and neither a call nor an action fails because of a URL. -/
theorem url_checked_at_build {σ : Type} [TokenSlot σ] {endpoint : Endpoint} {session : Session σ}
    {peer : Peer} {client : Client σ} (h : Client.build endpoint session peer = .ok client)
    (moves : List Move) :
    let last := Move.runAll moves { client }
    (∀ call : Call, (last.client.endpoint.resolve call.path).isOk = true) ∧
      (∀ (call : Call) (fault : Url.Fault), (last.client.perform call).1 ≠ .error (.url fault)) ∧
      ∀ (action : Action) (fault : Url.Fault), (action.run last).result ≠ .error (.url fault) := by
  intro last
  have hlast : last.client.endpoint.IsSound := by
    obtain ⟨hsound, rfl⟩ := Client.build_eq_ok_iff_isSound.1 h
    rw [(Move.course_runAll moves _).endpoint_eq]
    exact hsound
  refine ⟨Endpoint.resolve_call hlast, fun call fault hfault => ?_,
    fun action => (action.addressed hlast).not_url⟩
  refine (Console.addressed_perform hlast call).not_url fault ?_
  rw [Console.perform, Console.result_report]
  exact hfault

/-- The base URL `a:/` with a tab behind it: what is put behind it becomes the host of a URL, for
the slash alone as for the path of a call. -/
theorem url_checked_at_build_slid :
    let endpoint : Endpoint := { baseUrl := "a:/\t" }
    let client : Client MemorySlot := ⟨endpoint, .start {}, { peer := .absent }⟩
    Client.build endpoint (.start {}) .absent = .ok client ∧
      (endpoint.resolve "/user/7").toOption.map Url.toString = some "a://user/7" ∧
      ∀ fault, (client.perform (.get { value := 7 })).1 ≠ .error (.url fault) := by
  intro endpoint client
  have hsound : (endpoint.resolve "/").isOk = true := by decide +kernel
  have hbuild : Client.build endpoint (.start {}) .absent = .ok client :=
    Client.build_eq_ok_iff_isSound.2 ⟨hsound, rfl⟩
  exact ⟨hbuild, by decide +kernel, (url_checked_at_build hbuild []).2.1 (.get { value := 7 })⟩

end AccountAdmin
