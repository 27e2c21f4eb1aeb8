import AccountAdmin.Proofs.Console.SessionLifecycle

/-!
# Who is signed in

A console keeps the current user, and a display shows one.  Nobody compares the two: a console tells
the display what to show whenever it takes a record for the current user, and the display believes
it.  Both follow the same thing, the last record that the service gave of whoever is signed in, and
so they agree.

This record can be seen from outside.  A `Deed` is what an observer knows of one move: the move,
whether it succeeded, and the exchanges that it took.  Three of the moves ask who is signed in, and
the reply to them holds a record (`Deed.record?`); signing out is the one move that settles the
matter without asking (`Deed.identity?`).

A move shows the user that its deed identifies, if it identifies one, and shows none otherwise;
`Outcome.Shows` says this of an outcome together with the user behind it.  Most actions show none,
by the way in which they are put together (`Outcome.Shows.andThen`).  The three that ask are one
call with something behind it that makes no further call, and `Console.perform_andThen_cases` takes
such an action apart.

* `Move.shows_run`: what a single move shows.
* `user_in_step`: what holds of the current user after any run.
-/

namespace AccountAdmin

/-! ## Deeds -/

/-- The record that the reply of an exchange holds, if it holds one. -/
def Exchange.record? (x : Exchange) : Option UserRecord := (x.answer .current).toOption

/-- A move, whether it succeeded, and the exchanges that it took. -/
structure Deed where
  move : Move
  succeeded : Bool
  exchanges : List Exchange

/-- Whether a move asks the service who is signed in. -/
def Move.asksWho : Move → Bool
  | action .refreshUser | action (.login _ _) | action (.updateProfile _) => true
  | _ => false

namespace Deed

/-- The answer to the credentials, if it was a login and they were accepted. -/
def signIn? (d : Deed) : Option SignIn :=
  match d.move with
  | .action (.login _ _) => d.exchanges.findSome? Exchange.signIn?
  | _ => none

/-- The record of whoever is signed in, if the deed was about that and the reply holds one. -/
def record? (d : Deed) : Option UserRecord :=
  match d.move with
  | .action .refreshUser | .action (.updateProfile _) => d.exchanges.findSome? Exchange.record?
  | _ => d.signIn?.map (·.user)

/-- Who is signed in according to the deed, if it settles that. -/
def identity? (d : Deed) : Option CurrentUser :=
  match d.move with
  | .action .logout => some .guest
  | _ => if d.succeeded then d.record?.map .ofRecord else none

/-- A question succeeds exactly if it is answered, and then the answer is what counts. -/
theorem identity?_of_asksWho {d : Deed} (hasks : d.move.asksWho = true)
    (hsucceeded : d.succeeded = d.record?.isSome) : d.identity? = d.record?.map .ofRecord := by
  rw [identity?, hsucceeded]
  split
  · next hlogout =>
    rw [hlogout] at hasks
    cases hasks
  · cases d.record? <;> rfl

/-- Nothing but a question and signing out settles who is signed in. -/
theorem identity?_eq_none {d : Deed} (hasks : d.move.asksWho = false)
    (hlogout : d.move ≠ .action .logout) : d.identity? = none := by
  obtain ⟨move, succeeded, exchanges⟩ := d
  cases move with
  | action a =>
    cases a with
    | refreshUser | login | updateProfile => cases hasks
    | logout => exact absurd rfl hlogout
    | _ => cases succeeded <;> rfl
  | _ => cases succeeded <;> rfl

/-- Who is signed in is nobody, or the user of a record in a reply. -/
theorem identity?_cases {d : Deed} {user : CurrentUser} (h : d.identity? = some user) :
    user = .guest ∨ ∃ u, d.record? = some u ∧ user = .ofRecord u := by
  rw [identity?] at h
  split at h
  · exact .inl (Option.some.inj h).symm
  split at h
  · obtain ⟨u, hu, rfl⟩ := Option.map_eq_some_iff.1 h
    exact .inr ⟨u, hu, rfl⟩
  · cases h

/-- Without an id nobody is signed in. -/
theorem eq_guest_of_identity? {d : Deed} {user : CurrentUser} (h : d.identity? = some user)
    (hid : user.id = none) : user = .guest := by
  rcases identity?_cases h with rfl | ⟨u, -, rfl⟩
  · rfl
  · rw [CurrentUser.id_ofRecord] at hid
    exact CurrentUser.ofRecord_of_id_none hid

end Deed

namespace Move

variable {σ : Type} [TokenSlot σ]

/-- The deed of a move. -/
def deed (move : Move) (c : Console σ) : Deed :=
  ⟨move, (move.run c).result.isOk, move.exchanges c⟩

/-- The deeds of some moves. -/
def history : List Move → Console σ → List Deed
  | [], _ => []
  | move :: moves, c => move.deed c :: history moves (move.run c).console

/-- The events of some moves. -/
def eventsOf : List Move → Console σ → List Event
  | [], _ => []
  | move :: moves, c => (move.run c).events ++ eventsOf moves (move.run c).console

end Move

/-! ## What is shown -/

namespace Event

/-- The current user that the event shows, if it shows one. -/
def user? : Event → Option CurrentUser
  | applyUser user => some user
  | _ => none

/-- The current user that is shown last. -/
def lastUser? (events : List Event) : Option CurrentUser := (events.filterMap user?).getLast?

theorem lastUser?_append (before after : List Event) :
    lastUser? (before ++ after) = (lastUser? after).or (lastUser? before) := by
  rw [lastUser?, List.filterMap_append, List.getLast?_append, lastUser?, lastUser?]

end Event

namespace Outcome

variable {σ α β : Type}

/-- The user shown last, if any, is the current user, who stays the same if none is shown. -/
structure Shows (c : Console σ) (who : Option CurrentUser) (o : Outcome σ α) : Prop where
  shown_eq : Event.lastUser? o.events = who
  user_eq : o.console.user = who.getD c.user

variable {c : Console σ} {o : Outcome σ α} {next : α → Console σ → Outcome σ β}

/-- Neither part of an outcome shows a user, and so neither does the whole. -/
theorem Shows.andThen (ho : o.Shows c none) (hnext : ∀ a mid, (next a mid).Shows mid none) :
    (o.andThen next).Shows c none := by
  cases hresult : o.result with
  | error e =>
    rw [andThen_of_error hresult]
    exact ⟨ho.shown_eq, ho.user_eq⟩
  | ok a =>
    obtain ⟨hshown, huser⟩ := hnext a o.console
    rw [andThen_of_ok hresult]
    refine ⟨?_, huser.trans ho.user_eq⟩
    rw [Event.lastUser?_append, hshown, ho.shown_eq, Option.none_or]

theorem Shows.map {who : Option CurrentUser} (ho : o.Shows c who) (f : α → β) :
    (o.map f).Shows c who := ⟨ho.shown_eq, ho.user_eq⟩

end Outcome

namespace Console

variable {σ α : Type}

theorem shows_tell (c : Console σ) {events : List Event} (h : Event.lastUser? events = none) :
    (c.tell events).Shows c none := ⟨h, rfl⟩

theorem shows_apply (c : Console σ) (u : UserRecord) :
    (c.apply u).Shows c (some (.ofRecord u)) := ⟨rfl, rfl⟩

theorem shows_report (c : Console σ) (r : Except Error α) : (c.report r).Shows c none := by
  cases r <;> exact ⟨rfl, rfl⟩

variable [TokenSlot σ] (c : Console σ)

theorem shows_perform (call : Call) : (c.perform call).Shows c none := by
  rcases c.perform_cases call with ⟨e, h, -⟩ | ⟨url, d, wire, -, -, h⟩
  · rw [h]
    exact ⟨rfl, rfl⟩
  · rw [h]
    cases Exchange.answer ⟨c.client.prepare call.method url call.body, d⟩ call <;> exact ⟨rfl, rfl⟩

/-! ## Actions that do not ask who is signed in -/

theorem shows_changePassword (old new again : String) :
    (c.changePassword old new again).Shows c none := by
  rw [changePassword]
  split
  · exact (c.shows_perform _).andThen fun _ mid => mid.shows_tell rfl
  · exact c.shows_report _

theorem shows_listUsers : c.listUsers.Shows c none :=
  (c.shows_perform .list).andThen fun _ mid => (mid.shows_tell rfl).map _

theorem shows_showUser (id : UserId) : (c.showUser id).Shows c none :=
  (c.shows_perform (.get id)).andThen fun _ mid => (mid.shows_tell rfl).map _

theorem shows_redraw {done : Event} (hdone : done.user? = none) : (c.redraw done).Shows c none := by
  refine (c.shows_tell ?_).andThen fun _ mid => mid.shows_listUsers.map _
  rw [Event.lastUser?, List.filterMap_cons_none hdone]
  rfl

theorem shows_addUser (user : NewUser) : (c.addUser user).Shows c none :=
  (c.shows_perform (.create user)).andThen fun _ mid => mid.shows_redraw rfl

theorem shows_resetUserPassword (user : UserRecord) : (c.resetUserPassword user).Shows c none :=
  (c.shows_report user.requireId).andThen fun id mid =>
    (mid.shows_perform (.resetPassword id)).andThen fun _ mid => mid.shows_tell rfl

theorem shows_setUserEnabled (user : UserRecord) (enabled : Bool) :
    (c.setUserEnabled user enabled).Shows c none :=
  (c.shows_report user.requireId).andThen fun id mid =>
    (mid.shows_perform (.setStatus ⟨id, !enabled⟩)).andThen fun _ mid => mid.shows_redraw rfl

theorem shows_deleteUser (user : UserRecord) : (c.deleteUser user).Shows c none :=
  (c.shows_report user.requireId).andThen fun id mid =>
    (mid.shows_perform (.delete id)).andThen fun _ mid => mid.shows_redraw rfl

/-! ## Actions that ask -/

/-- A call with something behind it that makes no call.  Either the call fails, which is all there
is to it, and no reply holds an answer; or there is an answer in one exchange, and the rest is what
comes behind it.  The outcome is given by an equation, so that an action can be passed by its
name. -/
theorem perform_andThen_cases {β : Type} (call : Call)
    {next : call.Answer → Console σ → Outcome σ β} {o : Outcome σ β}
    (ho : (c.perform call).andThen next = o)
    (hwire : ∀ a mid, (next a mid).console.client.wire = mid.client.wire) :
    ∃ mid, (c.perform call).console = mid ∧
      ((∃ e, o = ⟨.error e, [.reportError e], mid⟩ ∧
          ∀ x ∈ c.client.wire.exchangesTo o.console.client.wire, x.answer call = .error e) ∨
        ∃ x a, o = next a mid ∧ x.answer call = .ok a ∧
          c.client.wire.exchangesTo o.console.client.wire = [x]) := by
  refine ⟨_, rfl, ?_⟩
  have hany : anyPath call.method call.path := trivial
  rcases c.perform_cases call with ⟨e, h, -⟩ | ⟨url, d, wire, hurl, htakes, h⟩
  · have hnothing : c.client.wire.exchangesTo c.client.wire = [] :=
      (Client.Course.nil c.client : Client.Course anyPath c.client [] c.client).exchangesTo_eq
    rw [h, Outcome.andThen_of_error (e := e) rfl] at ho
    subst ho
    refine .inl ⟨e, by rw [h], ?_⟩
    rw [hnothing]
    exact fun x hx => nomatch hx
  · have hone : c.client.wire.exchangesTo wire =
        [⟨c.client.prepare call.method url call.body, d⟩] :=
      (Client.Step.exchanged hany hurl htakes).course.exchangesTo_eq
    generalize Exchange.mk (c.client.prepare call.method url call.body) d = x at h hone
    cases hanswer : x.answer call with
    | error e =>
      rw [hanswer] at h
      rw [h, Outcome.andThen_of_error (e := e) rfl] at ho
      subst ho
      refine .inl ⟨e, by rw [h]; rfl, fun y hy => ?_⟩
      have hy' : y ∈ c.client.wire.exchangesTo wire := hy
      rw [hone, List.mem_singleton] at hy'
      rwa [hy']
    | ok a =>
      rw [hanswer] at h
      rw [h, Outcome.andThen_of_ok (a := a) rfl] at ho
      subst ho
      exact .inr ⟨x, a, by rw [h]; rfl, hanswer, by rw [hwire]; exact hone⟩

/-- A call with something behind it that takes a record from the answer for the current user. -/
theorem perform_andThen_shows (call : Call) {next : call.Answer → Console σ → Outcome σ Unit}
    {o : Outcome σ Unit} (ho : (c.perform call).andThen next = o)
    (who : call.Answer → UserRecord) (record? : Exchange → Option UserRecord)
    (hrecord : ∀ x, record? x = (x.answer call).toOption.map who)
    (hresult : ∀ a mid, (next a mid).result = .ok ())
    (hshows : ∀ a mid, (next a mid).Shows mid (some (.ofRecord (who a))))
    (hwire : ∀ a mid, (next a mid).console.client.wire = mid.client.wire) :
    let record := (c.client.wire.exchangesTo o.console.client.wire).findSome? record?
    o.result.isOk = record.isSome ∧ o.Shows c (record.map .ofRecord) := by
  have huser := (c.shows_perform call).user_eq
  obtain ⟨mid, hmid, ⟨e, h, hfailed⟩ | ⟨x, a, h, hx, hone⟩⟩ := c.perform_andThen_cases call ho hwire
  · have hnone : (c.client.wire.exchangesTo o.console.client.wire).findSome? record? = none := by
      refine List.findSome?_eq_none_iff.2 fun x hx => ?_
      rw [hrecord, hfailed x hx]
      rfl
    rw [hmid] at huser
    rw [hnone, h]
    exact ⟨rfl, rfl, huser⟩
  · have hnext := hshows a mid
    rw [hone, List.findSome?_singleton, hrecord, hx, h, hresult]
    exact ⟨rfl, hnext.shown_eq, hnext.user_eq⟩

theorem shows_refreshUser :
    let record := (c.client.wire.exchangesTo c.refreshUser.console.client.wire).findSome?
      Exchange.record?
    c.refreshUser.result.isOk = record.isSome ∧ c.refreshUser.Shows c (record.map .ofRecord) :=
  c.perform_andThen_shows .current (o := c.refreshUser) rfl (fun u : UserRecord => u)
    Exchange.record? (fun _ => Option.map_id'.symm) (fun _ _ => rfl)
    (fun u mid => mid.shows_apply u) fun _ _ => rfl

/-- What comes behind accepted credentials. -/
theorem shows_signIn (answer : SignIn) (keep : Bool) :
    (({ c with client := c.client.setToken answer.token keep }.apply answer.user).andThen fun _ c =>
      c.tell (.closeModal .login ::
        if answer.mustChangePassword then [.passwordChangeRequired] else [])).Shows c
      (some (.ofRecord answer.user)) := by
  refine ⟨?_, rfl⟩
  rw [Outcome.andThen_of_ok (a := ()) rfl]
  cases answer.mustChangePassword <;> rfl

theorem shows_login (credentials : Credentials) (keep : Bool) :
    let record := (c.client.wire.exchangesTo
      (c.login credentials keep).console.client.wire).findSome? fun x => x.signIn?.map (·.user)
    (c.login credentials keep).result.isOk = record.isSome ∧
      (c.login credentials keep).Shows c (record.map .ofRecord) :=
  c.perform_andThen_shows (.authenticate credentials) (o := c.login credentials keep) rfl
    (fun answer : SignIn => answer.user) (fun x => x.signIn?.map (·.user))
    (fun x => by rw [signIn?_eq x credentials]; rfl) (fun _ _ => rfl)
    (fun answer mid => mid.shows_signIn answer keep) fun _ _ => rfl

theorem shows_updateProfile (displayName : String) :
    let record := (c.client.wire.exchangesTo
      (c.updateProfile displayName).console.client.wire).findSome? Exchange.record?
    (c.updateProfile displayName).result.isOk = record.isSome ∧
      (c.updateProfile displayName).Shows c (record.map .ofRecord) :=
  c.perform_andThen_shows (.updateDetails ⟨c.user.id, displayName⟩)
    (o := c.updateProfile displayName) rfl (fun u : UserRecord => u) Exchange.record?
    (fun _ => Option.map_id'.symm) (fun _ _ => rfl) (fun _ _ => ⟨rfl, rfl⟩) fun _ _ => rfl

end Console

/-! ## Moves -/

namespace Move

variable {σ : Type} [TokenSlot σ]

/-- A question who is signed in succeeds if the reply holds a record, who is shown then. -/
theorem shows_run_of_asksWho {move : Move} (hasks : move.asksWho = true) (c : Console σ) :
    (move.deed c).succeeded = (move.deed c).record?.isSome ∧
      (move.run c).Shows c ((move.deed c).record?.map .ofRecord) := by
  cases move with
  | action a =>
    cases a with
    | refreshUser =>
      dsimp only [deed, Deed.record?, exchanges, run, Action.run, Answer, Action.Answer]
      exact c.shows_refreshUser
    | login credentials keep =>
      dsimp only [deed, Deed.record?, Deed.signIn?, exchanges, run, Action.run, Answer,
        Action.Answer]
      rw [List.map_findSome?]
      exact c.shows_login credentials keep
    | updateProfile displayName =>
      dsimp only [deed, Deed.record?, exchanges, run, Action.run, Answer, Action.Answer]
      exact c.shows_updateProfile displayName
    | _ => cases hasks
  | _ => cases hasks

/-- Any other move but signing out shows nobody. -/
theorem shows_run_of_not_asksWho {move : Move} (hasks : move.asksWho = false)
    (hlogout : move ≠ .action .logout) (c : Console σ) : (move.run c).Shows c none := by
  cases move with
  | action a =>
    cases a with
    | refreshUser | login | updateProfile => cases hasks
    | logout => exact absurd rfl hlogout
    | changePassword old new again => exact c.shows_changePassword old new again
    | listUsers => exact c.shows_listUsers
    | showUser id => exact c.shows_showUser id
    | addUser user => exact c.shows_addUser user
    | resetUserPassword user => exact c.shows_resetUserPassword user
    | setUserEnabled user enabled => exact c.shows_setUserEnabled user enabled
    | deleteUser user => exact c.shows_deleteUser user
  | perform call =>
    rcases hperform : c.client.perform call with ⟨result, client⟩
    rw [run, hperform]
    exact ⟨rfl, rfl⟩
  | request method path body =>
    rcases hrequest : c.client.request method path body with ⟨result, client⟩
    rw [run, hrequest]
    exact ⟨rfl, rfl⟩
  | setToken token keep => exact ⟨rfl, rfl⟩
  | clearToken => exact ⟨rfl, rfl⟩

/-- Step lemma for runs: a move shows the user that its deed identifies, if it identifies one. -/
theorem shows_run (move : Move) (c : Console σ) : (move.run c).Shows c (move.deed c).identity? := by
  by_cases hlogout : move = .action .logout
  · subst hlogout
    exact ⟨rfl, rfl⟩
  cases hasks : move.asksWho with
  | true =>
    obtain ⟨hsucceeded, hshows⟩ := shows_run_of_asksWho hasks c
    rwa [Deed.identity?_of_asksWho hasks hsucceeded]
  | false =>
    rw [Deed.identity?_eq_none hasks hlogout]
    exact shows_run_of_not_asksWho hasks hlogout c

/-- The user shown last in a run is the one that its history identifies last. -/
theorem lastUser?_eventsOf (moves : List Move) (c : Console σ) :
    Event.lastUser? (eventsOf moves c) = ((history moves c).filterMap Deed.identity?).getLast? := by
  induction moves generalizing c with
  | nil => rfl
  | cons move moves ih =>
    have hone : ([move.deed c].filterMap Deed.identity?).getLast? = (move.deed c).identity? := by
      rw [List.filterMap_cons]
      cases (move.deed c).identity? <;> rfl
    rw [eventsOf, history, Event.lastUser?_append, ih, (move.shows_run c).shown_eq, ← hone,
      ← List.getLast?_append, ← List.filterMap_append, List.singleton_append]

/-- Run lemma: the current user is the one shown last, or still the same if none was shown. -/
theorem user_runAll (moves : List Move) (c : Console σ) :
    (runAll moves c).user = (Event.lastUser? (eventsOf moves c)).getD c.user := by
  induction moves generalizing c with
  | nil => rfl
  | cons move moves ih =>
    obtain ⟨hshown, huser⟩ := move.shows_run c
    rw [runAll, ih, eventsOf, Event.lastUser?_append, Option.getD_or, hshown, huser]

end Move

/-- **The current user and the display are in step.**  A console is set up with any client, and then
any moves are made.  The current user is the one that was shown last, and the one that the last deed
that settled the matter identifies: the user of the record in the reply to the most recent question,
or nobody if that was signing out, or nothing has settled it.  A question succeeds exactly if there
is such a record in the reply.  A current user without an id is nobody, whose names are fixed. -/
theorem user_in_step {σ : Type} [TokenSlot σ] (client : Client σ) (moves : List Move) :
    let start : Console σ := { client }
    let last := Move.runAll moves start
    let history := Move.history moves start
    last.user = (Event.lastUser? (Move.eventsOf moves start)).getD .guest ∧
      last.user = ((history.filterMap Deed.identity?).getLast?).getD .guest ∧
      (∀ move : Move, move.asksWho = true →
        (move.deed last).succeeded = (move.deed last).record?.isSome) ∧
      (last.user.id = none → last.user = ⟨none, "anonymous", "Guest", false⟩) := by
  intro start last history
  have hshown : last.user = (Event.lastUser? (Move.eventsOf moves start)).getD .guest :=
    Move.user_runAll moves start
  have hidentified : last.user = ((history.filterMap Deed.identity?).getLast?).getD .guest := by
    rw [hshown, Move.lastUser?_eventsOf]
  refine ⟨hshown, hidentified, fun move hasks => (Move.shows_run_of_asksWho hasks last).1,
    fun hid => ?_⟩
  cases hlast : (history.filterMap Deed.identity?).getLast? with
  | none =>
    rw [hidentified, hlast]
    rfl
  | some user =>
    obtain ⟨d, -, hd⟩ := List.mem_filterMap.1 (List.mem_of_getLast? hlast)
    rw [hlast, Option.getD_some] at hidentified
    rw [hidentified] at hid ⊢
    exact Deed.eq_guest_of_identity? hd hid

end AccountAdmin
