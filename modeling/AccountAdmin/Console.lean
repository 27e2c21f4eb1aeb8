import AccountAdmin.Console.Event
import AccountAdmin.Service.Client

/-!
# The console

A console is a client together with the current user.  It has one action for each thing an operator
can do.  An action performs one or two calls, reports the first one that fails, and otherwise says
what is new.

* `Outcome` is what an action comes to: its result, the events it gave rise to and the console after
  it. `Outcome.andThen` continues an action that has succeeded so far.
* `Action.run` performs an action.
-/

namespace AccountAdmin

/-- A client and the current user. -/
structure Console (σ : Type) where
  client : Client σ
  user : CurrentUser := .guest

/-- What an action comes to. -/
structure Outcome (σ α : Type) where
  result : Except Error α
  events : List Event
  console : Console σ

namespace Outcome

variable {σ α β : Type}

/-- The outcome of an action and, if it succeeds, of another one after it. -/
def andThen (o : Outcome σ α) (next : α → Console σ → Outcome σ β) : Outcome σ β :=
  match o.result with
  | .error e => ⟨.error e, o.events, o.console⟩
  | .ok a =>
    let after := next a o.console
    ⟨after.result, o.events ++ after.events, after.console⟩

/-- The outcome with another answer. -/
def map (f : α → β) (o : Outcome σ α) : Outcome σ β := ⟨o.result.map f, o.events, o.console⟩

end Outcome

namespace Console

variable {σ : Type} [TokenSlot σ]

/-- Nothing but events. -/
def tell (c : Console σ) (events : List Event) : Outcome σ Unit := ⟨.ok (), events, c⟩

/-- Nothing but an answer, or the report of a failure. -/
def report {α : Type} (c : Console σ) : Except Error α → Outcome σ α
  | .ok a => ⟨.ok a, [], c⟩
  | .error e => ⟨.error e, [.reportError e], c⟩

/-- Performs a call and reports its failure. -/
def perform (c : Console σ) (call : Call) : Outcome σ call.Answer :=
  let (result, client) := c.client.perform call
  { c with client }.report result

/-- Takes a record for the current user. -/
def apply (c : Console σ) (u : UserRecord) : Outcome σ Unit :=
  { c with user := .ofRecord u }.tell [.applyUser (.ofRecord u)]

/-- Asks whose token it is. -/
def refreshUser (c : Console σ) : Outcome σ Unit :=
  (c.perform .current).andThen fun u c => c.apply u

/-- Signs in; the token outlives the program if it is to be kept. -/
def login (c : Console σ) (credentials : Credentials) (keep : Bool) : Outcome σ Unit :=
  (c.perform (.authenticate credentials)).andThen fun (answer : SignIn) c =>
    ({ c with client := c.client.setToken answer.token keep }.apply answer.user).andThen fun _ c =>
      c.tell (.closeModal .login ::
        if answer.mustChangePassword then [.passwordChangeRequired] else [])

/-- Signs out, which the service is not told. -/
def logout (c : Console σ) : Outcome σ Unit :=
  { c with client := c.client.clearToken }.apply .guest

/-- Changes the password of the current user; the new one has to be given twice. -/
def changePassword (c : Console σ) (old new again : String) : Outcome σ Unit :=
  if new = again then
    (c.perform (.changePassword ⟨c.user.id, old, new⟩)).andThen fun _ c =>
      c.tell [.notify "Password updated. Please re-login.", .closeModal .changePassword]
  else c.report (.error .passwordMismatch)

/-- Changes the display name of the current user. -/
def updateProfile (c : Console σ) (displayName : String) : Outcome σ Unit :=
  (c.perform (.updateDetails ⟨c.user.id, displayName⟩)).andThen fun u c =>
    (c.apply u).andThen fun _ c => c.tell [.closeModal .editProfile]

/-- Fetches and draws all users. -/
def listUsers (c : Console σ) : Outcome σ (List UserRecord) :=
  (c.perform .list).andThen fun (users : List UserRecord) c =>
    (c.tell [.drawUserList users]).map fun _ => users

/-- Fetches and draws one user. -/
def showUser (c : Console σ) (id : UserId) : Outcome σ UserRecord :=
  (c.perform (.get id)).andThen fun (user : UserRecord) c =>
    (c.tell [.drawUserList [user]]).map fun _ => user

/-- Says what was done and draws all users anew. -/
def redraw (c : Console σ) (done : Event) : Outcome σ Unit :=
  (c.tell [done]).andThen fun _ c => c.listUsers.map fun _ => ()

/-- Creates a user. -/
def addUser (c : Console σ) (user : NewUser) : Outcome σ Unit :=
  (c.perform (.create user)).andThen fun _ c => c.redraw (.closeModal .newUser)

/-- Gives a user a new password. -/
def resetUserPassword (c : Console σ) (user : UserRecord) : Outcome σ Unit :=
  (c.report user.requireId).andThen fun id c =>
    (c.perform (.resetPassword id)).andThen fun _ c =>
      c.tell [.notify ("Password for user @" ++ user.username ++ " was reset.")]

/-- Enables or disables a user. -/
def setUserEnabled (c : Console σ) (user : UserRecord) (enabled : Bool) : Outcome σ Unit :=
  (c.report user.requireId).andThen fun id c =>
    (c.perform (.setStatus ⟨id, !enabled⟩)).andThen fun _ c =>
      let done := if enabled then " enabled." else " disabled."
      c.redraw (.notify ("User @" ++ user.username ++ done))

/-- Deletes a user. -/
def deleteUser (c : Console σ) (user : UserRecord) : Outcome σ Unit :=
  (c.report user.requireId).andThen fun id c =>
    (c.perform (.delete id)).andThen fun _ c =>
      c.redraw (.notify ("User @" ++ user.username ++ " deleted."))

end Console

/-- Something that an operator can do. -/
inductive Action where
  | refreshUser
  | login (credentials : Credentials) (keep : Bool)
  | logout
  | changePassword (old new again : String)
  | updateProfile (displayName : String)
  | listUsers
  | showUser (id : UserId)
  | addUser (user : NewUser)
  | resetUserPassword (user : UserRecord)
  | setUserEnabled (user : UserRecord) (enabled : Bool)
  | deleteUser (user : UserRecord)
  deriving DecidableEq, Repr

namespace Action

/-- What an action answers. -/
def Answer : Action → Type
  | listUsers => List UserRecord
  | showUser _ => UserRecord
  | refreshUser | login _ _ | logout | changePassword _ _ _ | updateProfile _ | addUser _
  | resetUserPassword _ | setUserEnabled _ _ | deleteUser _ => Unit

/-- Performs an action. -/
def run {σ : Type} [TokenSlot σ] : (action : Action) → Console σ → Outcome σ action.Answer
  | refreshUser, c => c.refreshUser
  | login credentials keep, c => c.login credentials keep
  | logout, c => c.logout
  | changePassword old new again, c => c.changePassword old new again
  | updateProfile displayName, c => c.updateProfile displayName
  | listUsers, c => c.listUsers
  | showUser id, c => c.showUser id
  | addUser user, c => c.addUser user
  | resetUserPassword user, c => c.resetUserPassword user
  | setUserEnabled user enabled, c => c.setUserEnabled user enabled
  | deleteUser user, c => c.deleteUser user

end Action

end AccountAdmin
