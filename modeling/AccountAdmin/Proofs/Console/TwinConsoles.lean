import AccountAdmin.Console
import AccountAdmin.Proofs.Service.TwinClients

/-!
# Consoles that differ in a token

No action of the console looks at the token: with two clients that differ in nothing else, every
action has the same result and says the same.  As in the course of an action, this is shown once for
calls and once for `Outcome.andThen`, and then for every action along the way it is put together.
-/

namespace AccountAdmin.TokenPair

variable (tokens : TokenPair)

/-- Consoles of the same user whose clients may differ in the first token. -/
structure Consoles (c₁ c₂ : Console ConfigSlot) : Prop where
  user : c₁.user = c₂.user
  clients : tokens.Clients c₁.client c₂.client

/-- Outcomes of which an operator sees the same. -/
structure Outcomes {α : Type} (o₁ o₂ : Outcome ConfigSlot α) : Prop where
  result : o₁.result = o₂.result
  events : o₁.events = o₂.events
  consoles : tokens.Consoles o₁.console o₂.console

variable {tokens : TokenPair}

/-! ## Outcomes -/

namespace Outcomes

variable {α β : Type} {o₁ o₂ : Outcome ConfigSlot α}

theorem andThen (h : tokens.Outcomes o₁ o₂) {next : α → Console ConfigSlot → Outcome ConfigSlot β}
    (hnext : ∀ a c₁ c₂, tokens.Consoles c₁ c₂ → tokens.Outcomes (next a c₁) (next a c₂)) :
    tokens.Outcomes (o₁.andThen next) (o₂.andThen next) := by
  obtain ⟨result, events, console₁⟩ := o₁
  obtain ⟨_, _, console₂⟩ := o₂
  obtain rfl : result = _ := h.result
  obtain rfl : events = _ := h.events
  cases result with
  | error e => exact ⟨rfl, rfl, h.consoles⟩
  | ok a =>
    have hafter := hnext a console₁ console₂ h.consoles
    exact ⟨hafter.result, congrArg (events ++ ·) hafter.events, hafter.consoles⟩

theorem map (h : tokens.Outcomes o₁ o₂) (f : α → β) : tokens.Outcomes (o₁.map f) (o₂.map f) :=
  ⟨congrArg (Except.map f) h.result, h.events, h.consoles⟩

end Outcomes

/-! ## Actions -/

namespace Consoles

variable {c₁ c₂ : Console ConfigSlot} (h : tokens.Consoles c₁ c₂)
include h

theorem tell (events : List Event) : tokens.Outcomes (c₁.tell events) (c₂.tell events) :=
  ⟨rfl, rfl, h⟩

theorem report {α : Type} (r : Except Error α) : tokens.Outcomes (c₁.report r) (c₂.report r) := by
  cases r with
  | ok a => exact ⟨rfl, rfl, h⟩
  | error e => exact ⟨rfl, rfl, h⟩

theorem apply (u : UserRecord) : tokens.Outcomes (c₁.apply u) (c₂.apply u) :=
  ⟨rfl, rfl, rfl, h.clients⟩

theorem perform (call : Call) : tokens.Outcomes (c₁.perform call) (c₂.perform call) := by
  obtain ⟨hresult, hclients⟩ := h.clients.perform call
  rw [Console.perform, Console.perform]
  rcases hp₁ : c₁.client.perform call with ⟨r, client₁⟩
  rcases hp₂ : c₂.client.perform call with ⟨_, client₂⟩
  rw [hp₁, hp₂] at hresult hclients
  obtain rfl : r = _ := hresult
  have hconsoles : tokens.Consoles { c₁ with client := client₁ } { c₂ with client := client₂ } :=
    ⟨h.user, hclients⟩
  exact hconsoles.report r

theorem refreshUser : tokens.Outcomes c₁.refreshUser c₂.refreshUser :=
  (h.perform .current).andThen fun u _ _ h => h.apply u

theorem setToken (token : String) (keep : Bool) :
    tokens.Consoles { c₁ with client := c₁.client.setToken token keep }
      { c₂ with client := c₂.client.setToken token keep } :=
  ⟨h.user, h.clients.setToken token keep⟩

theorem login (credentials : Credentials) (keep : Bool) :
    tokens.Outcomes (c₁.login credentials keep) (c₂.login credentials keep) := by
  have hperform := h.perform (.authenticate credentials)
  apply hperform.andThen
  intro answer c₁ c₂ h
  have happly := (h.setToken (SignIn.token answer) keep).apply (SignIn.user answer)
  exact happly.andThen fun _ _ _ h => h.tell _

theorem logout : tokens.Outcomes c₁.logout c₂.logout := by
  have hclear : tokens.Consoles { c₁ with client := c₁.client.clearToken }
      { c₂ with client := c₂.client.clearToken } := ⟨h.user, h.clients.clearToken⟩
  exact hclear.apply _

theorem changePassword (old new again : String) :
    tokens.Outcomes (c₁.changePassword old new again) (c₂.changePassword old new again) := by
  rw [Console.changePassword, Console.changePassword, h.user]
  split
  · exact (h.perform _).andThen fun _ _ _ h => h.tell _
  · exact h.report _

theorem updateProfile (displayName : String) :
    tokens.Outcomes (c₁.updateProfile displayName) (c₂.updateProfile displayName) := by
  rw [Console.updateProfile, Console.updateProfile, h.user]
  exact (h.perform _).andThen fun u _ _ h => (h.apply u).andThen fun _ _ _ h => h.tell _

theorem listUsers : tokens.Outcomes c₁.listUsers c₂.listUsers :=
  (h.perform .list).andThen fun _ _ _ h => (h.tell _).map _

theorem showUser (id : UserId) : tokens.Outcomes (c₁.showUser id) (c₂.showUser id) :=
  (h.perform (.get id)).andThen fun _ _ _ h => (h.tell _).map _

theorem redraw (done : Event) : tokens.Outcomes (c₁.redraw done) (c₂.redraw done) :=
  (h.tell [done]).andThen fun _ _ _ h => h.listUsers.map _

theorem addUser (user : NewUser) : tokens.Outcomes (c₁.addUser user) (c₂.addUser user) :=
  (h.perform (.create user)).andThen fun _ _ _ h => h.redraw _

theorem resetUserPassword (user : UserRecord) :
    tokens.Outcomes (c₁.resetUserPassword user) (c₂.resetUserPassword user) :=
  (h.report user.requireId).andThen fun id _ _ h =>
    (h.perform (.resetPassword id)).andThen fun _ _ _ h => h.tell _

theorem setUserEnabled (user : UserRecord) (enabled : Bool) :
    tokens.Outcomes (c₁.setUserEnabled user enabled) (c₂.setUserEnabled user enabled) :=
  (h.report user.requireId).andThen fun id _ _ h =>
    (h.perform (.setStatus ⟨id, !enabled⟩)).andThen fun _ _ _ h => h.redraw _

theorem deleteUser (user : UserRecord) :
    tokens.Outcomes (c₁.deleteUser user) (c₂.deleteUser user) :=
  (h.report user.requireId).andThen fun id _ _ h =>
    (h.perform (.delete id)).andThen fun _ _ _ h => h.redraw _

end Consoles

end AccountAdmin.TokenPair
