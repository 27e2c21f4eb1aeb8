import AccountAdmin.Console

/-!
# Diagnostics

One-line texts of the larger values, for a log or a debugger.  Of a session the client's text shows
only whether there is a token.  The text of a session on its own also shows its slot.
-/

namespace AccountAdmin

/-- A Boolean as it is shown in a diagnostic. -/
def flagText (b : Bool) : String := if b then "true" else "false"

/-- A memory slot as it is shown in a diagnostic. -/
def MemorySlot.diagnostic (s : MemorySlot) : String :=
  "MemoryStorage \x7b data: RwLock \x7b data: \x7b" ++
    (match s.content with
      | none => ""
      | some token => Text.quoted "token" ++ ": " ++ Text.quoted token) ++
    "\x7d, poisoned: false, .. \x7d \x7d"

/-- A session as it is shown in a diagnostic. -/
def Session.diagnostic (s : Session MemorySlot) : String :=
  "SessionStore \x7b has_token: " ++ flagText s.hasToken ++ ", storage: " ++
    s.slot.diagnostic ++ " \x7d"

/-- What a client is about to be built from, as it is shown in a diagnostic. -/
def Endpoint.builderDiagnostic {σ : Type} [TokenSlot σ] (e : Endpoint)
    (session : Option (Session σ)) : String :=
  "AdminClientBuilder \x7b http_config: " ++ e.diagnostic ++ ", session: " ++
    optionText (fun s => flagText s.hasToken) session ++ " \x7d"

/-- A client as it is shown in a diagnostic. -/
def Client.diagnostic {σ : Type} [TokenSlot σ] (c : Client σ) : String :=
  "AdminClient \x7b authenticated: " ++ flagText c.isAuthenticated ++ ", base_url: " ++
    Text.quoted c.endpoint.baseUrl ++ " \x7d"

/-- The current user as it is shown in a diagnostic. -/
def CurrentUser.diagnostic (u : CurrentUser) : String :=
  "CurrentUser \x7b id: " ++ Endpoint.optionText (fun id => "UserId(" ++ id.text ++ ")") u.id ++
    ", username: " ++ Text.quoted u.username ++ ", display_name: " ++ Text.quoted u.displayName ++
    ", is_admin: " ++ flagText u.admin ++ " \x7d"

/-- A console as it is shown in a diagnostic. -/
def Console.diagnostic {σ : Type} [TokenSlot σ] (c : Console σ) : String :=
  "Console \x7b client: " ++ c.client.diagnostic ++ ", user: " ++ c.user.diagnostic ++ " \x7d"

end AccountAdmin
