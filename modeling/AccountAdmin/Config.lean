import AccountAdmin.Service.Endpoint
import AccountAdmin.Toml.Printer
import AccountAdmin.Toml.Reader

/-!
# Configuration

What the program is told once and for all: where the service is, how long to wait for it, and the
session that is kept from one run to the next.  A kept token belongs to the service that issued it,
so its base URL is kept with it; a token without one belongs to no service.

The file is a TOML document with the tables `server` and `session`.  Either may be left out, other
keys mean nothing, and a table may also be written as an array of its entries in order.

* `Config.ofText`: the configuration that a text holds.
* `Config.text?`: the text of a configuration, if its timeouts can be written.
-/

namespace AccountAdmin

/-- Where the service is and how long to wait for it. -/
structure ServerSettings where
  baseUrl : String := Endpoint.defaultBaseUrl
  /-- Seconds. -/
  connectTimeout : Option UInt64 := none
  /-- Seconds. -/
  readTimeout : Option UInt64 := none
  deriving DecidableEq, Repr

/-- A token that is kept, and the base URL of the service that issued it. -/
structure SessionRecord where
  token : String
  baseUrl : Option String := none
  deriving DecidableEq, Repr

/-- The configuration of the program. -/
structure Config where
  server : ServerSettings := {}
  session : Option SessionRecord := none
  deriving DecidableEq, Repr

/-- Whether a kept session belongs to the service at a base URL; slashes at the end make no
difference. -/
def SessionRecord.issuedBy (s : SessionRecord) (baseUrl : String) : Bool :=
  match s.baseUrl with
  | none => false
  | some own => Endpoint.trimSlashes own == Endpoint.trimSlashes baseUrl

namespace Config

open Toml (Entries Value)

/-! ## Reading -/

/-- A text. -/
def textOf? : Value → Option String
  | .text s => some s
  | _ => none

/-- A number of seconds. -/
def secondsOf? : Value → Option UInt64
  | .integer n => if 0 ≤ n then some (UInt64.ofNat n.toNat) else none
  | _ => none

/-- The value under a key, if there is one, and a default otherwise. -/
def entry? {α : Type} (entries : Entries) (key : String) (default : α) (read : Value → Option α) :
    Option α :=
  match entries.find? key with
  | none => some default
  | some v => read v

/-- The settings in a table. -/
def serverOfEntries? (entries : Entries) : Option ServerSettings := do
  let baseUrl ← entry? entries "base_url" Endpoint.defaultBaseUrl textOf?
  let connectTimeout ← entry? entries "connect_timeout_secs" none fun v => (secondsOf? v).map some
  let readTimeout ← entry? entries "read_timeout_secs" none fun v => (secondsOf? v).map some
  return { baseUrl, connectTimeout, readTimeout }

/-- The settings in a value.  A date has no entry that means anything. -/
def serverOf? : Value → Option ServerSettings
  | .table _ entries => serverOfEntries? entries
  | .moment _ => serverOfEntries? []
  | .array (url :: connect :: read :: _) => do
    let baseUrl ← textOf? url
    let connectTimeout ← secondsOf? connect
    let readTimeout ← secondsOf? read
    return { baseUrl, connectTimeout := some connectTimeout, readTimeout := some readTimeout }
  | _ => none

/-- The kept session in a table. -/
def sessionOfEntries? (entries : Entries) : Option SessionRecord := do
  let token ← (entries.find? "token").bind textOf?
  let baseUrl ← entry? entries "base_url" none fun v => (textOf? v).map some
  return { token, baseUrl }

/-- The kept session in a value. -/
def sessionOf? : Value → Option SessionRecord
  | .table _ entries => sessionOfEntries? entries
  | .array [token] => (textOf? token).map fun token => { token }
  | .array (token :: url :: _) => do
    let token ← textOf? token
    let baseUrl ← textOf? url
    return { token, baseUrl := some baseUrl }
  | _ => none

/-- The configuration in a document. -/
def ofEntries? (entries : Entries) : Option Config := do
  let server ← entry? entries "server" {} serverOf?
  let session ← entry? entries "session" none fun v => (sessionOf? v).map some
  return { server, session }

/-- The configuration that a text holds. -/
def ofText (s : String) : Option Config := (Toml.read s).bind ofEntries?

/-! ## Writing -/

/-- The entry of a number of seconds, if it is set; it has to fit into a signed integer. -/
def secondsEntry? (key : String) : Option UInt64 → Option (List (String × Toml.Scalar))
  | none => some []
  | some n => if n.toNat < 0x8000000000000000 then some [(key, .count n.toNat)] else none

/-- The table of the settings. -/
def serverSection? (s : ServerSettings) : Option Toml.Section := do
  let connect ← secondsEntry? "connect_timeout_secs" s.connectTimeout
  let read ← secondsEntry? "read_timeout_secs" s.readTimeout
  return ⟨"server", ("base_url", .text s.baseUrl) :: (connect ++ read)⟩

/-- The table of a kept session. -/
def sessionSection (s : SessionRecord) : Toml.Section :=
  ⟨"session", ("token", .text s.token) ::
    (match s.baseUrl with
      | none => []
      | some url => [("base_url", .text url)])⟩

/-- The text of a configuration, if its timeouts can be written. -/
def text? (c : Config) : Option String :=
  (serverSection? c.server).map fun server =>
    Toml.document (server :: (c.session.map sessionSection).toList)

end Config

end AccountAdmin
