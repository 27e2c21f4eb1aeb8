import AccountAdmin.Account.SignIn
import AccountAdmin.Error
import AccountAdmin.Json.Reader
import AccountAdmin.Service.Wire

/-!
# Payloads

What a reply that is no failure carries: nothing, or a JSON document.  The service reports its own
failures inside of a document, as an object with the key `error`, whatever the status; such a
document is an error and never a payload.

* `Payload.ofJson`: the payload of a document.
* `Payload.ofReply`: the payload of a reply that is not about the token.
* `Payload.decode`: a record from a payload.
-/

namespace AccountAdmin

/-- What a reply carries. -/
inductive Payload where
  | empty
  | document (v : Json)
  deriving Repr, Inhabited

namespace Payload

/-- The text of an error that the service reports: a string as it is, anything else as JSON. -/
def errorText : Json → String
  | .string s => s
  | v => v.compact

/-- The payload of a document. -/
def ofJson (v : Json) : Except Error Payload :=
  match v.field? "error" with
  | some e => .error (.api (errorText e))
  | none => .ok (.document v)

/-- The payload of a message body. -/
def ofBytes (bytes : ByteArray) : Except Error Payload :=
  match Json.ofBytes bytes with
  | none => .error (.json .malformed)
  | some v => ofJson v

/-- The payload of a reply: there is none with status 204, whatever the body. -/
def ofReply (r : Reply) : Except Error Payload :=
  if r.status = 204 then .ok .empty
  else
    match r.body with
    | none => .error .network
    | some bytes => ofBytes bytes

/-- Whether the reply carried nothing. -/
def isEmpty : Payload → Bool
  | empty => true
  | document _ => false

/-- The document, if there is one. -/
def json? : Payload → Option Json
  | empty => none
  | document v => some v

/-- A record from a payload, which must not be empty. -/
def decode {α : Type} (decoder : Json → Except Mismatch α) : Payload → Except Error α
  | empty => .error (.parse "expected a response body, got none")
  | document v => liftMismatch (decoder v)

end Payload

end AccountAdmin
