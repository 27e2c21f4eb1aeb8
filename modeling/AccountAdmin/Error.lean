import AccountAdmin.Json.Decode
import AccountAdmin.Url.Fault

/-!
# Errors

Every operation that can fail fails with one of these causes; the wording that the operator sees is
`Error.message`.  An error is *local* when it is found before anything is sent.
-/

namespace AccountAdmin

/-- What is wrong with JSON. -/
inductive JsonFault where
  /-- The text is not one JSON document. -/
  | malformed
  /-- The document has the wrong shape. -/
  | mismatch (cause : Mismatch)
  deriving Repr

/-- Why an operation failed. -/
inductive Error where
  /-- No reply came, or it could not be read. -/
  | network
  /-- The service said why. -/
  | api (text : String)
  /-- The service no longer knows the token. -/
  | sessionExpired
  /-- A reply lacks what the operation needs. -/
  | parse (reason : String)
  /-- The two new passwords differ. -/
  | passwordMismatch
  /-- The operation cannot be done with what it was given. -/
  | invalidArgument (reason : String)
  | json (fault : JsonFault)
  | url (fault : Url.Fault)
  deriving Repr

namespace Error

/-- The wording of an error. -/
def message : Error → String
  | network => "Network error: no reply could be read"
  | api text => text
  | sessionExpired => "Session expired. Please reload & relogin."
  | parse reason => "Parse error: " ++ reason
  | passwordMismatch => "Repeat password mismatch."
  | invalidArgument reason => "Invalid argument: " ++ reason
  | json .malformed => "JSON error: the text is not one JSON document"
  | json (.mismatch cause) => "JSON error: " ++ cause.message
  | url fault => "URL error: " ++ fault.message

/-- Whether the service no longer knows the token. -/
def isSessionExpired : Error → Bool
  | sessionExpired => true
  | _ => false

/-- Whether the error is found before anything is sent. -/
def isLocal : Error → Bool
  | passwordMismatch => true
  | invalidArgument _ => true
  | _ => false

end Error

/-- Puts a refused value into an error. -/
def liftMismatch {α : Type} : Except Mismatch α → Except Error α
  | .ok a => .ok a
  | .error e => .error (.json (.mismatch e))

end AccountAdmin
