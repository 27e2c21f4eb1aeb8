import AccountAdmin.Account.UserRecord

/-!
# Sign-in

What the service answers to valid credentials: a token that stands for the session, the record of
the user, and whether the password has to be changed.  The token is the one part that has to be
there; a record may be left out or null, and the flag may be left out.
-/

namespace AccountAdmin

/-- The answer to valid credentials. -/
structure SignIn where
  user : UserRecord
  token : String
  mustChangePassword : Bool
  deriving DecidableEq, Repr

namespace SignIn

/-- The parts of an answer found so far. -/
structure Found where
  user : UserRecord := .guest
  token : Option String := none
  mustChangePassword : Bool := false

/-- The shape of an answer. -/
def shape : Shape := .record "AuthResult"

/-- Sets the user to the record a value holds, or to nobody for null. -/
def Found.setUser (f : Found) (v : Json) : Except Mismatch Found :=
  (Decode.nullAs .guest UserRecord.ofJson v).map fun user => { f with user }

/-- Sets the token to the text a value holds. -/
def Found.setToken (f : Found) (v : Json) : Except Mismatch Found :=
  (Decode.text v).map fun token => { f with token := some token }

/-- Sets the flag to the one a value holds. -/
def Found.setMustChange (f : Found) (v : Json) : Except Mismatch Found :=
  (Decode.flag v).map fun mustChangePassword => { f with mustChangePassword }

/-- Sets the part under a key; other keys mean nothing. -/
def Found.setField (f : Found) (key : String) (v : Json) : Except Mismatch Found :=
  if key = "user" then f.setUser v
  else if key = "authToken" then f.setToken v
  else if key = "mustChangePassword" then f.setMustChange v
  else .ok f

/-- The parts in the order of the declaration. -/
def setters : List (Found → Json → Except Mismatch Found) :=
  [Found.setUser, Found.setToken, Found.setMustChange]

/-- The answer, if its token was found, and a refusal otherwise. -/
def Found.finish (f : Found) (refusal : Mismatch) : Except Mismatch SignIn :=
  match f.token with
  | none => .error refusal
  | some token => .ok ⟨f.user, token, f.mustChangePassword⟩

/-- The answer that a JSON value holds. -/
def ofJson : Json → Except Mismatch SignIn
  | .object fields =>
    match Decode.fields Found.setField {} fields with
    | .error e => .error e
    | .ok f => f.finish (.absent "authToken")
  | .array items =>
    match Decode.positions setters {} items with
    | .error e => .error e
    | .ok f =>
      match f.finish (.short 1 shape setters.length) with
      | .error e => .error e
      | .ok answer =>
        if items.length ≤ setters.length then .ok answer else .error (.long items.length)
  | v => .error (.kind v shape)

end SignIn

end AccountAdmin
