import AccountAdmin.Account.UserId
import AccountAdmin.Error

/-!
# User records

What the service knows of a user.  A record without an id is the service's way of saying that nobody
is signed in.  The service leaves fields out or sets them to null as it likes, so on reading both
stand for no id, empty text or false; on writing every field is there, in the order of the
declaration.

* `UserRecord.toJson`: the record as it is written.
* `UserRecord.ofJson`: the record that a JSON value holds, by key or by position.
* `UserRecord.listOfJson`: a list of them.
* `UserRecord.requireId`: the id of a record that cannot do without.
-/

namespace AccountAdmin

/-- What the service knows of a user. -/
@[ext] structure UserRecord where
  id : Option UserId := none
  username : String := ""
  displayName : String := ""
  admin : Bool := false
  disabled : Bool := false
  deriving DecidableEq, Repr, Inhabited

namespace UserRecord

/-- The record that stands for nobody. -/
def guest : UserRecord := {}

/-- The record as it is written. -/
def toJson (u : UserRecord) : Json :=
  .object [
    ("userId", Json.ofInteger? (u.id.map (·.value))),
    ("username", .string u.username),
    ("displayName", .string u.displayName),
    ("admin", .bool u.admin),
    ("disabled", .bool u.disabled)]

/-- The shape of a record. -/
def shape : Shape := .record "ServerUser"

/-- Sets the id to the one a value holds. -/
def setId (u : UserRecord) (v : Json) : Except Mismatch UserRecord :=
  (Decode.nullable UserId.ofJson v).map fun id => { u with id }

/-- Sets the user name to the text a value holds. -/
def setUsername (u : UserRecord) (v : Json) : Except Mismatch UserRecord :=
  (Decode.nullAs "" Decode.text v).map fun username => { u with username }

/-- Sets the display name to the text a value holds. -/
def setDisplayName (u : UserRecord) (v : Json) : Except Mismatch UserRecord :=
  (Decode.nullAs "" Decode.text v).map fun displayName => { u with displayName }

/-- Sets the administrator flag to the one a value holds. -/
def setAdmin (u : UserRecord) (v : Json) : Except Mismatch UserRecord :=
  (Decode.nullAs false Decode.flag v).map fun admin => { u with admin }

/-- Sets the disabled flag to the one a value holds. -/
def setDisabled (u : UserRecord) (v : Json) : Except Mismatch UserRecord :=
  (Decode.nullAs false Decode.flag v).map fun disabled => { u with disabled }

/-- Sets the field under a key; other keys mean nothing. -/
def setField (u : UserRecord) (key : String) (v : Json) : Except Mismatch UserRecord :=
  if key = "userId" then u.setId v
  else if key = "username" then u.setUsername v
  else if key = "displayName" then u.setDisplayName v
  else if key = "admin" then u.setAdmin v
  else if key = "disabled" then u.setDisabled v
  else .ok u

/-- The fields in the order of the declaration. -/
def setters : List (UserRecord → Json → Except Mismatch UserRecord) :=
  [setId, setUsername, setDisplayName, setAdmin, setDisabled]

/-- The record that a JSON value holds. -/
def ofJson : Json → Except Mismatch UserRecord
  | .object fields => Decode.fields setField guest fields
  | .array items =>
    match Decode.positions setters guest items with
    | .error e => .error e
    | .ok u => if items.length ≤ setters.length then .ok u else .error (.long items.length)
  | v => .error (.kind v shape)

/-- The records that a JSON value holds. -/
def listOfJson : Json → Except Mismatch (List UserRecord) := Decode.items ofJson

/-- The id, for an operation that is about somebody. -/
def requireId (u : UserRecord) : Except Error UserId :=
  match u.id with
  | some id => .ok id
  | none => .error (.invalidArgument ("user @" ++ u.username ++ " has no id"))

end UserRecord

end AccountAdmin
