import AccountAdmin.Account.CurrentUser

/-!
# Rows

What is shown of a user record and of the current user: the cells of a table row, and the same data
as a JSON object.  A disabled user can only be enabled or deleted, and an active one only be
disabled or given a new password; the row of a record lists these as actions.

* `UserRow.ofRecord`, `SessionRow.ofUser`: the rows.
* `headers`, `cells`, `toJson`: their forms, for either kind of row.
-/

namespace AccountAdmin

/-- The role that goes with the administrator flag. -/
def roleName (admin : Bool) : String := if admin then "admin" else "user"

/-- The status that goes with the disabled flag. -/
def statusName (disabled : Bool) : String := if disabled then "disabled" else "active"

/-- What is shown of a user record. -/
structure UserRow where
  id : String
  username : String
  displayName : String
  role : String
  status : String
  actions : List String
  deriving DecidableEq, Repr

namespace UserRow

/-- What can be done to a user. -/
def actionsFor (disabled : Bool) : List String :=
  if disabled then ["enable", "delete"] else ["reset-password", "disable"]

/-- The row of a record. -/
def ofRecord (u : UserRecord) : UserRow where
  id := (u.id.map (·.text)).getD ""
  username := u.username
  displayName := u.displayName
  role := roleName u.admin
  status := statusName u.disabled
  actions := actionsFor u.disabled

/-- The headers of the columns. -/
def headers : List String := ["ID", "Username", "Display Name", "Role", "Status", "Actions"]

/-- The cells of the columns. -/
def cells (r : UserRow) : List String :=
  [r.id, r.username, r.displayName, r.role, r.status, ", ".intercalate r.actions]

/-- The row as JSON. -/
def toJson (r : UserRow) : Json :=
  .object [("id", .string r.id), ("username", .string r.username),
    ("display_name", .string r.displayName), ("role", .string r.role),
    ("status", .string r.status), ("actions", .array (r.actions.map .string))]

end UserRow

/-- What is shown of the current user. -/
structure SessionRow where
  id : Option UserId
  username : String
  displayName : String
  admin : Bool
  guest : Bool
  deriving DecidableEq, Repr

namespace SessionRow

/-- The row of a user. -/
def ofUser (u : CurrentUser) : SessionRow where
  id := u.id
  username := u.username
  displayName := u.displayName
  admin := u.admin
  guest := u.isGuest

/-- The headers of the columns. -/
def headers : List String := ["ID", "Username", "Display Name", "Role"]

/-- The cells of the columns. -/
def cells (r : SessionRow) : List String :=
  [(r.id.map (·.text)).getD "-", r.username, r.displayName,
    if r.guest then "guest" else roleName r.admin]

/-- The row as JSON. -/
def toJson (r : SessionRow) : Json :=
  .object [("id", Json.ofInteger? (r.id.map (·.value))), ("username", .string r.username),
    ("display_name", .string r.displayName), ("admin", .bool r.admin), ("guest", .bool r.guest)]

/-- The row in one sentence. -/
def summary (r : SessionRow) : String :=
  if r.guest then "Not signed in (" ++ r.displayName ++ ")"
  else "Signed in as " ++ r.displayName ++ " (@" ++ r.username ++ ", " ++ roleName r.admin ++ ")"

end SessionRow

end AccountAdmin
