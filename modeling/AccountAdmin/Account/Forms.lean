import AccountAdmin.Account.UserId

/-!
# Forms

What the operator fills in and the program sends: credentials, a change of password, a change of
profile, a new user, a change of status.  Each is written as an object whose keys stand in the order
of the declaration.
-/

namespace AccountAdmin

/-- User name and password. -/
structure Credentials where
  username : String
  password : String
  deriving DecidableEq, Repr

/-- The change of a password. -/
structure PasswordChange where
  id : Option UserId
  oldPassword : String
  newPassword : String
  deriving DecidableEq, Repr

/-- The change of a profile. -/
structure ProfileUpdate where
  id : Option UserId
  displayName : String
  deriving DecidableEq, Repr

/-- A user to be created. -/
structure NewUser where
  username : String
  displayName : String
  admin : Bool
  deriving DecidableEq, Repr

/-- The change of a status. -/
structure StatusUpdate where
  id : UserId
  disabled : Bool
  deriving DecidableEq, Repr

/-- An id, or null. -/
def UserId.toJson? (id : Option UserId) : Json := Json.ofInteger? (id.map (·.value))

/-- The credentials as they are sent. -/
def Credentials.toJson (f : Credentials) : Json :=
  .object [("username", .string f.username), ("password", .string f.password)]

/-- The credentials as they are shown in a diagnostic, the password hidden. -/
def Credentials.diagnostic (f : Credentials) : String :=
  "Credentials \x7b username: " ++ Text.quoted f.username ++ ", password: " ++ Text.quoted "***" ++
    " \x7d"

/-- The change of a password as it is sent. -/
def PasswordChange.toJson (f : PasswordChange) : Json :=
  .object [("userId", UserId.toJson? f.id), ("oldPassword", .string f.oldPassword),
    ("newPassword", .string f.newPassword)]

/-- The change of a profile as it is sent. -/
def ProfileUpdate.toJson (f : ProfileUpdate) : Json :=
  .object [("userId", UserId.toJson? f.id), ("displayName", .string f.displayName)]

/-- The new user as it is sent. -/
def NewUser.toJson (f : NewUser) : Json :=
  .object [("username", .string f.username), ("displayName", .string f.displayName),
    ("admin", .bool f.admin)]

/-- The change of a status as it is sent. -/
def StatusUpdate.toJson (f : StatusUpdate) : Json :=
  .object [("userId", f.id.toJson), ("disabled", .bool f.disabled)]

end AccountAdmin
