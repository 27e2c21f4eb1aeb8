import AccountAdmin.Account.UserRecord

/-!
# The current user

Who is signed in.  Somebody is signed in exactly when there is an id; without one everything else
about the current user is fixed, and `CurrentUser` is the guest.  A record of the service replaces
all of the current user, so nothing of the previous one shows through.

* `CurrentUser.guest`: nobody.
* `CurrentUser.ofRecord`: the user of a record; `CurrentUser.ofRecord_of_id_none` says when it is
  nobody.
-/

namespace AccountAdmin

/-- Who is signed in. -/
@[ext] structure CurrentUser where
  id : Option UserId
  username : String
  displayName : String
  admin : Bool
  deriving DecidableEq, Repr

namespace CurrentUser

/-- Nobody. -/
def guest : CurrentUser := ⟨none, "anonymous", "Guest", false⟩

instance : Inhabited CurrentUser := ⟨guest⟩

/-- The user of a record. -/
def ofRecord (u : UserRecord) : CurrentUser :=
  match u.id with
  | some id => ⟨some id, u.username, u.displayName, u.admin⟩
  | none => guest

/-- Whether nobody is signed in. -/
def isGuest (u : CurrentUser) : Bool := u.id.isNone

/-- The current user as JSON. -/
def toJson (u : CurrentUser) : Json :=
  .object [
    ("id", Json.ofInteger? (u.id.map (·.value))),
    ("username", .string u.username),
    ("display_name", .string u.displayName),
    ("is_admin", .bool u.admin)]

theorem ofRecord_of_id_none {u : UserRecord} (h : u.id = none) : ofRecord u = guest := by
  simp [ofRecord, h]

@[simp] theorem id_ofRecord (u : UserRecord) : (ofRecord u).id = u.id := by
  unfold ofRecord
  cases h : u.id <;> simp [guest]

@[simp] theorem isGuest_ofRecord (u : UserRecord) : (ofRecord u).isGuest = u.id.isNone := by
  simp [isGuest]

end CurrentUser

end AccountAdmin
