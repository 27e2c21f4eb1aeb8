import AccountAdmin.Account.CurrentUser
import AccountAdmin.Error

/-!
# What the operator gets to see

A console never shows anything itself.  It says what is to be shown, as a list of events in the
order in which they happen, and leaves to a display how each of them looks: a window opens dialogs,
a terminal prints lines.

Most displays treat the demand for a new password as a notice and a dialog; `Event.plain` puts these
in its place.
-/

namespace AccountAdmin

/-- A dialog. -/
inductive Modal where
  | login
  | changePassword
  | editProfile
  | newUser
  deriving DecidableEq, Repr

/-- The stable identifier of a dialog. -/
def Modal.id : Modal → String
  | login => "login-modal"
  | changePassword => "change-password-modal"
  | editProfile => "edit-profile-modal"
  | newUser => "new-user-modal"

/-- Something for the operator to see. -/
inductive Event where
  /-- The current user is now this one. -/
  | applyUser (user : CurrentUser)
  /-- These are the users. -/
  | drawUserList (users : List UserRecord)
  | openModal (modal : Modal)
  | closeModal (modal : Modal)
  /-- Something succeeded. -/
  | notify (text : String)
  /-- Something failed. -/
  | reportError (error : Error)
  /-- The service demands a new password. -/
  | passwordChangeRequired
  deriving Repr

namespace Event

/-- The event on a display that has nothing special for the demand for a new password. -/
def plain : Event → List Event
  | passwordChangeRequired => [notify "Password change is required", openModal .changePassword]
  | e => [e]

end Event

end AccountAdmin
