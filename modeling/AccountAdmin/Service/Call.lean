import AccountAdmin.Account.Forms
import AccountAdmin.Service.Payload

/-!
# Calls

The service understands ten calls.  A call fixes the method, the path and the body of its request,
and how the payload of the reply is read: as a record, a list of records, a sign-in, or not at all.

* `Call.method`, `Call.path`, `Call.body`: the request.
* `Call.Answer`, `Call.decode`: the answer.
-/

namespace AccountAdmin

/-- A call of the service. -/
inductive Call where
  | authenticate (credentials : Credentials)
  | current
  | get (id : UserId)
  | list
  | create (user : NewUser)
  | changePassword (change : PasswordChange)
  | updateDetails (update : ProfileUpdate)
  | setStatus (update : StatusUpdate)
  | resetPassword (id : UserId)
  | delete (id : UserId)
  deriving DecidableEq, Repr

namespace Call

/-- The method of a call. -/
def method : Call → Method
  | authenticate _ => .post
  | current => .get
  | get _ => .get
  | list => .get
  | create _ => .post
  | changePassword _ => .post
  | updateDetails _ => .patch
  | setStatus _ => .patch
  | resetPassword _ => .post
  | delete _ => .delete

/-- The path of a call. -/
def path : Call → String
  | authenticate _ => "/authenticate"
  | current => "/user"
  | get id => "/user/" ++ id.text
  | list => "/user/list"
  | create _ => "/user/create"
  | changePassword _ => "/user/change-password"
  | updateDetails _ => "/user/details"
  | setStatus _ => "/user/status"
  | resetPassword id => "/user/" ++ id.text ++ "/reset-password"
  | delete id => "/user/" ++ id.text

/-- The body of a call, if it has one. -/
def body : Call → Option Json
  | authenticate credentials => some credentials.toJson
  | create user => some user.toJson
  | changePassword change => some change.toJson
  | updateDetails update => some update.toJson
  | setStatus update => some update.toJson
  | current | get _ | list | resetPassword _ | delete _ => none

/-- What a call answers. -/
def Answer : Call → Type
  | authenticate _ => SignIn
  | current | get _ | create _ | updateDetails _ => UserRecord
  | list => List UserRecord
  | changePassword _ | setStatus _ | resetPassword _ | delete _ => Unit

/-- The answer in a payload. -/
def decode : (call : Call) → Payload → Except Error call.Answer
  | authenticate _, p => p.decode SignIn.ofJson
  | current, p => p.decode UserRecord.ofJson
  | get _, p => p.decode UserRecord.ofJson
  | create _, p => p.decode UserRecord.ofJson
  | updateDetails _, p => p.decode UserRecord.ofJson
  | list, p => p.decode UserRecord.listOfJson
  | changePassword _, _ => .ok ()
  | setStatus _, _ => .ok ()
  | resetPassword _, _ => .ok ()
  | delete _, _ => .ok ()

end Call

end AccountAdmin
