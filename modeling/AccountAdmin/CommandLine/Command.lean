import AccountAdmin.Account.Forms
import AccountAdmin.Display.Terminal

/-!
# Commands

What the operator can ask for on a command line.
-/

namespace AccountAdmin

/-- A command. -/
inductive Command where
  | login (credentials : Credentials) (remember : Bool)
  | logout
  | status
  | whoami
  | passwd (old new again : String)
  | profile (displayName : String)
  | listUsers
  | getUser (id : UserId)
  | createUser (user : NewUser)
  | setUserEnabled (id : UserId) (enabled : Bool)
  | deleteUser (id : UserId)
  | resetPassword (id : UserId)
  | config
  | shell
  deriving DecidableEq, Repr

/-- What the command line of the program says. -/
structure Invocation where
  format : Format
  verbose : Bool
  /-- The place of the configuration file. -/
  config : Option String
  /-- The base URL. -/
  url : Option String
  command : Option Command
  deriving DecidableEq, Repr

/-- The variables of the environment that stand in for parameters. -/
structure Environment where
  config : Option String := none
  url : Option String := none
  password : Option String := none
  deriving DecidableEq, Repr

end AccountAdmin
