import AccountAdmin.CommandLine.Command
import AccountAdmin.Config.File
import AccountAdmin.Console

/-!
# Commands at work

A station is a console with a terminal in front of it and the configuration file behind it.  Running
a command there takes a turn: something is printed, the console moves on, and either all is well, or
the terminal has already shown what is wrong, or that is still to be shown.

* `Station.turn`: the turn of an action.
* `Command.run`: the turn of a command.
-/

namespace AccountAdmin

/-- A console, a terminal and the place of the configuration file. -/
structure Station where
  console : Console ConfigSlot
  terminal : Terminal
  path : String

/-- How a turn ends. -/
inductive Ending where
  | done
  /-- Something is wrong, which the terminal has shown. -/
  | reported
  /-- Something is wrong, which is still to be shown. -/
  | failed (text : String)
  deriving DecidableEq, Repr

/-- What a command comes to. -/
structure Turn where
  ending : Ending
  pieces : List Piece
  station : Station

/-- The turn of a command and, if all is well, of another one after it. -/
def Turn.andThen (t : Turn) (next : Station → Turn) : Turn :=
  match t.ending with
  | .done =>
    let after := next t.station
    { after with pieces := t.pieces ++ after.pieces }
  | _ => t

/-- The text that says why the configuration could not be loaded or saved. -/
def ConfigFault.details : ConfigFault → String
  | unreadable => unreadable.message ++ ": there is no text"
  | malformed => malformed.message ++ ": the text is no configuration"
  | unprintable => unprintable.message ++ ": a timeout is too large"
  | unwritable => unwritable.message ++ ": there is no place for a file"

/-- The text that says why a client could not be set up, from the most general cause to the most
specific one. -/
def SetupFault.details (fault : SetupFault) : String :=
  match fault with
  | .config fault => fault.details
  | .client (.url cause) =>
    fault.message ++ ": " ++ (Error.url cause).message ++ ": " ++ cause.message
  | .client e => fault.message ++ ": " ++ e.message

namespace Station

/-- The content of the configuration file. -/
def file (s : Station) : ConfigFile := s.console.client.session.slot.file

/-- A turn that only prints. -/
def print (s : Station) (pieces : List Piece) : Turn := ⟨.done, pieces, s⟩

/-- The turn of an action.  The current user is echoed only if that is asked for. -/
def turn {α : Type} (s : Station) (echo : Bool) (o : Outcome ConfigSlot α) : Turn where
  ending := match o.result with
    | .ok _ => .done
    | .error _ => .reported
  pieces := o.events.flatMap (s.terminal.render echo)
  station := { s with console := o.console }

/-- Fetches the current user without echoing it, and goes on. -/
def withUser (s : Station) (next : Station → Turn) : Turn :=
  (s.turn false s.console.refreshUser).andThen next

/-- Fetches the record of a user, and goes on with an action on it. -/
def withRecord {α : Type} (s : Station) (id : UserId)
    (next : UserRecord → Console ConfigSlot → Outcome ConfigSlot α) : Turn :=
  s.turn true ((s.console.perform (.get id)).andThen next)

/-- Signs in, and says so if the session will end with the program. -/
def login (s : Station) (credentials : Credentials) (remember : Bool) : Turn :=
  (s.turn true (s.console.login credentials remember)).andThen fun s =>
    s.print (if remember ∨ s.terminal.format = .json then []
      else [s.terminal.hint .dimmed "Session not saved; pass --remember to keep it."])

/-- Says whether there is a token. -/
def status (s : Station) : Turn :=
  let client := s.console.client
  let persisted := client.session.isPersisted
  s.print [
    if s.terminal.format = .json then
      Terminal.json (.object [("authenticated", .bool client.isAuthenticated),
        ("base_url", .string client.endpoint.baseUrl), ("persisted", .bool persisted)])
    else if client.isAuthenticated then
      Terminal.line (s.terminal.paint .green ("Holding a token for " ++ client.endpoint.baseUrl) ++
        (if persisted then " (saved)" else " (this session only)"))
    else Terminal.line (s.terminal.paint .dimmed "Not logged in")]

/-- A number of seconds as JSON. -/
def secondsJson (n : Option UInt64) : Json := Json.ofInteger? (n.map fun n => (n.toNat : Int))

/-- The line for a number of seconds, if it is set. -/
def secondsLine (name : String) : Option UInt64 → List Piece
  | none => []
  | some n => [Terminal.line (name ++ ": " ++ String.ofList (Text.decimal n.toNat) ++ "s")]

/-- Shows the configuration. -/
def showConfig (s : Station) : Turn :=
  match s.file.load with
  | .error e => ⟨.failed e.details, [], s⟩
  | .ok config =>
    let client := s.console.client
    let persisted := client.session.isPersisted
    let server := config.server
    if s.terminal.format = .json then
      s.print [Terminal.json (.object [
        ("base_url", .string client.endpoint.baseUrl),
        ("config_file", .string s.path),
        ("connect_timeout_secs", secondsJson server.connectTimeout),
        ("read_timeout_secs", secondsJson server.readTimeout),
        ("session_persisted", .bool persisted)])]
    else
      s.print ([Terminal.line ("Config file: " ++ s.path),
          Terminal.line ("Server: " ++ client.endpoint.baseUrl)] ++
        secondsLine "Connect timeout" server.connectTimeout ++
        secondsLine "Read timeout" server.readTimeout ++
        [Terminal.line ("Session persisted: " ++ (if persisted then "true" else "false"))])

end Station

/-- Runs a command; the shell itself is no command of a station. -/
def Command.run (command : Command) (s : Station) : Turn :=
  match command with
  | .login credentials remember => s.login credentials remember
  | .logout => s.turn true s.console.logout
  | .status => s.status
  | .whoami => s.turn true s.console.refreshUser
  | .passwd old new again =>
    s.withUser fun s => s.turn true (s.console.changePassword old new again)
  | .profile displayName =>
    s.withUser fun s => s.turn true (s.console.updateProfile displayName)
  | .listUsers => s.turn true s.console.listUsers
  | .getUser id => s.turn true (s.console.showUser id)
  | .createUser user => s.turn true (s.console.addUser user)
  | .setUserEnabled id enabled => s.withRecord id fun u c => c.setUserEnabled u enabled
  | .deleteUser id => s.withRecord id fun u c => c.deleteUser u
  | .resetPassword id => s.withRecord id fun u c => c.resetUserPassword u
  | .config => s.showConfig
  | .shell => ⟨.failed "Already in a shell", [], s⟩

end AccountAdmin
