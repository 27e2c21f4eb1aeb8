import AccountAdmin.Config
import AccountAdmin.Service.Client

/-!
# The configuration file

The place of the configuration in the file system, with what can be there: a file, a directory, or
nothing, with or without a directory to put a file into.  Where nothing is, the configuration is the
default one.

The table `session` of the file is a token slot (`ConfigSlot`).  It belongs to one service: a token
that was issued by another one is not there when it is looked for, but gives way to a new one.
Failures of the slot are not reported; they leave the file as it is.

* `ConfigFile.load`, `ConfigFile.save`: the configuration in the file.
* `ConfigFile.client`: a client set up as the file says.
-/

namespace AccountAdmin

/-- What is at the place of the configuration file. -/
inductive ConfigFile where
  /-- Nothing, and no directory to put a file into. -/
  | nowhere
  /-- Nothing. -/
  | absent
  | directory
  | file (content : ByteArray)

/-- Why the configuration could not be loaded or saved. -/
inductive ConfigFault where
  | unreadable
  | malformed
  /-- A timeout is too large to be written. -/
  | unprintable
  | unwritable
  deriving DecidableEq, Repr

/-- The wording of a failure. -/
def ConfigFault.message : ConfigFault → String
  | unreadable => "Failed to read config file"
  | malformed => "Failed to parse config file"
  | unprintable => "Failed to serialize config"
  | unwritable => "Failed to write config file"

namespace ConfigFile

/-- Whether anything is there. -/
def exists? : ConfigFile → Bool
  | nowhere | absent => false
  | directory | file _ => true

/-- The configuration in the file. -/
def load : ConfigFile → Except ConfigFault Config
  | nowhere | absent => .ok {}
  | directory => .error .unreadable
  | file content =>
    match String.fromUTF8? content with
    | none => .error .unreadable
    | some s =>
      match Config.ofText s with
      | none => .error .malformed
      | some config => .ok config

/-- The file with a configuration put into it. -/
def save (f : ConfigFile) (config : Config) : Except ConfigFault ConfigFile :=
  match config.text? with
  | none => .error .unprintable
  | some s =>
    match f with
    | nowhere | directory => .error .unwritable
    | absent | file _ => .ok (file s.toUTF8)

end ConfigFile

/-- The session table of a configuration file, as the slot of one service. -/
structure ConfigSlot where
  file : ConfigFile
  baseUrl : String

namespace ConfigSlot

/-- The token in the slot. -/
def token? (s : ConfigSlot) : Option String :=
  match s.file.load with
  | .error _ => none
  | .ok config => (config.session.filter (·.issuedBy s.baseUrl)).map (·.token)

/-- The slot after its session table has been replaced, if that can be done. -/
def replace (s : ConfigSlot) (session : Option SessionRecord) : ConfigSlot :=
  match s.file.load with
  | .error _ => s
  | .ok config =>
    match s.file.save { config with session } with
    | .error _ => s
    | .ok file => { s with file }

instance : TokenSlot ConfigSlot where
  load := token?
  store token s := s.replace (some { token, baseUrl := some s.baseUrl })
  remove s := if s.file.exists? then s.replace none else s

end ConfigSlot

/-- Why a client could not be set up. -/
inductive SetupFault where
  | config (fault : ConfigFault)
  | client (error : Error)
  deriving Repr

/-- The wording of a failure, the most general one. -/
def SetupFault.message : SetupFault → String
  | config fault => fault.message
  | client _ => "Failed to build lanadmin client"

namespace ConfigFile

/-- A client set up as the file says, its base URL aside if another one is given. -/
def client (f : ConfigFile) (url : Option String) (peer : Peer) :
    Except SetupFault (Client ConfigSlot) :=
  match f.load with
  | .error e => .error (.config e)
  | .ok config =>
    let baseUrl := url.getD config.server.baseUrl
    let endpoint : Endpoint :=
      { baseUrl
        connectTimeout := config.server.connectTimeout
        readTimeout := config.server.readTimeout }
    match Client.build endpoint (.start { file := f, baseUrl }) peer with
    | .error e => .error (.client e)
    | .ok client => .ok client

end ConfigFile

end AccountAdmin
