import AccountAdmin.Program.Shell

/-!
# The program

A run of the program from its command line to its exit code.  All that the run depends on is its
`Surroundings`, and all that it leaves behind is its `Report`, so that a run is a function.

The exit code is 0 if all is well, 1 if something went wrong, and 2 if the command line could not be
understood.

* `Program.run`: a run.
* `Program.path?`: the place of the configuration file that a run looks at, if it looks at any.
* `Program.shellStation?`: where a shell starts, for one that is run line by line.
-/

namespace AccountAdmin

/-- What a run depends on, apart from its command line. -/
structure Surroundings where
  env : Environment := {}
  /-- Whether the terminal shows colours. -/
  colours : Bool := false
  /-- The text on standard input. -/
  input : String := ""
  /-- The place of the configuration file unless another one is given. -/
  defaultPath : String := "lanadmin.toml"
  /-- What is at a place of the file system. -/
  files : String → ConfigFile
  peer : Peer

/-- What a run leaves behind. -/
structure Report where
  exit : Nat
  pieces : List Piece
  /-- The requests that reached the peer. -/
  sent : List Request := []
  /-- The place of the configuration file and what is there now, if the run has looked at it. -/
  file : Option (String × ConfigFile) := none

namespace Program

/-- The exit code of a run without a command. -/
def stopCode : Line.Stop → Nat
  | .help | .version _ => 0
  | .misuse => 2

/-- The place of the configuration file. -/
def pathOf (world : Surroundings) (invocation : Invocation) : String :=
  invocation.config.getD world.defaultPath

/-- The report of a run that got as far as a station. -/
def reportOf (exit : Nat) (pieces : List Piece) (s : Station) : Report where
  exit := exit
  pieces := pieces
  sent := s.console.client.wire.sent
  file := some (s.path, s.file)

/-- Runs a command at a station, or the shell. -/
def runAt (world : Surroundings) (s : Station) (command : Command) : Report :=
  match command with
  | .shell =>
    let (pieces, last) := Shell.run world.env s world.input
    reportOf 0 pieces last
  | command =>
    let turn := command.run s
    reportOf (if turn.ending = .done then 0 else 1)
      (turn.pieces ++ Shell.endingPieces s.terminal turn.ending) turn.station

/-- The terminal of a run. -/
def terminalOf (world : Surroundings) (invocation : Invocation) : Terminal :=
  { format := invocation.format, colours := world.colours }

/-- Sets up a station. -/
def stationOf (world : Surroundings) (invocation : Invocation) : Except SetupFault Station :=
  let path := pathOf world invocation
  ((world.files path).client invocation.url world.peer).map fun client =>
    { console := { client }, terminal := terminalOf world invocation, path }

/-- Sets up a station and runs a command there. -/
def runCommand (world : Surroundings) (invocation : Invocation) (command : Command) : Report :=
  match stationOf world invocation with
  | .error fault =>
    let path := pathOf world invocation
    { exit := 1
      pieces := [(terminalOf world invocation).failed fault.details]
      file := some (path, world.files path) }
  | .ok s => runAt world s command

/-- A run of the program. -/
def run (world : Surroundings) (words : List String) : Report :=
  match Line.readProgram world.env words with
  | .error stop => { exit := stopCode stop, pieces := stop.pieces }
  | .ok invocation =>
    match invocation.command with
    | some command => runCommand world invocation command
    | none =>
      let terminal : Terminal := { colours := world.colours }
      { exit := 1
        pieces := [terminal.failed "No command given. Run \x60lanadmin --help\x60 for usage."] }

/-- The station of a run that is a shell. -/
def shellStation? (world : Surroundings) (words : List String) : Option Station :=
  match Line.readProgram world.env words with
  | .error _ => none
  | .ok invocation =>
    if invocation.command = some .shell then (stationOf world invocation).toOption else none

/-- The place of the configuration file that a run looks at, if it looks at any. -/
def path? (env : Environment) (defaultPath : String) (words : List String) : Option String :=
  match Line.readProgram env words with
  | .error _ => none
  | .ok invocation => invocation.command.map fun _ => invocation.config.getD defaultPath

end Program

end AccountAdmin
