import AccountAdmin.Program

/-!
# The command line

Reads the command line, the environment and the configuration file, runs the program, prints what it
prints and writes the file back if it has changed.  The shell is run line by line, so that every
prompt stands before its line.  There is no connection to a network here: the peer is absent.
-/

namespace AccountAdmin

/-- What is at a place of the file system. -/
def readConfigFile (path : String) : IO ConfigFile := do
  let place := (← IO.currentDir) / path
  if ← place.isDir then return .directory
  if ← place.pathExists then return .file (← IO.FS.readBinFile place)
  match place.parent with
  | none => return .nowhere
  | some above => return if ← above.isDir then .absent else .nowhere

/-- Puts what has changed into the file system. -/
def writeConfigFile (path : String) (before after : ConfigFile) : IO Unit := do
  match before, after with
  | .file old, .file bytes => if old.toList ≠ bytes.toList then IO.FS.writeBinFile path bytes
  | _, .file bytes => IO.FS.writeBinFile path bytes
  | _, _ => return

/-- Prints a piece. -/
def Piece.print : Piece → IO Unit
  | .data s => do
    IO.print s
    (← IO.getStdout).flush
  | .hint s | .failure s => IO.eprint s
  | .misuse => IO.eprintln "error: the command line could not be understood"

/-- Runs a shell to its end. -/
def runShell (env : Environment) (start : Station) : IO Station := do
  let mut s := start
  repeat
    (Shell.prompt s.console.user).print
    let line ← (← IO.getStdin).getLine
    match Shell.lines line with
    | [] =>
      IO.println ""
      break
    | text :: _ =>
      match Shell.read env text with
      | .leave => break
      | reading =>
        let (pieces, after) := Shell.step s reading
        pieces.forM Piece.print
        s := after
  return s

/-- Runs the shell at a station, and anything else as it comes. -/
def runInvocation (world : Surroundings) (words : List String) (path : String) : IO UInt32 := do
  let file := world.files path
  match Program.shellStation? world words with
  | some s =>
    let turn := s.turn true s.console.refreshUser
    turn.pieces.forM Piece.print
    let last ← runShell world.env turn.station
    writeConfigFile path file last.file
    return 0
  | none =>
    let report := Program.run world words
    report.pieces.forM Piece.print
    match report.file with
    | some (path, after) => writeConfigFile path file after
    | none => pure ()
    return UInt32.ofNat report.exit

end AccountAdmin

open AccountAdmin in
/-- Runs the program. -/
def main (words : List String) : IO UInt32 := do
  let env : Environment :=
    { config := ← IO.getEnv "LANADMIN_CONFIG"
      url := ← IO.getEnv "LANADMIN_URL"
      password := ← IO.getEnv "LANADMIN_PASSWORD" }
  let defaultPath := toString ((← IO.appDir) / "lanadmin.toml")
  let path := (Program.path? env defaultPath words).getD defaultPath
  let file ← readConfigFile path
  let world : Surroundings := { env, defaultPath, files := fun _ => file, peer := .absent }
  runInvocation world words path
