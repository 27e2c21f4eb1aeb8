import AccountAdmin.CommandLine.Reader
import AccountAdmin.CommandLine.Words
import AccountAdmin.Program.Station

/-!
# The shell

The shell asks for the current user and then reads lines, one command a line, until a line starts
with the word `exit` or `quit` or there are no more lines.  Whatever goes wrong in a line, the next
one is read.  All commands run at the same station, so a token lives as long as the shell.

* `Shell.lines`: the lines of a text.
* `Shell.run`: what a shell prints, and the station after it.
-/

namespace AccountAdmin

/-- What is printed for a line of which no command comes, its help aside. -/
def Line.Stop.pieces : Line.Stop → List Piece
  | .help => [Terminal.line "Commands: auth, whoami, passwd, profile, user, config, shell"]
  | .version place => [Terminal.line (place.programName ++ " 0.1.0")]
  | .misuse => [.misuse]

namespace Shell

/-- A line without the carriage return at its end. -/
def chomp (line : List Char) : List Char :=
  match line.getLast? with
  | some '\r' => line.dropLast
  | _ => line

/-- The lines of a text.  A carriage return before a line feed belongs to the end of the line, and a
text that ends with a line feed has no line after it. -/
def lines (s : String) : List String :=
  let parts := s.toList.splitOn '\n'
  let ended := parts.dropLast.map chomp
  let rest := match parts.getLast? with
    | none => []
    | some [] => []
    | some last => [last]
  (ended ++ rest).map String.ofList

/-- What is printed before a line is read. -/
def prompt (user : CurrentUser) : Piece :=
  .data ("lanadmin(" ++ (if user.isGuest then "guest" else "@" ++ user.username) ++ ")> ")

/-- What becomes of a line: nothing, the end of the shell, a failure to be shown, or a command. -/
inductive Reading where
  | blank
  | leave
  | refused (stop : Line.Stop)
  | unclosed
  | command (c : Command)
  deriving DecidableEq, Repr

/-- Reads a line. -/
def read (env : Environment) (line : String) : Reading :=
  match Words.ofLine line with
  | .error _ => .unclosed
  | .ok [] => .blank
  | .ok (word :: rest) =>
    if word = "exit" ∨ word = "quit" then .leave
    else
      match Line.readShell env (word :: rest) with
      | .error stop => .refused stop
      | .ok c => .command c

/-- What is printed for the end of a turn. -/
def endingPieces (t : Terminal) : Ending → List Piece
  | .done | .reported => []
  | .failed text => [t.failed text]

/-- What is printed for a line that does not end the shell, and the station after it. -/
def step (s : Station) : Reading → List Piece × Station
  | .blank | .leave => ([], s)
  | .refused stop => (stop.pieces, s)
  | .unclosed => ([s.terminal.failed (UnterminatedQuote.message {})], s)
  | .command .shell => ([s.terminal.hint .dimmed "Already in a shell"], s)
  | .command c =>
    let turn := c.run s
    (turn.pieces ++ endingPieces s.terminal turn.ending, turn.station)

/-- What is printed while lines are read, and the station after them. -/
def loop (env : Environment) (s : Station) : List String → List Piece × Station
  | [] => ([prompt s.console.user, .data "\n"], s)
  | line :: rest =>
    match read env line with
    | .leave => ([prompt s.console.user], s)
    | reading =>
      let (pieces, after) := step s reading
      let (more, last) := loop env after rest
      (prompt s.console.user :: (pieces ++ more), last)

/-- What a shell prints, and the station after it. -/
def run (env : Environment) (s : Station) (input : String) : List Piece × Station :=
  let turn := s.turn true s.console.refreshUser
  let (pieces, last) := loop env turn.station (lines input)
  (turn.pieces ++ pieces, last)

end Shell

end AccountAdmin
